import Mathlib.Data.List.Infix
import NoteDialogue.Proofs.Reference.Layout
import NoteDialogue.Proofs.Text.Collapse
import NoteDialogue.Proofs.Text.Passage

/-!
# What is left over

Once the passes are over, no tag can be read in what they have left, at any place (`quotedTag_nowhere_cut`,
`bareTag_nowhere_cut`): a space in the place of a mention neither opens nor ends a tag that could not be read
before.  Collapsing blanks makes no tag readable either, so the span of a tag never occurs in the rest of the
utterance.

A link is different, since what was cut out inside of a pair of brackets leaves a space.  The span of a link
occurs in the rest exactly if a stretch of the utterance out of which a link was cut collapses to it
(`MentionReading.contains_span_iff`).
-/

set_option autoImplicit false

namespace NoteDialogue

open Text (asciiLower isBlank)

variable {pass : Recogniser} {text stretch rest : List Char} {segments after : List (Segment Char)}
  {c : Char}

/-! ## Where tags are read -/

theorem quotedTag_ne_none_iff :
    quotedTag text ≠ none ↔ ∃ spelled title rest, text = spelled ++ (title ++ '"' :: rest) ∧
      spelled.map asciiLower = (referenceTag ++ ['"']).map asciiLower ∧ '"' ∉ title ∧
      ∃ c ∈ title, isBlank c = false := by
  constructor
  · intro reads
    obtain ⟨found, reads⟩ := Option.ne_none_iff_exists'.mp reads
    obtain ⟨spelled, title, rest, split, same, inside, visible, -⟩ := enclosed_eq_some reads
    refine ⟨spelled, title, rest, split, same, fun quote => ?_, Text.trimChars_ne_nil_iff.mp visible⟩
    exact absurd (inside _ quote) (by simp)
  · rintro ⟨spelled, title, rest, rfl, same, noQuote, visible⟩
    have inside : ∀ c ∈ title, decide (c = '"') = false := fun c member =>
      decide_eq_false fun quote => noQuote (quote ▸ member)
    have reads := @enclosed_of_spelled _ ['"'] _ _ rest (· = '"') same inside (by simp)
      (Text.trimChars_ne_nil_iff.mpr visible)
    exact fun none => Option.some_ne_none _ (reads.symm.trans none)

theorem bareTag_ne_none_iff :
    bareTag text ≠ none ↔ ∃ tag token rest, text = tag ++ (token ++ rest) ∧
      tag.map asciiLower = referenceTag ∧ (∀ c ∈ token, isTokenChar c = true) ∧
      ∃ c ∈ token, isClauseMark c = false := by
  constructor
  · intro reads
    obtain ⟨found, reads⟩ := Option.ne_none_iff_exists'.mp reads
    obtain ⟨tag, token, rest, split, same, some, inside, last, -⟩ := bareTag_eq_some reads
    have isLast := List.getLast?_eq_some_getLast some
    exact ⟨tag, token, rest, split, same, inside, _, List.getLast_mem some, last _ isLast⟩
  · rintro ⟨tag, token, rest, rfl, same, inside, c, member, noMark⟩
    have opens : Text.afterOpening? referenceTag (tag ++ (token ++ rest)) = some (token ++ rest) :=
      Text.afterOpening?_eq_some_iff.mpr ⟨tag, rfl, same⟩
    have kept : c ∈ (token ++ rest).takeWhile isTokenChar := by
      rw [List.takeWhile_append_of_pos inside]
      exact List.mem_append_left _ member
    simp [bareTag, opens, Text.dropTrailing_ne_nil kept noMark]

theorem space_notMem (visible : ∀ c ∈ text, isBlank c = false) : ' ' ∉ text :=
  fun space => nomatch (show isBlank ' ' = true from rfl).symm.trans (visible _ space)

/-! ## What a pass leaves -/

/-- Nothing is recognised at any place of the text. -/
def Recogniser.Nowhere (recognise : Recogniser) (text : List Char) : Prop :=
  ∀ suffix, suffix <:+ text → recognise suffix = none

/-- What is recognised begins with a mark that is neither blank nor a quote. -/
def Recogniser.Marked (recognise : Recogniser) : Prop :=
  ∀ text, recognise text ≠ none → ∃ mark rest, text = mark :: rest ∧ isBlank mark = false ∧ mark ≠ '"'

/-- Without a space among them, the characters that a pass has left were there before. -/
theorem exists_left (same : segments.map (Segment.letter id) = stretch ++ rest) (noSpace : ' ' ∉ stretch) :
    ∃ after, segments = stretch.map .left ++ after ∧ after.map (Segment.letter id) = rest := by
  induction stretch generalizing segments with
  | nil => exact ⟨segments, rfl, same⟩
  | cons c stretch ih =>
      obtain ⟨here, later⟩ := not_or.mp (mt List.mem_cons.mpr noSpace)
      cases segments with
      | nil => cases same
      | cons segment segments =>
          obtain ⟨letter, further⟩ := List.cons.inj same
          obtain ⟨after, rfl, ends⟩ := ih further later
          cases segment with
          | left item =>
              obtain rfl : item = c := letter
              exact ⟨after, rfl, ends⟩
          | mention => exact absurd letter here

/-- A visible character before a quote. -/
theorem exists_title_of_mem {mark : Char} (visible : isBlank mark = false) (notQuote : mark ≠ '"')
    (quote : '"' ∈ text) :
    ∃ title rest, mark :: text = title ++ '"' :: rest ∧ '"' ∉ title ∧ ∃ c ∈ title, isBlank c = false := by
  obtain ⟨front, back, rfl, absent⟩ := List.eq_append_cons_of_mem quote
  refine ⟨mark :: front, back, rfl, ?_, mark, List.mem_cons_self, visible⟩
  exact fun inside => absent ((List.mem_cons.mp inside).resolve_left notQuote.symm)

/-- A character that is left was there before, unless it is a space. -/
theorem mem_items_of_mem_letters (notSpace : c ≠ ' ') (inside : c ∈ segments.map (Segment.letter id)) :
    c ∈ segments.flatMap Segment.items := by
  obtain ⟨segment, member, rfl⟩ := List.mem_map.mp inside
  cases segment with
  | left item => exact List.mem_flatMap.mpr ⟨_, member, List.mem_singleton_self item⟩
  | mention => exact absurd rfl notSpace

/-- Where a title that is not blank ends with a quote after the pass, one did before the pass. -/
theorem exists_title {title : List Char}
    (marked : ∀ within value, Segment.mention within value ∈ segments →
      ∃ mark rest, within = mark :: rest ∧ isBlank mark = false ∧ mark ≠ '"')
    (same : segments.map (Segment.letter id) = title ++ '"' :: rest) (noQuote : '"' ∉ title)
    (visible : ∃ c ∈ title, isBlank c = false) :
    ∃ title rest, segments.flatMap Segment.items = title ++ '"' :: rest ∧ '"' ∉ title ∧
      ∃ c ∈ title, isBlank c = false := by
  induction title generalizing segments with
  | nil =>
      obtain ⟨c, none, -⟩ := visible
      cases none
  | cons c title ih =>
      cases segments with
      | nil => cases same
      | cons segment segments =>
          obtain ⟨letter, further⟩ := List.cons.inj same
          obtain ⟨notQuote, noneLater⟩ := not_or.mp (mt List.mem_cons.mpr noQuote)
          have quote : '"' ∈ segments.flatMap Segment.items :=
            mem_items_of_mem_letters (by decide) (further ▸ List.mem_append_right _ List.mem_cons_self)
          rw [List.flatMap_cons]
          cases segment with
          | left item =>
              obtain rfl : item = c := letter
              cases blank : isBlank item with
              | false => exact exists_title_of_mem blank (Ne.symm notQuote) quote
              | true =>
                  -- The blank is part of the title, and what makes it visible comes later.
                  have later : ∃ c ∈ title, isBlank c = false := by
                    obtain ⟨d, inside, visible⟩ := visible
                    rcases List.mem_cons.mp inside with rfl | inside
                    · exact absurd (blank.symm.trans visible) nofun
                    · exact ⟨d, inside, visible⟩
                  obtain ⟨title, rest, split, noQuote, d, inside, visible⟩ :=
                    ih (fun within value member => marked within value (List.mem_cons_of_mem _ member))
                      further noneLater later
                  refine ⟨item :: title, rest, by rw [split]; rfl, ?_, d, List.mem_cons_of_mem _ inside,
                    visible⟩
                  exact fun inside => noQuote ((List.mem_cons.mp inside).resolve_left notQuote)
          | mention within value =>
              obtain ⟨mark, rest, rfl, visible, notQuote⟩ := marked within value List.mem_cons_self
              exact exists_title_of_mem visible notQuote (List.mem_append_right rest quote)

/-- A pass makes nothing readable anew, if what is read in what it leaves begins with what it left and was
read there before. -/
theorem nowhere_cut {recognise : Recogniser} (fits : pass.Fits)
    (unread : ∀ suffix, suffix <:+ text → pass suffix = none → recognise suffix = none)
    (readBefore : ∀ segments : List (Segment Char),
      (∀ within value, Segment.mention within value ∈ segments →
        within ≠ [] ∧ ∃ rest, pass (within ++ rest) ≠ none) →
      recognise (segments.map (Segment.letter id)) ≠ none →
      ∃ stretch after, stretch ≠ [] ∧ segments = stretch.map .left ++ after ∧
        recognise (stretch ++ after.flatMap Segment.items) ≠ none) :
    recognise.Nowhere (cut pass text).1 := by
  obtain ⟨segments, divides, cuts⟩ := exists_divides_cut fits text
  rw [cuts]
  intro suffix within
  obtain ⟨later, place, rfl⟩ := List.suffix_map_iff.mp within
  by_contra reads
  have cutOut : ∀ within value, Segment.mention within value ∈ later →
      within ≠ [] ∧ ∃ rest, pass (within ++ rest) ≠ none := by
    intro within value member
    obtain ⟨some, rest, reads⟩ := divides.reads (place.subset member)
    rw [List.map_id, List.map_id] at reads
    exact ⟨some, rest, reads ▸ Option.some_ne_none _⟩
  obtain ⟨stretch, after, some, rfl, readsBefore⟩ := readBefore later cutOut reads
  obtain ⟨standing, none⟩ := divides.unread_stretch some place
  rw [List.map_id] at none
  exact readsBefore (unread _ standing none)

/-- **After a pass no tag with a title in quotes can be read** that could not be read before. -/
theorem quotedTag_nowhere_cut (fits : pass.Fits) (marked : pass.Marked)
    (unread : ∀ suffix, suffix <:+ text → pass suffix = none → quotedTag suffix = none) :
    quotedTag.Nowhere (cut pass text).1 := by
  refine nowhere_cut fits unread fun segments cutOut reads => ?_
  obtain ⟨spelled, title, rest, split, opens, noQuote, visible⟩ := quotedTag_ne_none_iff.mp reads
  have visibleOpening := Text.visible_of_spelled opens (Text.visible_of_all rfl)
  obtain ⟨after, rfl, closes⟩ := exists_left split (space_notMem visibleOpening)
  have marks : ∀ within value, Segment.mention within value ∈ after →
      ∃ mark rest, within = mark :: rest ∧ isBlank mark = false ∧ mark ≠ '"' := by
    intro within value member
    obtain ⟨some, rest, reads⟩ := cutOut within value (List.mem_append_right _ member)
    obtain ⟨mark, more, split, bare⟩ := marked _ reads
    obtain ⟨first, items, rfl⟩ := List.exists_cons_of_ne_nil some
    obtain ⟨rfl, -⟩ := List.cons.inj split
    exact ⟨_, items, rfl, bare⟩
  obtain ⟨title, rest, before, noQuote, visible⟩ := exists_title marks closes noQuote visible
  have some : spelled ≠ [] := by
    rintro rfl
    cases opens
  refine ⟨spelled, after, some, rfl, ?_⟩
  rw [before]
  exact quotedTag_ne_none_iff.mpr ⟨spelled, title, rest, rfl, opens, noQuote, visible⟩

/-- **After a pass no tag with a bare token can be read** that could not be read before. -/
theorem bareTag_nowhere_cut (fits : pass.Fits)
    (unread : ∀ suffix, suffix <:+ text → pass suffix = none → bareTag suffix = none) :
    bareTag.Nowhere (cut pass text).1 := by
  refine nowhere_cut fits unread fun segments _ reads => ?_
  obtain ⟨tag, token, rest, split, opens, inside, noMark⟩ := bareTag_ne_none_iff.mp reads
  rw [← List.append_assoc] at split
  obtain ⟨after, rfl, -⟩ := exists_left split (space_notMem_bare opens inside)
  have some : tag ++ token ≠ [] := by
    obtain ⟨c, member, -⟩ := noMark
    exact List.append_ne_nil_of_right_ne_nil tag (List.ne_nil_of_mem member)
  refine ⟨tag ++ token, after, some, rfl, ?_⟩
  exact bareTag_ne_none_iff.mpr ⟨tag, token, _, List.append_assoc _ _ _, opens, inside, noMark⟩

/-! ## After all passes -/

theorem exists_mark {spelled opening : List Char} {mark : Char}
    (same : spelled.map asciiLower = (mark :: opening).map asciiLower)
    (noLetter : ¬ ('a' ≤ asciiLower mark ∧ asciiLower mark ≤ 'z')) :
    ∃ rest, spelled = asciiLower mark :: rest := by
  cases spelled with
  | nil => cases same
  | cons first rest =>
      obtain ⟨first, -⟩ := List.cons.inj same
      exact ⟨rest, by rw [Text.eq_of_asciiLower_eq first noLetter]⟩

theorem enclosed_marked {opening closing : List Char} {excluded : Char → Bool} {mark : Char}
    (noLetter : ¬ ('a' ≤ asciiLower mark ∧ asciiLower mark ≤ 'z'))
    (visible : isBlank (asciiLower mark) = false) (notQuote : asciiLower mark ≠ '"') :
    (enclosed (mark :: opening) closing excluded).Marked := by
  intro text reads
  obtain ⟨found, reads⟩ := Option.ne_none_iff_exists'.mp reads
  obtain ⟨spelled, title, rest, rfl, same, -⟩ := enclosed_eq_some reads
  obtain ⟨more, rfl⟩ := exists_mark same noLetter
  exact ⟨_, _, rfl, visible, notQuote⟩

theorem quotedTag_marked : quotedTag.Marked :=
  enclosed_marked (by decide) (by decide) (by decide)

theorem wikiLink_marked : wikiLink.Marked :=
  enclosed_marked (by decide) (by decide) (by decide)

theorem bareTag_marked : bareTag.Marked := by
  intro text reads
  obtain ⟨tag, token, rest, rfl, same, -⟩ := bareTag_ne_none_iff.mp reads
  have spelled : tag.map asciiLower = ('@' :: "note:".toList).map asciiLower := same
  obtain ⟨more, rfl⟩ := exists_mark spelled (by decide)
  exact ⟨_, _, rfl, by decide, by decide⟩

/-- No tag can be read in what all passes have left. -/
theorem Laid.tags_nowhere {layout : Layout} (laid : Laid text layout) :
    quotedTag.Nowhere layout.rest ∧ bareTag.Nowhere layout.rest := by
  have quotedFirst : quotedTag.Nowhere (cut quotedTag text).1 :=
    quotedTag_nowhere_cut quotedTag_fits quotedTag_marked fun _ _ unread => unread
  have quotedSecond : quotedTag.Nowhere (cut bareTag (cut quotedTag text).1).1 :=
    quotedTag_nowhere_cut bareTag_fits bareTag_marked fun suffix within _ => quotedFirst suffix within
  have bareSecond : bareTag.Nowhere (cut bareTag (cut quotedTag text).1).1 :=
    bareTag_nowhere_cut bareTag_fits fun _ _ unread => unread
  rw [laid.bare] at quotedSecond bareSecond
  have quotedThird := quotedTag_nowhere_cut wikiLink_fits wikiLink_marked fun suffix within _ =>
    quotedSecond suffix within
  have bareThird := bareTag_nowhere_cut wikiLink_fits fun suffix within _ => bareSecond suffix within
  rw [laid.link] at quotedThird bareThird
  exact ⟨quotedThird, bareThird⟩

/-! ## Spans of tags -/

/-- What is squeezed to a title between marks is a title between the same marks. -/
theorem exists_title_of_squeeze {opening closing title stretch : List Char}
    (opens : ∀ c ∈ opening, isBlank c = false) (closes : ∀ c ∈ closing, isBlank c = false)
    (some : closing ≠ []) (same : Text.squeeze stretch = opening ++ (title ++ closing)) :
    ∃ original, stretch = opening ++ (original ++ closing) ∧ Text.squeeze original = title := by
  obtain ⟨later, rfl, ends⟩ := Text.exists_of_squeeze_eq_append opens same
  obtain ⟨mark, closing, rfl⟩ := List.exists_cons_of_ne_nil some
  obtain ⟨original, right, rfl, inside, last⟩ :=
    Text.exists_of_squeeze_eq (closes mark List.mem_cons_self) ends
  rw [← List.append_nil closing] at last
  obtain ⟨none, rfl, atEnd⟩ :=
    Text.exists_of_squeeze_eq_append (fun c member => closes c (List.mem_cons_of_mem _ member)) last
  obtain rfl := Text.eq_nil_of_squeeze_eq_nil atEnd
  exact ⟨original, by rw [List.append_nil], inside⟩

theorem quoted_span_lost {left : List Char} (nowhere : quotedTag.Nowhere left) {found : Cut}
    (member : found ∈ (cut quotedTag text).2) : ¬ found.span <:+: Text.collapsed left := by
  intro occurs
  obtain ⟨segments, divides, inside⟩ := exists_divides_of_mem_cut quotedTag_fits member
  obtain ⟨spelled, title, span, opens, noQuote, visible, -⟩ := divides.enclosed_mention inside
  obtain ⟨stretch, ⟨before, after, rfl⟩, same⟩ := Text.exists_squeeze_of_infix_collapsed occurs
  rw [List.map_id] at span
  rw [span] at same
  have visibleOpening := Text.visible_of_spelled opens (Text.visible_of_all rfl)
  obtain ⟨original, rfl, rfl⟩ := exists_title_of_squeeze visibleOpening (Text.visible_of_all rfl)
    (List.cons_ne_nil _ _) same
  have reads : quotedTag (spelled ++ (original ++ '"' :: after)) ≠ none := by
    refine quotedTag_ne_none_iff.mpr ⟨spelled, original, after, rfl, opens, fun quote => ?_, ?_⟩
    · exact absurd (noQuote _ ((Text.mem_squeeze_iff rfl).mpr quote)) (by simp)
    · exact Text.trimChars_ne_nil_iff.mp (Text.trimChars_squeeze_ne_nil_iff.mp visible)
  exact reads (nowhere _ ⟨before, by simp⟩)

theorem bare_span_lost {left : List Char} (nowhere : bareTag.Nowhere left) {found : Cut}
    (member : found ∈ (cut bareTag text).2) : ¬ found.span <:+: Text.collapsed left := by
  intro occurs
  obtain ⟨segments, divides, inside⟩ := exists_divides_of_mem_cut bareTag_fits member
  obtain ⟨tag, span, opens, some, token, last⟩ := divides.bareTag_mention inside
  obtain ⟨stretch, ⟨before, after, rfl⟩, same⟩ := Text.exists_squeeze_of_infix_collapsed occurs
  rw [List.map_id] at span
  have visible : ∀ c ∈ found.span, isBlank c = false := by
    rw [span, List.forall_mem_append]
    have plain : ∀ c ∈ referenceTag, isBlank c = false := Text.visible_of_all rfl
    rw [← map_asciiLower_referenceTag] at opens
    exact ⟨Text.visible_of_spelled opens plain, fun c inToken => visible_of_token (token c inToken)⟩
  rw [← List.append_nil found.span] at same
  obtain ⟨none, rfl, atEnd⟩ := Text.exists_of_squeeze_eq_append visible same
  obtain rfl := Text.eq_nil_of_squeeze_eq_nil atEnd
  have reads : bareTag (tag ++ (found.value ++ after)) ≠ none :=
    bareTag_ne_none_iff.mpr ⟨tag, found.value, after, rfl, opens, token, _, List.getLast_mem some,
      last _ (List.getLast?_eq_some_getLast some)⟩
  exact reads (nowhere _ ⟨before, by simp [span]⟩)

/-! ## Spans of links -/

/-- A stretch of the utterance collapses to the passage after a link was cut out of it. -/
def Layout.Respells (layout : Layout) (passage : List Char) : Prop :=
  ∃ before around after, layout.places = before ++ (around ++ after) ∧
    (∃ within title, Segment.mention within title ∈ around) ∧
    Text.collapseBlanks (String.ofList (around.map (Segment.letter Piece.letter))) = String.ofList passage

theorem visible_of_bracket (bracket : isBracket c = true) : isBlank c = false := by
  simp only [isBracket, Bool.or_eq_true, decide_eq_true_eq] at bracket
  rcases bracket with rfl | rfl <;> rfl

/-- Where a link is read once the blanks are squeezed, it is read before. -/
theorem wikiLink_ne_none_of_squeeze {spelled title : List Char}
    (opens : spelled.map asciiLower = ['[', '['].map asciiLower)
    (unbracketed : ∀ c ∈ title, isBracket c = false) (visible : Text.trimChars title ≠ [])
    (same : Text.squeeze stretch = spelled ++ (title ++ [']', ']'])) (rest : List Char) :
    wikiLink (stretch ++ rest) ≠ none := by
  have visibleOpening := Text.visible_of_spelled opens (Text.visible_of_all rfl)
  obtain ⟨original, rfl, rfl⟩ := exists_title_of_squeeze visibleOpening (Text.visible_of_all rfl)
    (List.cons_ne_nil _ _) same
  have titled : ∀ c ∈ original, isBracket c = false := by
    intro c inside
    by_contra bracket
    rw [Bool.not_eq_false] at bracket
    have kept := unbracketed c ((Text.mem_squeeze_iff (visible_of_bracket bracket)).mpr inside)
    exact Bool.false_ne_true (kept.symm.trans bracket)
  have reads := @enclosed_of_spelled _ [']', ']'] _ _ rest isBracket opens titled (by simp [isBracket])
    (Text.trimChars_squeeze_ne_nil_iff.mp visible)
  rw [List.append_assoc, List.append_assoc, wikiLink, reads]
  exact Option.some_ne_none _

/-- The span of a link occurs in what is left exactly if it is spelled again. -/
theorem Laid.link_infix_iff {layout : Layout} (laid : Laid text layout) {link : Cut}
    (member : link ∈ layout.links) :
    link.span <:+: Text.collapsed layout.rest ↔ layout.Respells link.span := by
  have cutOut : link ∈ (cut wikiLink (layout.pieces.map Piece.letter)).2 := by
    rwa [laid.link]
  obtain ⟨segments, divides, inside⟩ := exists_divides_of_mem_cut wikiLink_fits cutOut
  obtain ⟨spelled, title, span, opens, unbracketed, visible, -⟩ := divides.enclosed_mention inside
  rw [List.map_id] at span
  have visibleOpening := Text.visible_of_spelled opens (Text.visible_of_all rfl)
  have some : spelled ≠ [] := by
    rintro rfl
    cases opens
  have someSpan : link.span ≠ [] := span ▸ List.append_ne_nil_of_left_ne_nil some _
  have bareEnds : Text.HasBareEnds link.span :=
    span ▸ .append (Text.IsWord.hasBareEnds ⟨some, visibleOpening⟩)
      (Text.IsWord.hasBareEnds ⟨List.cons_ne_nil _ _, Text.visible_of_all rfl⟩) some
      (List.cons_ne_nil _ _) title
  constructor
  · intro occurs
    obtain ⟨stretch, place, squeezed⟩ := Text.exists_squeeze_of_infix_collapsed occurs
    obtain ⟨around, ⟨before, after, split⟩, rfl⟩ := List.infix_map_iff.mp place
    rw [List.append_assoc] at split
    refine ⟨before, around, after, split.symm, ?_, ?_⟩
    · by_contra noLink
      obtain ⟨pieces, rfl⟩ := Segment.exists_eq_map_left noLink
      have someLeft : pieces ≠ [] := by
        rintro rfl
        exact someSpan squeezed.symm
      obtain ⟨-, unread⟩ := laid.divides.unread_stretch someLeft ⟨before, split⟩
      have letters : (pieces.map Segment.left).map (Segment.letter Piece.letter) = pieces.map Piece.letter :=
        List.map_map
      rw [letters, span] at squeezed
      rw [List.map_append] at unread
      exact wikiLink_ne_none_of_squeeze opens unbracketed visible squeezed _ unread
    · rw [← String.toList_inj, Text.toList_collapseBlanks, String.toList_ofList, String.toList_ofList,
        ← Text.trimChars_squeeze, squeezed, Text.trimChars_eq_self bareEnds]
  · rintro ⟨before, around, after, split, -, collapses⟩
    rw [← String.toList_inj, Text.toList_collapseBlanks, String.toList_ofList, String.toList_ofList]
      at collapses
    refine (Text.infix_collapsed_iff bareEnds someSpan).mpr ⟨_, ?_, collapses⟩
    rw [Layout.rest, split, List.map_append, List.map_append, ← List.append_assoc]
    exact List.infix_append _ _ _

/-! ## The rest of an utterance -/

/-- **The span of a tag never occurs in the rest of the utterance, and the span of a link does exactly if the
utterance respells it.**  Every utterance has a layout of which it is read.  No span of a tag occurs in the
clean text.  The span of a link occurs in it if a stretch of the utterance that a link was cut out of
collapses to that span, and only then. -/
theorem MentionReading.contains_span_iff (text : String) :
    ∃ layout : Layout, layout.text = text.toList ∧ layout.reading = MentionReading.ofText text ∧
      (∀ found ∈ layout.pieces.filterMap Piece.tag?,
        Text.contains (MentionReading.ofText text).cleanText (String.ofList found.span) = false) ∧
      ∀ link ∈ layout.links,
        Text.contains (MentionReading.ofText text).cleanText (String.ofList link.span) = true ↔
          layout.Respells link.span := by
  obtain ⟨layout, laid⟩ := exists_laid text.toList
  have reads : layout.reading = MentionReading.ofText text := laid.reading_eq
  obtain ⟨quoted, bare⟩ := laid.tags_nowhere
  have rest : (MentionReading.ofText text).cleanText.toList = Text.collapsed layout.rest := by
    rw [← reads]
    exact Text.toList_intercalate _
  refine ⟨layout, laid.text_eq, reads, fun found member => ?_, fun link member => ?_⟩
  · rw [Bool.eq_false_iff, ne_eq, Text.contains_iff, String.toList_ofList, rest]
    rcases laid.cut_of_tag member with isQuoted | isBare
    · exact quoted_span_lost quoted isQuoted
    · exact bare_span_lost bare isBare
  · rw [Text.contains_iff, String.toList_ofList, rest]
    exact laid.link_infix_iff member

/-- What is left around the inner link spells the first one. -/
example : MentionReading.ofText "[[a b]] [[a [[x]] b]]" =
    { mentions := [⟨.quotedTitle, "a b", "[[a b]]"⟩, ⟨.quotedTitle, "x", "[[x]]"⟩]
      cleanText := "[[a b]]" } := by
  decide +kernel

end NoteDialogue
