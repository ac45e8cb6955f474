import NoteDialogue.Proofs.Reference.Recognisers

/-!
# Where mentions stand in an utterance

The three passes together lay out an utterance (`Laid`): every character that is left, every tag and every
link has its place, in the order of the text, and a link covers the characters and the tags that it was cut
out with.  What the utterance said is read off the places, and so are its mentions and the rest of it.

A tag is a stretch of the utterance.  A link is cut out of what the tags have left, with a space for each of
them, so it is the stretch where it stood exactly if it covers no tag.  The tags stand apart from each other
in every utterance, and together with the links if no link covers a tag
(`MentionReading.spans_stand_apart_unless_covered`).
-/

set_option autoImplicit false

namespace NoteDialogue

open Text (asciiLower)

/-! ## Pieces of an utterance -/

/-- What stands at a place of an utterance that tags are cut out of. -/
inductive Piece
  | char (c : Char)
  /-- A tag with a title in double quotes. -/
  | quoted (found : Cut)
  /-- A tag with a bare token. -/
  | bare (found : Cut)

namespace Piece

/-- What was written there. -/
def source : Piece → List Char
  | char c => [c]
  | quoted found | bare found => found.span

/-- The character that is there afterwards. -/
def letter : Piece → Char
  | char c => c
  | quoted _ | bare _ => ' '

def quoted? : Piece → Option Cut
  | quoted found => some found
  | char _ | bare _ => none

def bare? : Piece → Option Cut
  | bare found => some found
  | char _ | quoted _ => none

/-- The tag that was cut out there. -/
def tag? : Piece → Option Cut
  | char _ => none
  | quoted found | bare found => some found

/-- What the first pass leaves. -/
def ofQuotedPass : Segment Char → Piece
  | .left c => char c
  | .mention span value => quoted ⟨span, value⟩

/-- What the second pass leaves. -/
def ofBarePass : Segment Piece → Piece
  | .left piece => piece
  | .mention pieces value => bare ⟨pieces.map letter, value⟩

theorem letter_ofQuotedPass (segment : Segment Char) :
    (ofQuotedPass segment).letter = segment.letter id := by
  cases segment <;> rfl

theorem letter_ofBarePass (segment : Segment Piece) :
    (ofBarePass segment).letter = segment.letter letter := by
  cases segment <;> rfl

theorem source_ofQuotedPass (segment : Segment Char) : (ofQuotedPass segment).source = segment.items := by
  cases segment <;> rfl

theorem quoted?_ofQuotedPass (segment : Segment Char) :
    (ofQuotedPass segment).quoted? = segment.cut? id := by
  cases segment with
  | left => rfl
  | mention span value => simp [ofQuotedPass, quoted?, Segment.cut?]

theorem bare?_ofQuotedPass (segment : Segment Char) : (ofQuotedPass segment).bare? = none := by
  cases segment <;> rfl

/-- Where no space is left, a character was written. -/
theorem eq_char {piece : Piece} (noSpace : piece.letter ≠ ' ') : piece = char piece.letter := by
  cases piece with
  | char => rfl
  | quoted | bare => exact absurd rfl noSpace

/-- Pieces without a space among them are characters. -/
theorem eq_map_char {pieces : List Piece} (noSpace : ' ' ∉ pieces.map letter) :
    pieces = (pieces.map letter).map char := by
  rw [List.map_map]
  conv_lhs => rw [← List.map_id pieces]
  refine List.map_congr_left fun piece member => eq_char fun space => ?_
  exact noSpace (space ▸ List.mem_map_of_mem member)

theorem flatMap_source_chars (cs : List Char) : (cs.map char).flatMap source = cs := by
  rw [List.flatMap_map]
  exact List.flatMap_singleton' cs

/-- What the second pass makes of a segment of pieces among which there are no bare tags yet. -/
structure Follows (segment : Segment Piece) : Prop where
  source : (ofBarePass segment).source = segment.items.flatMap Piece.source
  quoted : (ofBarePass segment).quoted?.toList = segment.items.filterMap quoted?
  bare : (ofBarePass segment).bare? = segment.cut? letter

/-- Only characters are cut out with a bare token, since a space is left of everything else. -/
theorem follows {pieces : List Piece} {segments : List (Segment Piece)}
    (divides : Divides bareTag letter pieces segments) (none : ∀ piece ∈ pieces, piece.bare? = none)
    {segment : Segment Piece} (member : segment ∈ segments) : Follows segment := by
  cases segment with
  | left piece =>
      have inside : piece ∈ pieces := by
        rw [← divides.items_eq]
        exact List.mem_flatMap.mpr ⟨_, member, List.mem_singleton_self piece⟩
      refine ⟨(List.flatMap_singleton _ _).symm, ?_, none piece inside⟩
      simp only [ofBarePass, Segment.items, List.filterMap_cons, List.filterMap_nil]
      cases piece.quoted? <;> rfl
  | mention within value =>
      obtain ⟨tag, spelled, same, -, inside, -⟩ := divides.bareTag_mention member
      have chars := eq_map_char (spelled ▸ space_notMem_bare same inside)
      refine ⟨?_, ?_, rfl⟩
      · rw [Segment.items, chars, flatMap_source_chars, ← chars]
        rfl
      · rw [Segment.items, chars, List.filterMap_map]
        exact (List.filterMap_eq_nil_iff.mpr fun _ _ => rfl).symm

/-- **The first two passes** leave pieces of the utterance. -/
theorem exists_pieces (text : List Char) :
    ∃ pieces : List Piece, pieces.flatMap source = text ∧
      (cut quotedTag text).2 = pieces.filterMap quoted? ∧
      cut bareTag (cut quotedTag text).1 = (pieces.map letter, pieces.filterMap bare?) := by
  obtain ⟨first, divides, cutFirst⟩ := exists_divides_cut quotedTag_fits text
  obtain ⟨second, dividesAgain⟩ := exists_divides bareTag_fits letter (first.map ofQuotedPass)
  have cutSecond := dividesAgain.cut_eq
  have letters : (first.map ofQuotedPass).map letter = first.map (Segment.letter id) := by
    rw [List.map_map]
    exact List.map_congr_left fun segment _ => letter_ofQuotedPass segment
  have notBare : ∀ piece ∈ first.map ofQuotedPass, piece.bare? = none := by
    rw [List.forall_mem_map]
    exact fun segment _ => bare?_ofQuotedPass segment
  have second_follows {segment : Segment Piece} (member : segment ∈ second) : Follows segment :=
    follows dividesAgain notBare member
  refine ⟨second.map ofBarePass, ?_, ?_, ?_⟩
  · calc (second.map ofBarePass).flatMap source
        = second.flatMap fun segment => segment.items.flatMap source := by
          rw [List.flatMap_map]
          exact List.flatMap_congr fun segment member => (second_follows member).source
      _ = (first.map ofQuotedPass).flatMap source := by
          rw [← List.flatMap_assoc, dividesAgain.items_eq]
      _ = first.flatMap Segment.items := by
          rw [List.flatMap_map]
          exact List.flatMap_congr fun segment _ => source_ofQuotedPass segment
      _ = text := divides.items_eq
  · calc (cut quotedTag text).2
        = (first.map ofQuotedPass).filterMap quoted? := by
          rw [cutFirst, List.filterMap_map]
          exact List.filterMap_congr fun segment _ => (quoted?_ofQuotedPass segment).symm
      _ = second.flatMap fun segment => segment.items.filterMap quoted? := by
          rw [← dividesAgain.items_eq, List.filterMap_flatMap]
      _ = (second.map ofBarePass).filterMap quoted? := by
          rw [List.filterMap_map, List.filterMap_eq_flatMap_toList]
          exact List.flatMap_congr fun segment member => (second_follows member).quoted.symm
  · rw [cutFirst, ← letters, cutSecond, List.map_map, List.filterMap_map]
    refine congrArg₂ Prod.mk ?_ ?_
    · exact List.map_congr_left fun segment _ => (letter_ofBarePass segment).symm
    · exact List.filterMap_congr fun segment member => (second_follows member).bare.symm

end Piece

/-! ## Layouts -/

/-- The places of an utterance: pieces that are left, and links that were cut out of them. -/
structure Layout where
  places : List (Segment Piece)

namespace Layout

/-- All pieces, those that links cover included. -/
def pieces (layout : Layout) : List Piece :=
  layout.places.flatMap Segment.items

/-- What was written. -/
def text (layout : Layout) : List Char :=
  layout.pieces.flatMap Piece.source

/-- What is left when everything is cut out. -/
def rest (layout : Layout) : List Char :=
  layout.places.map (Segment.letter Piece.letter)

/-- The links that were cut out. -/
def links (layout : Layout) : List Cut :=
  layout.places.filterMap (Segment.cut? Piece.letter)

/-- The mentions that stand at the places, and the rest with its blanks collapsed. -/
def reading (layout : Layout) : MentionReading where
  mentions :=
    (layout.pieces.filterMap Piece.quoted?).map Mention.ofTitleCut ++
      (layout.pieces.filterMap Piece.bare?).map Mention.ofTokenCut ++
      layout.links.map Mention.ofTitleCut
  cleanText := String.intercalate " " ((Text.wordsOfChars layout.rest).map String.ofList)

end Layout

/-- How the three passes lay out a text. -/
structure Laid (text : List Char) (layout : Layout) : Prop where
  text_eq : layout.text = text
  quoted : (cut quotedTag text).2 = layout.pieces.filterMap Piece.quoted?
  bare : cut bareTag (cut quotedTag text).1 =
    (layout.pieces.map Piece.letter, layout.pieces.filterMap Piece.bare?)
  divides : Divides wikiLink Piece.letter layout.pieces layout.places

/-- **Every text is laid out.** -/
theorem exists_laid (text : List Char) : ∃ layout, Laid text layout := by
  obtain ⟨pieces, spells, quoted, bare⟩ := Piece.exists_pieces text
  obtain ⟨places, divides⟩ := exists_divides wikiLink_fits Piece.letter pieces
  obtain rfl : places.flatMap Segment.items = pieces := divides.items_eq
  exact ⟨⟨places⟩, spells, quoted, bare, divides⟩

namespace Laid

variable {text : List Char} {layout : Layout}

theorem link (laid : Laid text layout) :
    cut wikiLink (layout.pieces.map Piece.letter) = (layout.rest, layout.links) :=
  laid.divides.cut_eq

/-- **What is read of an utterance is read off its places.** -/
theorem reading_eq (laid : Laid text layout) : layout.reading = MentionReading.ofChars text := by
  simp only [MentionReading.ofChars, laid.quoted, laid.bare, laid.link]
  rfl

end Laid

/-! ## Apart from each other -/

/-- Some passages stand in a text one after the other, without an overlap. -/
inductive StandApart : List (List Char) → List Char → Prop where
  | none (text : List Char) : StandApart [] text
  | char (c : Char) {passages : List (List Char)} {text : List Char} :
      StandApart passages text → StandApart passages (c :: text)
  | passage (passage : List Char) {passages : List (List Char)} {text : List Char} :
      StandApart passages text → StandApart (passage :: passages) (passage ++ text)

namespace StandApart

variable {passages others : List (List Char)} {text : List Char}

/-- Passages that stand apart in a text occur in it. -/
theorem occurs (apart : StandApart passages text) {passage : List Char} (member : passage ∈ passages) :
    passage <:+: text := by
  induction apart with
  | none => cases member
  | char _ _ ih => exact (ih member).trans (List.suffix_cons _ _).isInfix
  | passage first _ ih =>
      rcases List.mem_cons.mp member with rfl | later
      · exact (List.prefix_append _ _).isInfix
      · exact (ih later).trans (List.suffix_append _ _).isInfix

theorem append_left (before : List Char) (apart : StandApart passages text) :
    StandApart passages (before ++ text) := by
  induction before with
  | nil => exact apart
  | cons c before ih => exact .char c ih

/-- Passages that were written one by one, with or without one of them at each place. -/
theorem flatMap {ι : Type} {source : ι → List Char} {passage? : ι → Option (List Char)}
    (places : List ι)
    (written : ∀ place ∈ places, ∀ passage ∈ passage? place, passage = source place) :
    StandApart (places.filterMap passage?) (places.flatMap source) := by
  induction places with
  | nil => exact .none []
  | cons place places ih =>
      obtain ⟨here, later⟩ := List.forall_mem_cons.mp written
      rw [List.flatMap_cons]
      cases found : passage? place with
      | none =>
          rw [List.filterMap_cons_none found]
          exact (ih later).append_left _
      | some passage =>
          rw [List.filterMap_cons_some found, here passage found]
          exact .passage _ (ih later)

end StandApart

/-! ## Tags and links in their places -/

namespace Piece

variable {pieces : List Piece}

/-- The tags are those of both kinds. -/
theorem tags_perm (pieces : List Piece) :
    (pieces.filterMap tag?).Perm (pieces.filterMap quoted? ++ pieces.filterMap bare?) := by
  induction pieces with
  | nil => exact .refl []
  | cons piece pieces ih =>
      cases piece with
      | char => exact ih
      | quoted found => exact ih.cons found
      | bare found => exact (ih.cons found).trans List.perm_middle.symm

theorem passage_eq_source (piece : Piece) :
    ∀ passage ∈ piece.tag?.map Cut.span, passage = piece.source := by
  cases piece with
  | char => exact nofun
  | quoted found | bare found =>
      intro passage isSpan
      exact (Option.some.inj isSpan).symm

theorem length_add_tags_le (long : ∀ found ∈ pieces.filterMap tag?, 1 < found.span.length) :
    pieces.length + (pieces.filterMap tag?).length ≤ (pieces.flatMap source).length := by
  induction pieces with
  | nil => exact Nat.le_refl 0
  | cons piece pieces ih =>
      cases piece with
      | char c =>
          have fewer := ih long
          simp only [List.length_cons, List.filterMap_cons, tag?, List.flatMap_cons, source,
            List.length_append, List.length_nil]
          omega
      | quoted found | bare found =>
          obtain ⟨here, later⟩ := List.forall_mem_cons.mp long
          have fewer := ih later
          simp only [List.length_cons, List.filterMap_cons, tag?, List.flatMap_cons, source,
            List.length_append]
          omega

/-- **Pieces are left as they were written if no tag is among them**, given that a tag takes more than one
character. -/
theorem letters_eq_source_iff (long : ∀ found ∈ pieces.filterMap tag?, 1 < found.span.length) :
    pieces.map letter = pieces.flatMap source ↔ pieces.filterMap tag? = [] := by
  constructor
  · intro same
    have atMost := length_add_tags_le long
    rw [← same, List.length_map] at atMost
    exact List.eq_nil_of_length_eq_zero (by omega)
  · intro none
    rw [List.map_eq_flatMap]
    refine List.flatMap_congr fun piece member => ?_
    have noTag := List.filterMap_eq_nil_iff.mp none piece member
    cases piece with
    | char => rfl
    | quoted | bare => cases noTag

end Piece

/-- What is cut out is as long as what is recognised. -/
theorem span_length_of_cut {recognise : Recogniser} {least : Nat} (fits : recognise.Fits)
    (long : ∀ text found, recognise text = some found → least ≤ found.length) {text : List Char}
    {found : Cut} (member : found ∈ (cut recognise text).2) : least ≤ found.span.length := by
  obtain ⟨segments, divides, inside⟩ := exists_divides_of_mem_cut fits member
  obtain ⟨-, rest, reads⟩ := divides.reads inside
  exact long _ _ reads

namespace Layout

/-- No link covers a tag. -/
def CoversNoTag (layout : Layout) : Prop :=
  ∀ within title, Segment.mention within title ∈ layout.places → within.filterMap Piece.tag? = []

/-- The span that was cut out at a place that no link covers. -/
def passage? : Segment Piece → Option (List Char)
  | .left piece => piece.tag?.map Cut.span
  | .mention within _ => some (within.map Piece.letter)

/-- Unless links cover them, the spans at the places are those of the tags and of the links. -/
theorem passages_perm (places : List (Segment Piece))
    (uncovered : CoversNoTag ⟨places⟩) :
    (places.filterMap passage?).Perm
      (((Layout.mk places).pieces.filterMap Piece.tag? ++ (Layout.mk places).links).map Cut.span) := by
  induction places with
  | nil => exact .refl []
  | cons place places ih =>
      have later := ih fun within title member => uncovered within title (List.mem_cons_of_mem _ member)
      simp only [pieces, links, List.map_append] at later ⊢
      cases place with
      | left piece =>
          rw [List.flatMap_cons, Segment.items, List.singleton_append]
          cases isTag : piece.tag? with
          | none => simpa [List.filterMap_cons, passage?, isTag, Segment.cut?] using later
          | some found =>
              simpa [List.filterMap_cons, passage?, isTag, Segment.cut?] using later.cons found.span
      | mention within title =>
          have none := uncovered within title List.mem_cons_self
          rw [List.flatMap_cons, Segment.items, List.filterMap_append, none, List.nil_append]
          exact (later.cons _).trans List.perm_middle.symm

end Layout

namespace Laid

variable {text : List Char} {layout : Layout}

/-- A tag was cut out by one of the first two passes. -/
theorem cut_of_tag (laid : Laid text layout) {found : Cut}
    (member : found ∈ layout.pieces.filterMap Piece.tag?) :
    found ∈ (cut quotedTag text).2 ∨ found ∈ (cut bareTag (cut quotedTag text).1).2 := by
  rw [laid.quoted, laid.bare]
  exact List.mem_append.mp ((Piece.tags_perm _).mem_iff.mp member)

/-- Every tag takes more than one character. -/
theorem tags_long (laid : Laid text layout) :
    ∀ found ∈ layout.pieces.filterMap Piece.tag?, 1 < found.span.length := by
  intro found member
  rcases laid.cut_of_tag member with quoted | bare
  · refine span_length_of_cut quotedTag_fits (fun text found reads => ?_) quoted
    obtain ⟨-, title, -, -, -, -, -, rfl⟩ := enclosed_eq_some reads
    have opening : 1 < (referenceTag ++ ['"']).length := by decide
    change 1 < _ + _ + _
    omega
  · refine span_length_of_cut bareTag_fits (fun text found reads => ?_) bare
    obtain ⟨-, token, -, -, -, -, -, -, rfl⟩ := bareTag_eq_some reads
    have opening : 1 < referenceTag.length := by decide
    change 1 < _ + _
    omega

/-- The tags stand apart in the text. -/
theorem tags_standApart (laid : Laid text layout) :
    StandApart ((layout.pieces.filterMap Piece.tag?).map Cut.span) text := by
  have apart := StandApart.flatMap layout.pieces fun piece _ => piece.passage_eq_source
  rwa [← List.map_filterMap, show layout.pieces.flatMap Piece.source = text from laid.text_eq] at apart

/-- A link is the stretch where it stood if it covers no tag. -/
theorem link_eq_source_iff (laid : Laid text layout) {within : List Piece} {title : List Char}
    (member : Segment.mention within title ∈ layout.places) :
    within.map Piece.letter = within.flatMap Piece.source ↔ within.filterMap Piece.tag? = [] := by
  refine Piece.letters_eq_source_iff fun found inside => laid.tags_long found ?_
  obtain ⟨piece, inWithin, isTag⟩ := List.mem_filterMap.mp inside
  exact List.mem_filterMap.mpr ⟨piece, List.mem_flatMap.mpr ⟨_, member, inWithin⟩, isTag⟩

/-- Tags and links stand apart in the text if no link covers a tag. -/
theorem passages_standApart (laid : Laid text layout) (uncovered : layout.CoversNoTag) :
    StandApart (layout.places.filterMap Layout.passage?) text := by
  have spells : layout.places.flatMap (fun place => place.items.flatMap Piece.source) = text := by
    rw [← List.flatMap_assoc]
    exact laid.text_eq
  rw [← spells]
  refine StandApart.flatMap layout.places fun place member => ?_
  cases place with
  | left piece =>
      rw [Segment.items, List.flatMap_singleton]
      exact piece.passage_eq_source
  | mention within title =>
      rintro passage isSpan
      rw [← Option.some.inj isSpan]
      exact (laid.link_eq_source_iff member).mpr (uncovered within title member)

end Laid

/-- The spans of the mentions that were read off some places. -/
theorem Layout.spans_reading (layout : Layout) :
    layout.reading.mentions.map (·.span.toList) =
      (layout.pieces.filterMap Piece.quoted? ++ layout.pieces.filterMap Piece.bare? ++
        layout.links).map Cut.span := by
  simp only [Layout.reading, List.map_append, List.map_map]
  congr 1
  · congr 1 <;> exact List.map_congr_left fun found _ => String.toList_ofList
  · exact List.map_congr_left fun found _ => String.toList_ofList

/-- **Spans stand apart in the utterance unless a link covers a tag.**  Every utterance has a layout of which
it is read.  The tags were cut out of the utterance where they stand apart from each other.  The span of a
link is the stretch where the link stood exactly if the link covers no tag; and if no link covers a tag, all
spans stand apart in the utterance. -/
theorem MentionReading.spans_stand_apart_unless_covered (text : String) :
    ∃ layout : Layout, layout.text = text.toList ∧ layout.reading = MentionReading.ofText text ∧
      (∃ tags, tags.Perm ((layout.pieces.filterMap Piece.quoted? ++
          layout.pieces.filterMap Piece.bare?).map Cut.span) ∧ StandApart tags text.toList) ∧
      (∀ within title, Segment.mention within title ∈ layout.places →
        (within.map Piece.letter = within.flatMap Piece.source ↔ within.filterMap Piece.tag? = [])) ∧
      (layout.CoversNoTag →
        ∃ spans, spans.Perm ((MentionReading.ofText text).mentions.map (·.span.toList)) ∧
          StandApart spans text.toList) := by
  obtain ⟨layout, laid⟩ := exists_laid text.toList
  have reads : layout.reading = MentionReading.ofText text := laid.reading_eq
  refine ⟨layout, laid.text_eq, reads, ⟨_, (Piece.tags_perm _).map Cut.span, laid.tags_standApart⟩,
    fun within title member => laid.link_eq_source_iff member, fun uncovered => ?_⟩
  refine ⟨_, ?_, laid.passages_standApart uncovered⟩
  rw [← reads, layout.spans_reading]
  exact (Layout.passages_perm layout.places uncovered).trans
    (((Piece.tags_perm _).append_right _).map Cut.span)

/-- The tag inside the link leaves a space, and one stood before it. -/
example : MentionReading.ofText "[[a @note:b]]" =
    { mentions := [⟨.freeText, "b", "@note:b"⟩, ⟨.quotedTitle, "a", "[[a  ]]"⟩], cleanText := "" } := by
  decide +kernel

end NoteDialogue
