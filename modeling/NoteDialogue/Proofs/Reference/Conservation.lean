import NoteDialogue.Proofs.Reference.Recognisers
import NoteDialogue.Proofs.Text.Collapse

/-!
# Nothing that was written is lost

A pass moves what it cuts out from the text to the spans, and writes nothing but spaces: the visible characters
of a text are those of what the pass leaves together with those of its spans (`visibleChars_cut_perm`).  This
goes for whatever recogniser, as long as it recognises stretches, and so for three passes in a row, also where
one cuts a mention out of the inside of another.  Collapsing blanks leaves the visible characters alone.

What a mention names is never empty and has no blanks at its ends, and it lacks the characters that would have
ended it (`MentionReading.nothing_lost`).
-/

set_option autoImplicit false

namespace NoteDialogue

open Text (visibleChars visibleChars_append)

variable {recognise : Recogniser} {text : List Char} {found : Cut}

/-! ## What a pass moves -/

/-- The visible characters of what was cut out. -/
def cutChars (cuts : List Cut) : List Char :=
  cuts.flatMap fun found => visibleChars found.span

theorem cutChars_cons (found : Cut) (cuts : List Cut) :
    cutChars (found :: cuts) = visibleChars found.span ++ cutChars cuts :=
  List.flatMap_cons

/-- The visible characters of some segments are those that are left and those that are cut out. -/
theorem Segment.visibleChars_perm (segments : List (Segment Char)) :
    (visibleChars (segments.flatMap items)).Perm
      (visibleChars (segments.map (letter id)) ++ cutChars (segments.filterMap (cut? id))) := by
  induction segments with
  | nil => exact .refl []
  | cons segment segments ih =>
      rw [List.flatMap_cons, visibleChars_append]
      cases segment with
      | left c =>
          change (visibleChars [c] ++ _).Perm (visibleChars ([c] ++ segments.map (letter id)) ++
            cutChars (segments.filterMap (cut? id)))
          rw [visibleChars_append, List.append_assoc]
          exact ih.append_left _
      | mention items value =>
          -- The space that is left is not visible, and the span is what stood there.
          have space : visibleChars [' '] = [] := rfl
          change (visibleChars items ++ _).Perm (visibleChars ([' '] ++ segments.map (letter id)) ++
            cutChars (⟨items.map id, value⟩ :: segments.filterMap (cut? id)))
          rw [visibleChars_append, space, List.nil_append, List.map_id, cutChars_cons]
          exact (ih.append_left _).trans (List.perm_append_comm_assoc _ _ _)

/-- **A pass loses no visible character and makes none.** -/
theorem visibleChars_cut_perm (fits : recognise.Fits) (text : List Char) :
    (visibleChars text).Perm
      (visibleChars (cut recognise text).1 ++ cutChars (cut recognise text).2) := by
  obtain ⟨segments, divides, cuts⟩ := exists_divides_cut fits text
  rw [cuts]
  exact divides.items_eq ▸ Segment.visibleChars_perm segments

/-! ## What the passes find -/

/-- The tags with titles in double quotes. -/
def quotedCuts (text : List Char) : List Cut :=
  (cut quotedTag text).2

/-- The tags with bare tokens. -/
def bareCuts (text : List Char) : List Cut :=
  (cut bareTag (cut quotedTag text).1).2

/-- The titles in double square brackets. -/
def linkCuts (text : List Char) : List Cut :=
  (cut wikiLink (cut bareTag (cut quotedTag text).1).1).2

/-- What all passes leave. -/
def leftOver (text : List Char) : List Char :=
  (cut wikiLink (cut bareTag (cut quotedTag text).1).1).1

/-- **All passes together lose no visible character and make none.** -/
theorem visibleChars_leftOver_perm (text : List Char) :
    (visibleChars text).Perm (visibleChars (leftOver text) ++
      (cutChars (quotedCuts text) ++ (cutChars (bareCuts text) ++ cutChars (linkCuts text)))) := by
  have first := visibleChars_cut_perm quotedTag_fits text
  have second := visibleChars_cut_perm bareTag_fits (cut quotedTag text).1
  have third := visibleChars_cut_perm wikiLink_fits (cut bareTag (cut quotedTag text).1).1
  rw [List.perm_iff_count] at first second third ⊢
  intro c
  have one := first c
  have two := second c
  have three := third c
  simp only [List.count_append, quotedCuts, bareCuts, linkCuts, leftOver] at one two three ⊢
  omega

/-! ## What mentions name -/

/-- What is named is not empty and has no blanks at its ends. -/
def Cut.Names (found : Cut) : Prop :=
  found.value ≠ [] ∧ Text.HasBareEnds found.value

/-- A title between marks is trimmed, and has no character that would have ended it. -/
theorem enclosed_names {opening closing : List Char} {excluded : Char → Bool}
    (fits : (enclosed opening closing excluded).Fits)
    (member : found ∈ (cut (enclosed opening closing excluded) text).2) :
    found.Names ∧ ∀ c ∈ found.value, excluded c = false := by
  obtain ⟨segments, divides, inside⟩ := exists_divides_of_mem_cut fits member
  obtain ⟨spelled, title, -, -, lacks, some, named⟩ := divides.enclosed_mention inside
  rw [Cut.Names, named]
  refine ⟨⟨some, Text.hasBareEnds_trimChars title⟩, fun c within => ?_⟩
  exact lacks c ((Text.infix_trimChars title).subset within)

/-- A bare token has no blank, no quote and no bracket. -/
theorem bareTag_names (member : found ∈ (cut bareTag text).2) :
    found.Names ∧ ∀ c ∈ found.value, isTokenChar c = true := by
  obtain ⟨segments, divides, inside⟩ := exists_divides_of_mem_cut bareTag_fits member
  obtain ⟨tag, -, -, some, token, -⟩ := divides.bareTag_mention inside
  have isWord : Text.IsWord found.value := ⟨some, fun c within => visible_of_token (token c within)⟩
  exact ⟨⟨some, isWord.hasBareEnds⟩, token⟩

/-! ## The whole utterance -/

namespace MentionReading

/-- The mentions are what the passes found, one pass after the other. -/
theorem mentions_ofText (text : String) :
    (ofText text).mentions =
      (quotedCuts text.toList).map Mention.ofTitleCut ++ (bareCuts text.toList).map Mention.ofTokenCut ++
        (linkCuts text.toList).map Mention.ofTitleCut := rfl

/-- The visible characters of all spans. -/
def spanChars (reading : MentionReading) : List Char :=
  reading.mentions.flatMap fun mention => visibleChars mention.span.toList

theorem flatMap_spans (made : Cut → Mention) (kept : ∀ found, (made found).span = String.ofList found.span)
    (cuts : List Cut) :
    ((cuts.map made).flatMap fun mention => visibleChars mention.span.toList) = cutChars cuts := by
  rw [List.flatMap_map, cutChars]
  exact List.flatMap_congr fun found _ => by rw [kept, String.toList_ofList]

theorem spanChars_ofText (text : String) :
    (ofText text).spanChars =
      cutChars (quotedCuts text.toList) ++
        (cutChars (bareCuts text.toList) ++ cutChars (linkCuts text.toList)) := by
  have titles := flatMap_spans Mention.ofTitleCut fun _ => rfl
  have tokens := flatMap_spans Mention.ofTokenCut fun _ => rfl
  rw [spanChars, mentions_ofText, List.flatMap_append, List.flatMap_append, titles, tokens, titles,
    List.append_assoc]

theorem visibleChars_cleanText (text : String) :
    visibleChars (ofText text).cleanText.toList = visibleChars (leftOver text.toList) := by
  rw [← Text.visibleChars_collapsed (leftOver text.toList), Text.collapsed, ← Text.toList_intercalate]
  rfl

/-- What the mentions of an utterance name, by the passes that found them. -/
theorem names_of_mem {text : String} {mention : Mention} (member : mention ∈ (ofText text).mentions) :
    ∃ found, found ∈ quotedCuts text.toList ++ bareCuts text.toList ++ linkCuts text.toList ∧
      mention.value = String.ofList found.value := by
  rw [mentions_ofText, List.append_assoc] at member
  simp only [List.mem_append, List.mem_map] at member ⊢
  rcases member with ⟨found, inside, rfl⟩ | ⟨found, inside, rfl⟩ | ⟨found, inside, rfl⟩
  · exact ⟨found, .inl (.inl inside), rfl⟩
  · exact ⟨found, .inl (.inr inside), rfl⟩
  · exact ⟨found, .inr inside, rfl⟩

/-- **Nothing that was written is lost or doubled.**  The visible characters of an utterance are those of its
rest together with those of the spans of its mentions.  No mention names nothing or something with blanks at
its ends; the title or token of a tag has no quote, and a bare token and the title of a link have no square
bracket. -/
theorem nothing_lost (text : String) :
    (visibleChars text.toList).Perm
        (visibleChars (ofText text).cleanText.toList ++ (ofText text).spanChars) ∧
      (ofText text).mentions =
        (quotedCuts text.toList).map Mention.ofTitleCut ++
          (bareCuts text.toList).map Mention.ofTokenCut ++
          (linkCuts text.toList).map Mention.ofTitleCut ∧
      (∀ mention ∈ (ofText text).mentions,
        mention.value ≠ "" ∧ Text.HasBareEnds mention.value.toList) ∧
      (∀ found ∈ quotedCuts text.toList ++ bareCuts text.toList, '"' ∉ found.value) ∧
      ∀ found ∈ bareCuts text.toList ++ linkCuts text.toList, ∀ c ∈ found.value, isBracket c = false := by
  have ofQuoted : ∀ found ∈ quotedCuts text.toList, found.Names ∧ '"' ∉ found.value := by
    intro found inside
    obtain ⟨names, lacks⟩ := enclosed_names quotedTag_fits inside
    exact ⟨names, fun quote => absurd (lacks _ quote) (by decide)⟩
  have ofBare : ∀ found ∈ bareCuts text.toList, found.Names ∧ '"' ∉ found.value ∧
      ∀ c ∈ found.value, isBracket c = false := by
    intro found inside
    obtain ⟨names, token⟩ := bareTag_names inside
    refine ⟨names, fun quote => absurd (token _ quote) (by decide), fun c within => ?_⟩
    exact (Bool.not_eq_true' _).mp (Bool.and_eq_true_iff.mp (token c within)).2
  have ofLink : ∀ found ∈ linkCuts text.toList, found.Names ∧ ∀ c ∈ found.value, isBracket c = false :=
    fun found inside => enclosed_names wikiLink_fits inside
  refine ⟨?_, mentions_ofText text, fun mention member => ?_, fun found member => ?_,
    fun found member => ?_⟩
  · rw [visibleChars_cleanText, spanChars_ofText]
    exact visibleChars_leftOver_perm text.toList
  · obtain ⟨found, inside, named⟩ := names_of_mem member
    have names : found.Names := by
      rcases List.mem_append.mp inside with tag | link
      · rcases List.mem_append.mp tag with quoted | bare
        · exact (ofQuoted found quoted).1
        · exact (ofBare found bare).1
      · exact (ofLink found link).1
    rw [named, String.toList_ofList]
    exact ⟨by simpa using names.1, names.2⟩
  · rcases List.mem_append.mp member with quoted | bare
    · exact (ofQuoted found quoted).2
    · exact (ofBare found bare).2.1
  · rcases List.mem_append.mp member with bare | link
    · exact (ofBare found bare).2.2
    · exact (ofLink found link).2

end MentionReading

end NoteDialogue
