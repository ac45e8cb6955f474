import NoteDialogue.Proofs.Text.Passage
import NoteDialogue.Proofs.Text.Trim
import NoteDialogue.Prompt

/-!
# Priming texts

A text is free of priming when none of the fingerprints occurs in it (`FreeOfPriming`), and exactly then it
is not taken for a priming text (`isPriming_eq_false_iff`): trimming a text touches no fingerprint in it.
The instruction that opens an answer from notes has fingerprints, and so has every block of notes, whatever
blanks stand around them.

Notes that the user shares are rendered with their titles between quotes and each body on lines of its
own.  The fingerprints have no quotes, no colons and no ends of lines, so that none can form across the
seams between titles and bodies: when the notes are free of priming, so is the message about them
(`freeOfPriming_sharedNotes`).
-/

set_option autoImplicit false

namespace NoteDialogue

open Text

variable {text fingerprint : String}

/-! ## Fingerprints -/

/-- The characters with which fingerprints begin. -/
def fingerprintHeads : List Char :=
  ['[', 'Y', 'G', 'A']

/-- Fingerprints are not empty, begin with one of a few characters, and have no blanks at their ends. -/
theorem fingerprint_ends : ∀ fingerprint ∈ primingFingerprints,
    (∃ first ∈ fingerprint.toList.head?, first ∈ fingerprintHeads) ∧
      HasBareEnds fingerprint.toList := by
  have checked : primingFingerprints.all (fun fingerprint =>
      fingerprint.toList.head?.any fingerprintHeads.contains &&
        decide (HasBareEnds fingerprint.toList)) = true := by
    decide +kernel
  intro fingerprint member
  obtain ⟨known, bare⟩ := Bool.and_eq_true_iff.mp (List.all_eq_true.mp checked fingerprint member)
  obtain ⟨first, isFirst, head⟩ := (Option.any_eq_true _ _).mp known
  exact ⟨⟨first, isFirst, List.contains_iff_mem.mp head⟩, of_decide_eq_true bare⟩

/-- Fingerprints have no quotes, no colons and no ends of lines, on which the rendering of notes relies. -/
theorem fingerprint_plain : ∀ fingerprint ∈ primingFingerprints,
    ∀ c ∈ fingerprint.toList, c ≠ '"' ∧ c ≠ ':' ∧ c ≠ '\n' := by
  have checked : primingFingerprints.all (fun fingerprint =>
      fingerprint.toList.all fun c => decide (c ≠ '"' ∧ c ≠ ':' ∧ c ≠ '\n')) = true := by
    decide +kernel
  intro fingerprint member c occurs
  have plain := List.all_eq_true.mp (List.all_eq_true.mp checked fingerprint member) c occurs
  exact of_decide_eq_true plain

theorem fingerprint_ne_nil (member : fingerprint ∈ primingFingerprints) : fingerprint.toList ≠ [] := by
  obtain ⟨⟨first, isFirst, -⟩, -⟩ := fingerprint_ends fingerprint member
  intro none
  rw [none] at isFirst
  cases isFirst

/-- No fingerprint of a priming text occurs in a text. -/
def FreeOfPriming (text : String) : Prop :=
  ∀ fingerprint ∈ primingFingerprints, ¬ fingerprint.toList <:+: text.toList

theorem not_freeOfPriming (member : fingerprint ∈ primingFingerprints)
    (occurs : fingerprint.toList <:+: text.toList) : ¬ FreeOfPriming text :=
  fun free => free fingerprint member occurs

/-- A text without the characters with which fingerprints begin is free of priming. -/
theorem freeOfPriming_of_heads
    (absent : fingerprintHeads.all (fun first => !text.toList.contains first) = true) :
    FreeOfPriming text := by
  intro fingerprint member occurs
  obtain ⟨⟨first, isFirst, head⟩, -⟩ := fingerprint_ends fingerprint member
  have missing := List.all_eq_true.mp absent first head
  have there := occurs.subset (List.mem_of_head? isFirst)
  simp [there] at missing

/-- What a text begins with, what is appended to it begins with as well. -/
theorem exists_append_rest {first beginning ending : String} (split : first = beginning ++ ending)
    (middle last : String) : ∃ rest, first ++ middle ++ last = beginning ++ rest := by
  subst split
  exact ⟨ending ++ middle ++ last, by simp only [String.append_assoc]⟩

/-- The instruction that opens an answer from notes has a fingerprint at its beginning. -/
theorem systemSeed_eq : ∃ fingerprint ∈ primingFingerprints, ∃ rest,
    systemSeed = fingerprint ++ rest := by
  refine ⟨"You are Notewise, an assistant that answers questions using the user's own notes", ?_, ?_⟩
  · simp [primingFingerprints]
  · exact exists_append_rest (by decide +kernel : _ = _ ++ ". ") _ _

theorem infix_trim (text : String) : (trim text).toList <:+: text.toList := by
  rw [trim, String.toList_ofList]
  exact infix_trimChars _

/-- **A text is taken for a priming text exactly when a fingerprint occurs in it.** -/
theorem isPriming_eq_false_iff : isPriming text = false ↔ FreeOfPriming text := by
  have among : primingFingerprints.any (contains (trim text)) = false ↔ FreeOfPriming text := by
    simp only [List.any_eq_false, contains_iff]
    constructor
    · intro free fingerprint member occurs
      have bare : HasBareEnds fingerprint.toList := (fingerprint_ends fingerprint member).2
      refine free fingerprint member ?_
      rw [trim, String.toList_ofList]
      exact infix_trimChars_of_infix bare (fingerprint_ne_nil member) occurs
    · intro free fingerprint member occurs
      exact free fingerprint member (occurs.trans (infix_trim text))
  rw [isPriming, Bool.or_eq_false_iff, among]
  constructor
  · exact fun both => both.2
  · intro free
    refine ⟨beq_eq_false_iff_ne.mpr fun isSeed => ?_, free⟩
    obtain ⟨fingerprint, member, rest, seed⟩ := systemSeed_eq
    have occurs := infix_trim text
    rw [isSeed, seed, String.toList_append] at occurs
    exact not_freeOfPriming member ((List.infix_append [] _ _).trans occurs) free

/-! ## What is taken for a priming text -/

/-- A text with a fingerprint is taken for a priming text, whatever stands around it. -/
theorem isPriming_around (member : fingerprint ∈ primingFingerprints)
    (occurs : fingerprint.toList <:+: text.toList) (before after : String) :
    isPriming (before ++ text ++ after) = true := by
  refine Bool.of_not_eq_false fun isFree => ?_
  refine not_freeOfPriming member ?_ (isPriming_eq_false_iff.mp isFree)
  rw [String.toList_append, String.toList_append]
  exact occurs.trans (List.infix_append _ _ _)

/-- The instruction that opens an answer is a priming text, whatever stands around it. -/
theorem isPriming_systemSeed (before after : String) :
    isPriming (before ++ systemSeed ++ after) = true := by
  obtain ⟨fingerprint, member, rest, seed⟩ := systemSeed_eq
  refine isPriming_around member ?_ before after
  rw [seed, String.toList_append]
  exact List.infix_append [] _ _

/-- Every block of notes is a priming text, whatever stands around it. -/
theorem isPriming_contextBlock (documents : List Document) (before after : String) :
    isPriming (before ++ contextBlock documents ++ after) = true := by
  have member : contextHeader ∈ primingFingerprints := List.mem_cons_self
  refine isPriming_around member ?_ before after
  simp only [contextBlock, String.append_assoc]
  rw [String.toList_append]
  exact List.infix_append [] _ _

/-! ## Shared notes -/

theorem toList_after_lines {lines opening : String} (isOpening : lines = opening ++ "\n\n")
    (rest : String) :
    (lines ++ rest).toList = opening.toList ++ '\n' :: ([] ++ '\n' :: rest.toList) := by
  subst isOpening
  simp

section Occurrences

variable {passage : List Char}

theorem occurs_joinParagraphs (lineless : '\n' ∉ passage) (some : passage ≠ [])
    {paragraphs : List String} (occurs : passage <:+: (joinParagraphs paragraphs).toList) :
    ∃ paragraph ∈ paragraphs, passage <:+: paragraph.toList := by
  induction paragraphs with
  | nil => exact absurd (List.infix_nil.mp occurs) some
  | cons first rest ih =>
      cases rest with
      | nil => exact ⟨first, List.mem_cons_self, by simpa [joinParagraphs] using occurs⟩
      | cons next further =>
          have characters : (joinParagraphs (first :: next :: further)).toList =
              first.toList ++ '\n' :: ([] ++ '\n' :: (joinParagraphs (next :: further)).toList) := by
            rw [joinParagraphs, String.intercalate_cons_cons]
            exact toList_after_lines rfl _
          rw [characters] at occurs
          rcases infix_of_infix_append_cons lineless occurs with here | later
          · exact ⟨first, List.mem_cons_self, here⟩
          · rcases infix_of_infix_append_cons lineless later with nothing | later
            · exact absurd (List.infix_nil.mp nothing) some
            · obtain ⟨paragraph, member, inside⟩ := ih later
              exact ⟨paragraph, List.mem_cons_of_mem _ member, inside⟩

theorem occurs_sharedEntry (quoteless : '"' ∉ passage) (colonless : ':' ∉ passage)
    (lineless : '\n' ∉ passage) (some : passage ≠ []) {document : Document}
    (occurs : passage <:+: (sharedEntry document).toList) :
    passage <:+: document.title.toList ∨ passage <:+: document.plainContent.toList := by
  have characters : (sharedEntry document).toList =
      [] ++ '"' :: (document.title.toList ++
        '"' :: ([] ++ ':' :: ([] ++ '\n' :: (trim document.plainContent).toList))) := by
    simp [sharedEntry]
  have notEmpty : ¬ passage <:+: [] := fun nothing => some (List.infix_nil.mp nothing)
  rw [characters] at occurs
  have occurs := (infix_of_infix_append_cons quoteless occurs).resolve_left notEmpty
  rcases infix_of_infix_append_cons quoteless occurs with inTitle | occurs
  · exact .inl inTitle
  · have occurs := (infix_of_infix_append_cons colonless occurs).resolve_left notEmpty
    have inBody := (infix_of_infix_append_cons lineless occurs).resolve_left notEmpty
    exact .inr (inBody.trans (infix_trim _))

end Occurrences

/-- The line that precedes shared notes. -/
theorem freeOfPriming_opening : FreeOfPriming "The user shared these notes for this message:" :=
  freeOfPriming_of_heads (by decide +kernel)

/-- The question that stands in when notes are attached without one. -/
theorem freeOfPriming_attachedNotesQuestion : FreeOfPriming attachedNotesQuestion :=
  freeOfPriming_of_heads (by decide +kernel)

theorem toList_sharedNotes (documents : List Document) :
    (sharedNotes documents).toList =
      "The user shared these notes for this message:".toList ++
        '\n' :: ([] ++ '\n' :: (joinParagraphs (documents.map sharedEntry)).toList) := by
  unfold sharedNotes
  exact toList_after_lines (by decide +kernel) _

/-- **The message about shared notes is free of priming when the notes are.** -/
theorem freeOfPriming_sharedNotes {documents : List Document}
    (free : ∀ document ∈ documents,
      FreeOfPriming document.title ∧ FreeOfPriming document.plainContent) :
    FreeOfPriming (sharedNotes documents) := by
  intro fingerprint member occurs
  have plain := fingerprint_plain fingerprint member
  have quoteless : '"' ∉ fingerprint.toList := fun inside => (plain _ inside).1 rfl
  have colonless : ':' ∉ fingerprint.toList := fun inside => (plain _ inside).2.1 rfl
  have lineless : '\n' ∉ fingerprint.toList := fun inside => (plain _ inside).2.2 rfl
  have some := fingerprint_ne_nil member
  rw [toList_sharedNotes] at occurs
  rcases infix_of_infix_append_cons lineless occurs with inOpening | occurs
  · exact freeOfPriming_opening fingerprint member inOpening
  · have occurs := (infix_of_infix_append_cons lineless occurs).resolve_left
      fun nothing => some (List.infix_nil.mp nothing)
    obtain ⟨paragraph, isEntry, inside⟩ := occurs_joinParagraphs lineless some occurs
    obtain ⟨document, shared, rfl⟩ := List.mem_map.mp isEntry
    obtain ⟨freeTitle, freeBody⟩ := free document shared
    rcases occurs_sharedEntry quoteless colonless lineless some inside with inTitle | inBody
    · exact freeTitle fingerprint member inTitle
    · exact freeBody fingerprint member inBody

end NoteDialogue
