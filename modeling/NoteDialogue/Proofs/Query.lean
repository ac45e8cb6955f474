import NoteDialogue.Proofs.Text.LetterCase
import NoteDialogue.Proofs.Text.Trim
import NoteDialogue.Query

/-!
# Queries that open with a restriction

A command opens a query in any letter case, and a blank ends it; what follows is read trimmed
(`afterCommand?_of_spelled`).  The name of a notebook in quotes ends at the next quote, and the terms are what
stands after it (`filtered?_notebook`).  A title in quotes ends at the last quote of the query, so that it may hold
quotes itself (`filtered?_title`).
-/

set_option autoImplicit false

namespace NoteDialogue.Query

open Text

variable {command spelled name title : List Char}

/-! ## Commands -/

/-- A spelling of a command is equal to it, the case of ASCII letters apart. -/
theorem sameLetters_of_same (same : sameIgnoringAsciiCase spelled command = true) :
    spelled.map asciiLower = command.map asciiLower :=
  beq_iff_eq.mp same

theorem isWord_of_same (same : sameIgnoringAsciiCase spelled command = true) (isWord : IsWord command) :
    IsWord spelled := by
  refine ⟨?_, visible_of_spelled (sameLetters_of_same same) isWord.2⟩
  rintro rfl
  exact isWord.1 (List.map_eq_nil_iff.mp (sameLetters_of_same same).symm)

/-- Of a query that opens with a word only the end is trimmed. -/
theorem trimChars_word_append (isWord : IsWord spelled) (rest : List Char) :
    trimChars (spelled ++ ' ' :: rest) = spelled ++ dropTrailing isBlank (' ' :: rest) :=
  trimChars_around [] (' ' :: rest) isWord.1 isWord.hasBareEnds

/-- After a command the rest of a query is read trimmed, whatever it is. -/
theorem afterCommand?_of_spelled (same : sameIgnoringAsciiCase spelled command = true)
    (isWord : IsWord command) (rest : List Char) :
    afterCommand? command (trimChars (spelled ++ ' ' :: rest)) = some (trimChars rest) := by
  have opened : afterOpening? command (trimChars (spelled ++ ' ' :: rest)) =
      some (dropTrailing isBlank (' ' :: rest)) :=
    afterOpening?_eq_some_iff.mpr
      ⟨spelled, trimChars_word_append (isWord_of_same same isWord) rest, sameLetters_of_same same⟩
  have readTrimmed : trimChars (dropTrailing isBlank (' ' :: rest)) = trimChars rest := by
    rw [trimChars_dropTrailing, trimChars_cons_blank rfl]
  have begins := dropTrailing_prefix isBlank (' ' :: rest)
  rw [afterCommand?, opened]
  cases after : dropTrailing isBlank (' ' :: rest) with
  | nil =>
      rw [after] at readTrimmed
      exact congrArg some readTrimmed
  | cons c later =>
      rw [after] at readTrimmed begins
      obtain rfl : c = ' ' := (List.cons_prefix_cons.mp begins).1
      exact congrArg some readTrimmed

/-- A text that begins with a word does not open with a command unless one of the two begins the other. -/
theorem afterCommand?_eq_none {other : List Char} (same : sameIgnoringAsciiCase spelled other = true)
    (one : ¬ command.map asciiLower <+: other.map asciiLower)
    (two : ¬ other.map asciiLower <+: command.map asciiLower) (rest : List Char) :
    afterCommand? command (spelled ++ rest) = none := by
  have unopened : afterOpening? command (spelled ++ rest) = none := by
    rw [Option.eq_none_iff_forall_ne_some]
    intro after opens
    obtain ⟨opening, split, alike⟩ := afterOpening?_eq_some_iff.mp opens
    have asOther : other.map asciiLower <+: (spelled ++ rest).map asciiLower := by
      rw [List.map_append, sameLetters_of_same same]
      exact List.prefix_append _ _
    have asCommand : command.map asciiLower <+: (spelled ++ rest).map asciiLower := by
      rw [split, List.map_append, alike]
      exact List.prefix_append _ _
    exact (List.prefix_or_prefix_of_prefix asCommand asOther).elim one two
  rw [afterCommand?, unopened]

/-! ## Names in quotes -/

theorem hasBareEnds_quoted (quoted : List Char) : HasBareEnds ('"' :: (quoted ++ ['"'])) := by
  have mark : HasBareEnds ['"'] := by decide
  exact mark.append mark (List.cons_ne_nil _ _) (List.cons_ne_nil _ _) quoted

/-- A name in quotes ends at the next quote. -/
theorem nameAndTerms?_quoted (quoteless : '"' ∉ name) (notBlank : trimChars name ≠ []) (terms : List Char) :
    nameAndTerms? ('"' :: (name ++ '"' :: terms)) = some (trimChars name, trimChars terms) := by
  have visible : ¬ (trimChars name).isEmpty = true := by rwa [List.isEmpty_iff]
  simp only [nameAndTerms?, splitAtChar?_append quoteless, if_neg visible]

/-- The quotes around the whole are no part of the terms, and blanks inside of them neither. -/
theorem termsOfTrimmed_quoted (quoted : List Char) :
    termsOfTrimmed ('"' :: (quoted ++ ['"'])) = trimChars quoted := by
  have inside : insideQuotes? ('"' :: (quoted ++ ['"'])) = some quoted := by
    simp only [insideQuotes?, List.getLast?_concat, if_pos, List.dropLast_concat]
  rw [termsOfTrimmed, inside]

theorem notebookQuery?_quoted (quoteless : '"' ∉ name) (notBlank : trimChars name ≠ []) (terms : List Char) :
    notebookQuery? (trimChars ('"' :: (name ++ '"' :: ' ' :: terms))) =
      some { filter := { notebook := some (String.ofList (trimChars name)) },
             terms := String.ofList (trimChars terms) } := by
  have trimmed : trimChars ('"' :: (name ++ '"' :: ' ' :: terms)) =
      '"' :: (name ++ '"' :: dropTrailing isBlank (' ' :: terms)) := by
    have around := trimChars_around [] (' ' :: terms) (List.cons_ne_nil _ _) (hasBareEnds_quoted name)
    simpa [trimLeftChars] using around
  rw [trimmed, notebookQuery?, nameAndTerms?_quoted quoteless notBlank, trimChars_dropTrailing,
    trimChars_cons_blank rfl, Option.map_some]

theorem titleQuery?_quoted (notBlank : trimChars title ≠ []) :
    titleQuery? (trimChars ('"' :: (title ++ ['"']))) =
      some { filter := { title := some (String.ofList (trimChars title)) }, terms := "" } := by
  have visible : ¬ (trimChars title).isEmpty = true := by rwa [List.isEmpty_iff]
  rw [trimChars_eq_self (hasBareEnds_quoted title), titleQuery?, termsOfTrimmed_quoted, if_neg visible]

/-! ## Whole queries -/

section Whole

variable {written : String}

/-- **The command for a notebook is read from any query that opens with it**, with its name in quotes and any
terms after it. -/
theorem filtered?_notebook {named : String}
    (same : sameIgnoringAsciiCase written.toList "/notebook".toList = true)
    (quoteless : '"' ∉ named.toList) (notBlank : isBlankText named = false) (terms : String) :
    filtered? (written ++ " \"" ++ named ++ "\" " ++ terms) =
      some { filter := { notebook := some (trim named) }, terms := trim terms } := by
  have query : (written ++ " \"" ++ named ++ "\" " ++ terms).toList =
      written.toList ++ ' ' :: '"' :: (named.toList ++ '"' :: ' ' :: terms.toList) := by
    simp
  have isWord : IsWord "/notebook".toList := ⟨by decide, visible_of_all (by decide)⟩
  rw [filtered?, query, afterCommand?_of_spelled same isWord]
  exact notebookQuery?_quoted quoteless (trimChars_ne_nil notBlank) terms.toList

/-- **The command for a title is read from any query that is the command and a title in quotes**, which may hold
quotes itself. -/
theorem filtered?_title {titled : String}
    (same : sameIgnoringAsciiCase written.toList "/title".toList = true)
    (notBlank : isBlankText titled = false) :
    filtered? (written ++ " \"" ++ titled ++ "\"") =
      some { filter := { title := some (trim titled) }, terms := "" } := by
  have query : (written ++ " \"" ++ titled ++ "\"").toList =
      written.toList ++ ' ' :: '"' :: (titled.toList ++ ['"']) := by
    simp
  have isWord : IsWord "/title".toList := ⟨by decide, visible_of_all (by decide)⟩
  have noNotebook : afterCommand? "/notebook".toList
      (trimChars (written.toList ++ ' ' :: '"' :: (titled.toList ++ ['"']))) = none := by
    rw [trimChars_word_append (isWord_of_same same isWord)]
    exact afterCommand?_eq_none same (by decide) (by decide) _
  rw [filtered?, query, noNotebook, afterCommand?_of_spelled same isWord]
  exact titleQuery?_quoted (trimChars_ne_nil notBlank)

end Whole

end NoteDialogue.Query
