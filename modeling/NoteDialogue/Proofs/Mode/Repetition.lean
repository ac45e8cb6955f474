import NoteDialogue.Proofs.Mode.Directive

/-!
# Openings that are given twice

A directive takes one opening off an utterance and no more.  An opening that follows the first one, behind the key
of a style and blanks, is part of the clean text (`Opening.cleanText_reading`).  So the clean text starts with the
opening that was read exactly if the utterance repeats it there (`Directive.starts_again_iff_repeated`).
-/

set_option autoImplicit false

namespace NoteDialogue

open Text

variable {opening : Opening} {text key blanks clean : List Char}

namespace Opening

/-- The text starts with a spelling of the opening, whether or not a word ends there. -/
def Starts (opening : Opening) (text : List Char) : Prop :=
  ∃ spelled rest, text = spelled ++ rest ∧ sameIgnoringAsciiCase spelled opening.text.toList = true

/-- The opening starts the text, and behind the key of a style and blanks it starts what is left. -/
def IsRepeatedIn (opening : Opening) (text : List Char) : Prop :=
  ∃ spelled key blanks again, text = spelled ++ (key ++ (blanks ++ again)) ∧
    sameIgnoringAsciiCase spelled opening.text.toList = true ∧ (∀ c ∈ key, isBlank c = false) ∧
    (opening.mode.isStyled = false → key = []) ∧ blanks ≠ [] ∧ (∀ c ∈ blanks, isBlank c = true) ∧
    opening.Starts again

/-- However an opening is spelled, its first character is not blank. -/
theorem Starts.exists_visible (member : opening ∈ openings) (starts : opening.Starts text) :
    ∃ c rest, text = c :: rest ∧ isBlank c = false := by
  have written : ∀ opening ∈ openings,
      opening.text.toList ≠ [] ∧ (opening.text.toList.all fun c => !isBlank c) = true := by decide
  obtain ⟨some, visible⟩ := (written opening member).imp_right visible_of_all
  obtain ⟨spelled, rest, rfl, spells⟩ := starts
  have same := beq_iff_eq.mp spells
  cases spelled with
  | nil => exact absurd (List.map_eq_nil_iff.mp same.symm) some
  | cons c spelled =>
      exact ⟨c, spelled ++ rest, rfl, visible_of_spelled same visible c List.mem_cons_self⟩

/-- Before a blank the key is all there is. -/
theorem keyIn_append (visible : ∀ c ∈ key, isBlank c = false) (keyless : opening.mode.isStyled = false → key = [])
    (some : blanks ≠ []) (blank : ∀ c ∈ blanks, isBlank c = true) :
    opening.keyIn (key ++ (blanks ++ clean)) = key := by
  unfold keyIn
  by_cases styled : opening.mode.isStyled = true
  · rw [if_pos styled]
    refine takeWhile_append_of_stop (by simpa using visible) fun c first => ?_
    obtain ⟨d, others, rfl⟩ := List.exists_cons_of_ne_nil some
    obtain rfl : d = c := Option.some.inj first
    simp [blank d List.mem_cons_self]
  · rw [if_neg styled, keyless (Bool.eq_false_iff.mpr styled)]

/-- **What follows the key and blanks is the clean text, whatever it is.** -/
theorem cleanText_reading (visible : ∀ c ∈ key, isBlank c = false)
    (keyless : opening.mode.isStyled = false → key = []) (some : blanks ≠ [])
    (blank : ∀ c ∈ blanks, isBlank c = true) (bare : HasBareEnds clean) (left : clean ≠ []) :
    (opening.reading (key ++ (blanks ++ clean))).cleanText = String.ofList clean := by
  have trimmed : trimChars (blanks ++ (clean ++ [])) = clean := trimChars_surrounded blank nofun bare left
  rw [List.append_nil] at trimmed
  unfold reading
  rw [keyIn_append visible keyless some blank]
  simp only [List.drop_left, trimmed]

/-- A text that repeats its opening is read after the first one. -/
theorem IsRepeatedIn.starts_cleanText (member : opening ∈ openings) (bare : HasBareEnds text)
    (repeated : opening.IsRepeatedIn text) {directive : Directive} (reads : opening.directive? text = some directive) :
    opening.Starts directive.cleanText.toList := by
  obtain ⟨spelled, key, blanks, again, rfl, spells, visible, keyless, some, blank, starts⟩ := repeated
  obtain ⟨c, rest, given, visibleFirst⟩ := starts.exists_visible member
  have left : again ≠ [] := by rw [given]; exact List.cons_ne_nil _ _
  have bareAgain : HasBareEnds again := by
    refine ⟨?_, fun d last => bare.2 d ?_⟩
    · rw [given]
      rintro _ ⟨⟩
      exact visibleFirst
    · rw [← List.append_assoc, ← List.append_assoc, List.getLast?_append, Option.mem_def.mp last]
      rfl
  have goesOn : opening.mode.isStyled = true ∨ endsWord (key ++ (blanks ++ again)) = true := by
    by_cases styled : opening.mode.isStyled = true
    · exact .inl styled
    · obtain ⟨d, others, rfl⟩ := List.exists_cons_of_ne_nil some
      rw [keyless (Bool.eq_false_iff.mpr styled)]
      exact .inr (blank d List.mem_cons_self)
  have read := directive?_eq_some_iff.mpr ⟨spelled, _, rfl, spells, goesOn, rfl⟩
  obtain rfl := Option.some.inj (read.symm.trans reads)
  rw [cleanText_reading visible keyless some blank bareAgain left, String.toList_ofList]
  exact starts

/-- A clean text that starts with the opening follows the first one. -/
theorem LaysOut.isRepeatedIn {directive : Directive} {spelled : List Char} (member : opening ∈ openings)
    (laysOut : opening.LaysOut text directive spelled key blanks)
    (starts : opening.Starts directive.cleanText.toList) : opening.IsRepeatedIn text := by
  refine ⟨spelled, key, blanks, _, laysOut.split, laysOut.spells, laysOut.visible, laysOut.keyless, fun none => ?_,
    laysOut.blank, starts⟩
  obtain ⟨c, rest, given, -⟩ := starts.exists_visible member
  rw [laysOut.longest none] at given
  cases given

end Opening

namespace Directive

/-- **A directive takes off one opening.**  The clean text starts with the opening that was read, in any case of ASCII
letters, exactly if the utterance gives the opening twice: the second behind the first, the key of a style and
blanks. -/
theorem starts_again_iff_repeated (utterance : String) (member : opening ∈ openings)
    (begins : opening.Begins (trimChars utterance.toList)) :
    opening.Starts (ofUtterance utterance).cleanText.toList ↔ opening.IsRepeatedIn (trimChars utterance.toList) := by
  constructor
  · intro starts
    obtain ⟨spelled, key, blanks, laysOut⟩ := exists_laysOut member begins
    exact laysOut.isRepeatedIn member starts
  · intro repeated
    exact repeated.starts_cleanText member (hasBareEnds_trimChars _) (ofTrimmed_of_begins member begins)

/-- The word for answering past the notes, said twice, is left in the question once. -/
theorem starts_again_iff_repeated_of_bypass :
    let opening : Opening := ⟨"/bypass", .bypass⟩
    opening ∈ openings ∧ opening.Begins (trimChars "/bypass /BYPASS hi".toList) ∧
      ofUtterance "/bypass /BYPASS hi" = ⟨.bypass, none, "/BYPASS hi", true⟩ ∧
      opening.Starts (ofUtterance "/bypass /BYPASS hi").cleanText.toList := by
  intro opening
  have member : opening ∈ openings := by decide
  have trimmed : trimChars "/bypass /BYPASS hi".toList = "/bypass".toList ++ " /BYPASS hi".toList := by decide +kernel
  have begins : opening.Begins (trimChars "/bypass /BYPASS hi".toList) :=
    ⟨_, _, trimmed, by decide, .inr (by decide)⟩
  refine ⟨member, begins, by decide +kernel, (starts_again_iff_repeated _ member begins).mpr ?_⟩
  exact ⟨"/bypass".toList, [], [' '], "/BYPASS hi".toList, by decide +kernel, by decide, nofun, fun _ => rfl, nofun,
    List.all_eq_true.mp rfl, "/BYPASS".toList, " hi".toList, by decide, by decide⟩

end Directive

end NoteDialogue
