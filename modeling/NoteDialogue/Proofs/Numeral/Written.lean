import NoteDialogue.Numeral.Written
import NoteDialogue.Proofs.Text.LetterCase
import NoteDialogue.Proofs.Text.Trim

/-!
# Written numbers have no blanks

No blank is skipped when a number is read, so a text that is a number, a whole or a decimal one, holds no
blank at all (`natural?_visible`, `single?_visible`).  To trim it first makes no difference.
-/

set_option autoImplicit false

namespace NoteDialogue.Numeral

open Text (asciiLower isBlank)

variable {text : List Char} {written : String}

theorem isBlank_of_digit {c : Char} (digit : isDigit c = true) : isBlank c = false := by
  simp only [isDigit, Bool.and_eq_true, decide_eq_true_eq] at digit
  have low : 48 ≤ c.toNat := digit.1
  have high : c.toNat ≤ 57 := digit.2
  simp only [isBlank, Bool.or_eq_false_iff, Bool.and_eq_false_iff, beq_eq_false_iff_ne,
    decide_eq_false_iff_not]
  omega

theorem visible_of_digits (digits : text.all isDigit = true) : ∀ c ∈ text, isBlank c = false :=
  fun c inside => isBlank_of_digit (List.all_eq_true.mp digits c inside)

/-- A mark that may stand before some text is as visible as the text. -/
theorem visible_cons {mark : Char} (here : isBlank mark = false) (later : ∀ c ∈ text, isBlank c = false) :
    ∀ c ∈ mark :: text, isBlank c = false :=
  List.forall_mem_cons.mpr ⟨here, later⟩

/-- What is read only from digits, and from one at least, was read from digits. -/
theorem digits_of_read {α : Type} {digits : List Char} {read? : Option α} {value : α}
    (reads : (if digits.isEmpty || !digits.all isDigit then none else read?) = some value) :
    digits.all isDigit = true := by
  split at reads
  · cases reads
  · rename_i areDigits
    simp only [Bool.or_eq_true, not_or, Bool.not_eq_true, Bool.not_eq_false'] at areDigits
    exact areDigits.2

/-! ## Whole numbers -/

/-- **A whole number has no blanks.** -/
theorem natural?_visible {limit value : Nat} (reads : natural? limit written = some value) :
    ∀ c ∈ written.toList, isBlank c = false := by
  unfold natural? at reads
  split at reads
  case h_1 rest signed =>
    rw [signed]
    exact visible_cons rfl (visible_of_digits (digits_of_read reads))
  case h_2 => exact visible_of_digits (digits_of_read reads)

/-! ## Decimal numbers -/

theorem exponentPart?_visible {exponent : Int} (reads : exponentPart? text = some exponent) :
    ∀ c ∈ text, isBlank c = false := by
  cases text with
  | nil => exact nofun
  | cons mark rest =>
      unfold exponentPart? at reads
      dsimp only at reads
      by_cases isMark : (mark = 'e' || mark = 'E') = true
      · rw [if_pos isMark] at reads
        have here : isBlank mark = false := by
          rcases Bool.or_eq_true_iff.mp isMark with small | capital
          · rw [of_decide_eq_true small]
            rfl
          · rw [of_decide_eq_true capital]
            rfl
        refine visible_cons here ?_
        split at reads
        case h_1 | h_2 => exact visible_cons rfl (visible_of_digits (digits_of_read reads))
        case h_3 => exact visible_of_digits (digits_of_read reads)
      · rw [if_neg isMark] at reads
        cases reads

/-- A word without blanks has none, however it is spelled. -/
theorem visible_of_word {word : String} (same : String.ofList (text.map asciiLower) = word)
    (small : word.toList.map asciiLower = word.toList)
    (visible : (word.toList.all fun c => !isBlank c) = true) : ∀ c ∈ text, isBlank c = false := by
  refine Text.visible_of_spelled ?_ (Text.visible_of_all visible)
  rw [small, ← same, String.toList_ofList]

/-- The digits before a point or an exponent, and then the rest. -/
theorem visible_of_afterWhole (visible : ∀ c ∈ text.dropWhile isDigit, isBlank c = false) :
    ∀ c ∈ text, isBlank c = false := by
  intro c inside
  rw [← List.takeWhile_append_dropWhile (p := isDigit) (l := text)] at inside
  rcases List.mem_append.mp inside with whole | after
  · exact visible_of_digits List.all_takeWhile c whole
  · exact visible c after

/-- What comes after the digits is an exponent or nothing. -/
theorem visible_of_tail {whole fraction tail : List Char} {made : Int → WrittenDecimal}
    {decimal : WrittenDecimal}
    (reads : (if whole.isEmpty && fraction.isEmpty then none else (exponentPart? tail).map made) =
      some decimal) : ∀ c ∈ tail, isBlank c = false := by
  split at reads
  · cases reads
  · obtain ⟨exponent, reads, -⟩ := Option.map_eq_some_iff.mp reads
    exact exponentPart?_visible reads

theorem unsignedDecimal?_visible {negative : Bool} {decimal : WrittenDecimal}
    (reads : unsignedDecimal? negative text = some decimal) : ∀ c ∈ text, isBlank c = false := by
  unfold unsignedDecimal? at reads
  simp only at reads
  split at reads
  case isTrue infinite =>
    rcases Bool.or_eq_true_iff.mp infinite with short | long
    · exact visible_of_word (of_decide_eq_true short) (by decide) (by decide)
    · exact visible_of_word (of_decide_eq_true long) (by decide) (by decide)
  case isFalse =>
    split at reads
    case isTrue undefined => exact visible_of_word undefined (by decide) (by decide)
    case isFalse =>
      refine visible_of_afterWhole ?_
      split at reads
      case h_1 rest pointed =>
        rw [pointed]
        exact visible_cons rfl (visible_of_afterWhole (visible_of_tail reads))
      case h_2 => exact visible_of_tail reads

theorem decimal?_visible {decimal : WrittenDecimal} (reads : decimal? written = some decimal) :
    ∀ c ∈ written.toList, isBlank c = false := by
  unfold decimal? at reads
  split at reads
  case h_1 rest signed | h_2 rest signed =>
    rw [signed]
    exact visible_cons rfl (unsignedDecimal?_visible reads)
  case h_3 => exact unsignedDecimal?_visible reads

/-- **A decimal number has no blanks.** -/
theorem single?_visible {value : Float32} (reads : single? written = some value) :
    ∀ c ∈ written.toList, isBlank c = false := by
  obtain ⟨decimal, reads, -⟩ := Option.map_eq_some_iff.mp reads
  exact decimal?_visible reads

/-- Nothing is trimmed off a text without blanks. -/
theorem trim_of_visible (visible : ∀ c ∈ written.toList, isBlank c = false) :
    Text.trim written = written := by
  have bare : Text.HasBareEnds written.toList :=
    ⟨fun c first => visible c (List.mem_of_head? first), fun c last => visible c (List.mem_of_getLast? last)⟩
  rw [Text.trim, Text.trimChars_eq_self bare, String.ofList_toList]

end NoteDialogue.Numeral
