import NoteDialogue.Json.Record
import NoteDialogue.Proofs.Json.Rendering
import NoteDialogue.Proofs.Numeral.Written

/-!
# Natural numbers in JSON

A natural number of sixty-four bits is read back from its digits, whether they stand as a number
(`word?_ofNat`) or in a text (`natural?_toString`).
-/

set_option autoImplicit false

namespace NoteDialogue

open Numeral (isDigit digitsValue)

variable {value : Nat}

theorem digitsValue_toDigits (value : Nat) : digitsValue (Nat.toDigits 10 value) = value := by
  calc digitsValue (Nat.toDigits 10 value)
      = Nat.ofDigitChars 10 (Nat.toDigits 10 value) 0 := by
        simp only [digitsValue, Nat.ofDigitChars, Nat.mul_comm 10]
    _ = value := Nat.ofDigitChars_ten_toDigits

theorem areDigits_toDigits (value : Nat) : Json.AreDigits (Nat.toDigits 10 value) := by
  refine ⟨Nat.toDigits_ne_nil, fun c inside => ?_⟩
  have digit := Nat.isDigit_of_mem_toDigits (by decide) (by decide) inside
  simp only [Char.isDigit, Bool.and_eq_true, decide_eq_true_eq] at digit
  simp only [isDigit, Bool.and_eq_true, decide_eq_true_eq]
  exact digit

namespace NumberLiteral

/-- **A natural number is read back from its digits.** -/
theorem word?_ofNat (fits : value ≤ Numeral.maxWord) : (ofNat value).word? = some value := by
  change (if digitsValue (Nat.toDigits 10 value) ≤ Numeral.maxWord then
    some (digitsValue (Nat.toDigits 10 value)) else none) = some value
  rw [digitsValue_toDigits, if_pos fits]

end NumberLiteral

theorem natural?_of_digits {limit : Nat} {text : String} (are : Json.AreDigits text.toList)
    (fits : digitsValue text.toList ≤ limit) :
    Numeral.natural? limit text = some (digitsValue text.toList) := by
  have noSign := are.head?_ne_sign []
  have all : text.toList.all isDigit = true := List.all_eq_true.mpr are.2
  rw [List.append_nil] at noSign
  simp [Numeral.natural?, noSign, all, are.1, fits]

/-- **A natural number is read back from a text of its digits**, also when the text is trimmed. -/
theorem natural?_toString (fits : value ≤ Numeral.maxWord) :
    Numeral.natural? Numeral.maxWord (Text.trim (toString value)) = some value := by
  have are := areDigits_toDigits value
  have isWord : Text.IsWord (Nat.toDigits 10 value) :=
    ⟨are.1, fun c inside => Numeral.isBlank_of_digit (are.2 c inside)⟩
  have digits : (toString value).toList = Nat.toDigits 10 value := Nat.toList_repr
  have trimmed : (Text.trim (toString value)).toList = Nat.toDigits 10 value := by
    rw [Text.trim, String.toList_ofList, digits, Text.trimChars_eq_self isWord.hasBareEnds]
  have same : digitsValue (Text.trim (toString value)).toList = value := by
    rw [trimmed, digitsValue_toDigits]
  rw [natural?_of_digits (trimmed ▸ are) (same.symm ▸ fits), same]

end NoteDialogue
