import Mathlib

/-!
# The order of single-precision numbers

A number of single precision has a standing among the numbers (`standing`): its side of zero, then its
exponent, then its significand.  Only an undefined value has none; it is less than nothing, and nothing is
less than it.  Numbers compare as their standings do (`lt_iff_standing`, `le_iff_standing`), and standings are
linearly ordered.
-/

set_option autoImplicit false

namespace NoteDialogue.Numeral

open Float.Model (UnpackedFloat)

/-- A side of zero, from minus infinity to plus infinity, an exponent and a significand. -/
abbrev Place := ℤ ×ₗ ℤ ×ₗ ℤ

/-- The place of a number, whose exponent and significand count backwards below zero. -/
def placeOf (side exponent significand : ℤ) : Place :=
  toLex (side, toLex (exponent, significand))

theorem placeOf_lt {side exponent significand side' exponent' significand' : ℤ} :
    placeOf side exponent significand < placeOf side' exponent' significand' ↔
      side < side' ∨
        side = side' ∧ (exponent < exponent' ∨ exponent = exponent' ∧ significand < significand') := by
  simp only [placeOf, Prod.Lex.toLex_lt_toLex]

/-- The standing of a number that is taken apart. -/
def standingOfParts : UnpackedFloat → WithBot Place
  | .notANumber => ⊥
  | .infinity .negative => placeOf (-2) 0 0
  | .finite .negative significand exponent _ => placeOf (-1) (-exponent) (-significand)
  | .zero _ => placeOf 0 0 0
  | .finite .positive significand exponent _ => placeOf 1 exponent significand
  | .infinity .positive => placeOf 2 0 0

theorem compare_signs : compare UnpackedFloat.Sign.negative .positive = .lt := rfl

theorem compare_signs_swapped : compare UnpackedFloat.Sign.positive .negative = .gt := rfl

theorem compare_sign_self (sign : UnpackedFloat.Sign) : compare sign sign = .eq := by
  cases sign <;> rfl

theorem compare_parts_eq_lt (left right : UnpackedFloat) :
    left.compare right = some .lt ↔
      standingOfParts left ≠ ⊥ ∧ standingOfParts left < standingOfParts right := by
  rcases left with (_ | _) | _ | _ | ⟨_ | _, _, _, _⟩ <;>
    rcases right with (_ | _) | _ | _ | ⟨_ | _, _, _, _⟩ <;>
      simp [UnpackedFloat.compare, standingOfParts, placeOf_lt, compare_signs, compare_signs_swapped,
        compare_sign_self, compare_lt_iff_lt, compare_gt_iff_gt, Ordering.then_eq_lt, Ordering.then_eq_gt]

theorem compare_parts_eq_eq (left right : UnpackedFloat) :
    left.compare right = some .eq ↔
      standingOfParts left ≠ ⊥ ∧ standingOfParts left = standingOfParts right := by
  rcases left with (_ | _) | _ | _ | ⟨_ | _, _, _, _⟩ <;>
    rcases right with (_ | _) | _ | _ | ⟨_ | _, _, _, _⟩ <;>
      simp [UnpackedFloat.compare, standingOfParts, placeOf, compare_signs, compare_signs_swapped,
        compare_sign_self, Ordering.then_eq_eq]

/-- The standing of a number; an undefined value has none. -/
def standing (number : Float32) : WithBot Place :=
  standingOfParts number.toModel.unpack

variable {left right : Float32}

theorem lt_iff_standing : left < right ↔ standing left ≠ ⊥ ∧ standing left < standing right := by
  have compared : left < right ↔ left.toModel.unpack.compare right.toModel.unpack = some .lt := by
    rw [← beq_iff_eq]
    exact decide_eq_true_iff
  rw [compared, compare_parts_eq_lt]
  rfl

theorem le_iff_standing : left ≤ right ↔ standing left ≠ ⊥ ∧ standing left ≤ standing right := by
  have compared : left ≤ right ↔
      (left.toModel.unpack.compare right.toModel.unpack).any (·.isLE) = true := decide_eq_true_iff
  have lower (order : Option Ordering) :
      order.any (·.isLE) = true ↔ order = some .lt ∨ order = some .eq := by
    rcases order with _ | _ | _ | _ <;> decide
  rw [compared, lower, compare_parts_eq_lt, compare_parts_eq_eq, ← and_or_left, ← le_iff_lt_or_eq]
  rfl

/-- What is no more than something is a number. -/
theorem standing_ne_bot_of_le (atMost : left ≤ right) : standing right ≠ ⊥ := by
  obtain ⟨defined, lower⟩ := le_iff_standing.mp atMost
  exact ne_bot_of_le_ne_bot defined lower

/-- Nothing that is no more than a number is above it. -/
theorem not_lt_of_standing_le (lower : standing right ≤ standing left) : ¬ left < right := by
  rw [lt_iff_standing]
  exact fun ⟨_, above⟩ => above.not_ge lower

theorem standing_le_of_not_lt (defined : standing left ≠ ⊥) (below : ¬ left < right) :
    standing right ≤ standing left :=
  not_lt.mp fun above => below (lt_iff_standing.mpr ⟨defined, above⟩)

end NoteDialogue.Numeral
