/-!
# Similarity of embeddings

The cosine of two vectors in single precision.  Sums run from the left and start at zero; vectors of
different lengths, empty vectors and vectors of length zero are not similar to anything.
-/

set_option autoImplicit false

namespace NoteDialogue

/-- An embedding of a text. -/
abbrev Vector32 := List Float32

/-- The sum of some numbers from the left. -/
def sumFromLeft (numbers : List Float32) : Float32 :=
  numbers.foldl (· + ·) 0

/-- The products of two vectors, place by place. -/
def products (left right : Vector32) : List Float32 :=
  List.zipWith (· * ·) left right

/-- The length of a vector. -/
def norm (vector : Vector32) : Float32 :=
  (sumFromLeft (products vector vector)).sqrt

/-- The cosine of two vectors. -/
def cosine (left right : Vector32) : Float32 :=
  if left.length ≠ right.length || left.isEmpty then 0
  else
    let leftNorm := norm left
    let rightNorm := norm right
    if leftNorm == 0 || rightNorm == 0 then 0
    else sumFromLeft (products left right) / (leftNorm * rightNorm)

/-- A score brought into the range from zero to one. -/
def clampScore (score : Float32) : Float32 :=
  if score < 0 then 0 else if 1 < score then 1 else score

end NoteDialogue
