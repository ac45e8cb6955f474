import NoteDialogue.Proofs.Text.LetterCase
import NoteDialogue.Proofs.Text.Trim

/-!
# Blanks in lower case

The table of lower cases moves no blank, and none of its images is one (`lowerTable_visible`).  So a character is blank
exactly if the characters of its lower case are (`isBlank_of_mem_lowerOf`).  A text in lower case therefore has blanks
at its ends exactly where the text itself has them (`hasBareEnds_lowerChars_iff`).
-/

set_option autoImplicit false

namespace NoteDialogue.Text

/-! ## Blanks by their numbers -/

/-- The blanks by their numbers. -/
def blankCodes : List Nat :=
  [9, 10, 11, 12, 13, 0x20, 0x85, 0xA0, 0x1680, 0x2000, 0x2001, 0x2002, 0x2003, 0x2004, 0x2005, 0x2006, 0x2007, 0x2008,
    0x2009, 0x200A, 0x2028, 0x2029, 0x202F, 0x205F, 0x3000]

theorem isBlank_iff_mem {c : Char} : isBlank c = true ↔ c.toNat ∈ blankCodes := by
  simp only [isBlank, blankCodes, Bool.or_eq_true, Bool.and_eq_true, decide_eq_true_eq, beq_iff_eq, List.mem_cons,
    List.not_mem_nil, or_false]
  omega

theorem isBlank_eq_false_iff {c : Char} : isBlank c = false ↔ c.toNat ∉ blankCodes := by
  rw [← isBlank_iff_mem, Bool.not_eq_true]

/-- No blank has a number from the first to the last. -/
def Visible (first last : Nat) : Prop :=
  ∀ code ∈ blankCodes, code < first ∨ last < code

instance (first last : Nat) : Decidable (Visible first last) :=
  inferInstanceAs (Decidable (∀ code ∈ blankCodes, _))

theorem Visible.isBlank_eq_false {first last : Nat} (visible : Visible first last) {c : Char} (low : first ≤ c.toNat)
    (high : c.toNat ≤ last) : isBlank c = false := by
  refine isBlank_eq_false_iff.mpr fun blank => ?_
  have outside := visible _ blank
  omega

/-- A number that stands for no character stands for the first one here, which is not blank either. -/
theorem Visible.isBlank_ofNat {first last code : Nat} (visible : Visible first last) (low : first ≤ code)
    (high : code ≤ last) : isBlank (Char.ofNat code) = false := by
  by_cases valid : code.isValidChar
  · have same : (Char.ofNat code).toNat = code := by rw [Char.ofNat, dif_pos valid]; rfl
    exact visible.isBlank_eq_false (same.symm ▸ low) (same.symm ▸ high)
  · have first : Char.ofNat code = Char.ofNat 0 := by rw [Char.ofNat, dif_neg valid]; rfl
    rw [first]
    rfl

/-! ## The table of lower cases -/

theorem entriesOf_ofList (cs : List Char) :
    entriesOf (String.ofList cs) = (cs.splitBy fun a b => !isGap a && !isGap b).filter (!·.any isGap) := by
  rw [entriesOf, String.toList_ofList]

/-- **No blank is moved, and nothing is moved to a blank.** -/
theorem lowerTable_visible : ∀ move ∈ lowerTable.moves.toList,
    Visible move.1.first move.1.last ∧ Visible move.2 (move.1.last - move.1.first + move.2) := by
  -- The characters of the table are read off the literal, of which the kernel would decode the bytes.
  rw [lowerTable, MappingTable.ofText, (entriesOf_ofList _ :)]
  decide +kernel

/-- What a table moves is within one of its stretches, and the image is as far from the image of its first character. -/
theorem MappingTable.exists_of_image? {table : MappingTable} {c image : Char} (moved : table.image? c = some image) :
    ∃ move ∈ table.moves.toList, move.1.first ≤ c.toNat ∧ c.toNat ≤ move.1.last ∧
      image = Char.ofNat (c.toNat - move.1.first + move.2) := by
  unfold image? at moved
  simp only at moved
  split at moved
  case h_1 stretch first found =>
    split at moved
    case isTrue inside =>
      simp only [Stretch.contains, Bool.and_eq_true, decide_eq_true_eq] at inside
      exact ⟨(stretch, first), (Array.mem_of_getElem? found).val, inside.1.1, inside.1.2, (Option.some.inj moved).symm⟩
    case isFalse => cases moved
  case h_2 => cases moved

theorem isBlank_of_mem_lowerOf {c d : Char} (inside : d ∈ lowerOf c) : isBlank d = isBlank c := by
  unfold lowerOf at inside
  split at inside
  · rw [List.mem_singleton.mp inside, isBlank_asciiLower]
  · split at inside
    case isTrue dotted =>
      have visible : isBlank c = false := isBlank_eq_false_iff.mpr (by rw [dotted]; decide)
      rw [visible]
      rcases List.mem_cons.mp inside with rfl | last
      · rfl
      · rw [List.mem_singleton.mp last]
        rfl
    case isFalse =>
      rw [List.mem_singleton.mp inside]
      cases moved : lowerTable.image? c with
      | none => rfl
      | some image =>
          obtain ⟨move, listed, low, high, rfl⟩ := MappingTable.exists_of_image? moved
          obtain ⟨source, target⟩ := lowerTable_visible move listed
          rw [source.isBlank_eq_false low high]
          exact target.isBlank_ofNat (Nat.le_add_left _ _) (Nat.add_le_add_right (Nat.sub_le_sub_right high _) _)

/-! ## Texts in lower case -/

/-- A character becomes one or more, which are blank if it is, in front of the rest in lower case. -/
theorem exists_lowerFrom_cons (casedBefore : Bool) (c : Char) (rest : List Char) :
    ∃ image cased, lowerFrom casedBefore (c :: rest) = image ++ lowerFrom cased rest ∧ image ≠ [] ∧
      ∀ d ∈ image, isBlank d = isBlank c := by
  refine ⟨_, _, rfl, ?_⟩
  split
  case isTrue sigma =>
    have visible : isBlank c = false := isBlank_eq_false_iff.mpr (by rw [sigma]; decide)
    refine ⟨List.cons_ne_nil _ _, fun d inside => ?_⟩
    rw [List.mem_singleton.mp inside, visible]
    split
    · rfl
    · rfl
  case isFalse => exact ⟨lowerOf_ne_nil c, fun d => isBlank_of_mem_lowerOf⟩

theorem head?_lowerFrom (casedBefore : Bool) (cs : List Char) :
    (lowerFrom casedBefore cs).head?.map isBlank = cs.head?.map isBlank := by
  cases cs with
  | nil => rfl
  | cons c rest =>
      obtain ⟨image, cased, lower, some, same⟩ := exists_lowerFrom_cons casedBefore c rest
      obtain ⟨d, others, rfl⟩ := List.exists_cons_of_ne_nil some
      rw [lower]
      exact congrArg Option.some (same d List.mem_cons_self)

theorem getLast?_lowerFrom (casedBefore : Bool) (cs : List Char) :
    (lowerFrom casedBefore cs).getLast?.map isBlank = cs.getLast?.map isBlank := by
  induction cs generalizing casedBefore with
  | nil => rfl
  | cons c rest ih =>
      obtain ⟨image, cased, lower, some, same⟩ := exists_lowerFrom_cons casedBefore c rest
      rw [lower, List.getLast?_append, List.getLast?_cons, Option.map_or, ih cased]
      cases rest with
      | nil =>
          obtain ⟨d, last⟩ := Option.isSome_iff_exists.mp (List.getLast?_isSome.mpr some)
          rw [last]
          exact congrArg Option.some (same d (List.mem_of_getLast? last))
      | cons next later => simp [List.getLast?_cons]

theorem hasBareEnds_iff {cs : List Char} :
    HasBareEnds cs ↔ cs.head?.map isBlank ≠ some true ∧ cs.getLast?.map isBlank ≠ some true := by
  simp [HasBareEnds]

/-- **Lower case keeps the blanks at the ends of a text.** -/
theorem hasBareEnds_lowerChars_iff {cs : List Char} : HasBareEnds (lowerChars cs) ↔ HasBareEnds cs := by
  rw [hasBareEnds_iff, hasBareEnds_iff, lowerChars, head?_lowerFrom, getLast?_lowerFrom]

theorem hasBareEnds_lowercase_iff {text : String} : HasBareEnds (lowercase text).toList ↔ HasBareEnds text.toList := by
  rw [lowercase, String.toList_ofList, hasBareEnds_lowerChars_iff]

end NoteDialogue.Text
