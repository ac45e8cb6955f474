import NoteDialogue.Proofs.Text.LetterCase
import NoteDialogue.Reference.Mentions

/-!
# Cutting mentions out of parts

A pass over a text that is put together from parts with single spaces between them can be followed part by
part, as long as the recogniser reads every part on its own: it recognises the whole of a part, or nothing at
any place of it, whatever comes after the space (`Reads`).  The pass then cuts out the parts that are
recognised, leaves a space for each, and gives their cuts in order (`cut_intercalate`).
-/

set_option autoImplicit false

namespace NoteDialogue

open Text (EndsHere)

variable {recognise : Recogniser}

/-! ## Cutting at one place -/

theorem cutFrom_skip (recognise : Recogniser) (passed rest : List Char) :
    cutFrom recognise passed.length (passed ++ rest) = cut recognise rest := by
  induction passed with
  | nil => rfl
  | cons c passed ih =>
      rw [List.length_cons, List.cons_append, cutFrom]
      exact ih

/-- A mention at the start is cut out, and the pass goes on behind it. -/
theorem cut_of_mention {span value rest : List Char} (some : span ≠ [])
    (reads : recognise (span ++ rest) = .some ⟨span.length, value⟩) :
    cut recognise (span ++ rest) =
      (' ' :: (cut recognise rest).1, ⟨span, value⟩ :: (cut recognise rest).2) := by
  cases span with
  | nil => exact absurd rfl some
  | cons c span =>
      rw [List.cons_append] at reads ⊢
      rw [cut, cutFrom, reads]
      have skipped := cutFrom_skip recognise span rest
      simp only [List.length_cons, Nat.add_sub_cancel, skipped, List.take_succ_cons,
        List.take_left]

/-- A stretch in which no mention begins is left as it is. -/
theorem cut_of_unread {stretch rest : List Char}
    (unread : ∀ suffix, suffix ≠ [] → suffix <:+ stretch → recognise (suffix ++ rest) = none) :
    cut recognise (stretch ++ rest) = (stretch ++ (cut recognise rest).1, (cut recognise rest).2) := by
  induction stretch with
  | nil => rfl
  | cons c stretch ih =>
      have here := unread (c :: stretch) nofun (List.suffix_refl _)
      have later := ih fun suffix some within =>
        unread suffix some (within.trans (List.suffix_cons c stretch))
      rw [cut] at later
      rw [List.cons_append] at here ⊢
      rw [cut, cutFrom, here]
      simp only [later, List.cons_append]

/-! ## Cutting part by part -/

/-- Whatever comes after a part, a recogniser recognises the whole of the part, which is then cut out and
leaves a space, or it recognises nothing at any place of it. -/
inductive Reads (recognise : Recogniser) : List Char → Option Cut → List Char → Prop where
  | mention {span value : List Char} (some : span ≠ [])
      (reads : ∀ rest, EndsHere rest → recognise (span ++ rest) = .some ⟨span.length, value⟩) :
      Reads recognise span (.some ⟨span, value⟩) [' ']
  | unread {stretch : List Char}
      (unread : ∀ rest, EndsHere rest → ∀ suffix, suffix ≠ [] → suffix <:+ stretch →
        recognise (suffix ++ rest) = none) :
      Reads recognise stretch none stretch

/-- A space stays a space. -/
theorem reads_space (space : ∀ rest, recognise (' ' :: rest) = none) :
    Reads recognise [' '] none [' '] := by
  refine .unread fun rest _ suffix some within => ?_
  rcases List.suffix_cons_iff.mp within with rfl | none
  · exact space rest
  · exact absurd (List.suffix_nil.mp none) some

theorem Reads.cut_append {before after : List Char} {found : Option Cut}
    (reads : Reads recognise before found after) {rest : List Char} (ends : EndsHere rest) :
    cut recognise (before ++ rest) =
      (after ++ (cut recognise rest).1, found.toList ++ (cut recognise rest).2) := by
  cases reads with
  | mention some reads => exact cut_of_mention some (reads rest ends)
  | unread unread => exact cut_of_unread (unread rest ends)

/-- **A pass over parts with single spaces between them cuts them one by one.** -/
theorem cut_intercalate {ι : Type} {before after : ι → List Char} {found : ι → Option Cut}
    (space : ∀ rest, recognise (' ' :: rest) = none) (parts : List ι)
    (reads : ∀ part ∈ parts, Reads recognise (before part) (found part) (after part)) :
    cut recognise ([' '].intercalate (parts.map before)) =
      ([' '].intercalate (parts.map after), parts.filterMap found) := by
  induction parts with
  | nil => rfl
  | cons part rest ih =>
      obtain ⟨here, later⟩ := List.forall_mem_cons.mp reads
      cases rest with
      | nil =>
          have cuts := here.cut_append (.inl rfl)
          rw [List.append_nil] at cuts
          simp only [List.map_cons, List.map_nil, List.intercalate_singleton, List.filterMap_cons,
            List.filterMap_nil, cuts]
          cases found part <;> simp [cut, cutFrom]
      | cons next others =>
          have passes (tail : List Char) :
              cut recognise (' ' :: tail) = (' ' :: (cut recognise tail).1, (cut recognise tail).2) := by
            rw [cut, cutFrom, space]
            rfl
          have cuts := here.cut_append
            (.inr ⟨[' '].intercalate ((next :: others).map before), rfl⟩)
          rw [List.map_cons, List.map_cons, List.intercalate_cons_cons, ← List.map_cons,
            List.append_assoc, List.singleton_append, cuts, passes, ih later]
          cases given : found part <;> simp [given]

end NoteDialogue
