import Mathlib.Data.Finset.Card
import Mathlib.Data.List.DropRight
import Mathlib.Data.List.Induction
import Mathlib.Data.List.Nodup

/-!
# What was used most recently

Names that are used one after the other are listed once each, the most recently used first (`Recency.recent`): a name
that is used goes to the front.  The names before one of them are those that were used after its last use, so its place
is the number of these (`Recency.length_takeWhile_recent`).

Of the list only the beginning may be kept, and names that no longer have room are forgotten.  Nothing is lost by
forgetting them each time: what is kept is the beginning of the whole list (`Recency.take_toFront_take`,
`Recency.toFront_take_of_mem`).
-/

set_option autoImplicit false

namespace NoteDialogue.Recency

variable {α : Type} [DecidableEq α] {name other : α} {names kept : List α} {room : Nat}

/-- The names with one at the front. -/
def toFront (name : α) (names : List α) : List α :=
  name :: names.filter (· ≠ name)

/-- The names that were used, each once and the most recently used first. -/
def recent (names : List α) : List α :=
  names.foldl (fun kept name => toFront name kept) []

theorem recent_concat (names : List α) (name : α) : recent (names ++ [name]) = toFront name (recent names) :=
  List.foldl_concat _ _ _ _

/-! ## Which names are listed, and where -/

theorem mem_toFront : other ∈ toFront name names ↔ other = name ∨ other ∈ names := by
  by_cases same : other = name
  · simp [toFront, same]
  · simp [toFront, same]

theorem nodup_toFront (distinct : names.Nodup) : (toFront name names).Nodup :=
  List.nodup_cons.mpr ⟨by simp, distinct.filter _⟩

/-- Every name that was used is listed. -/
theorem mem_recent : name ∈ recent names ↔ name ∈ names := by
  induction names using List.reverseRecOn with
  | nil => rfl
  | append_singleton names last ih => rw [recent_concat, mem_toFront, ih, List.mem_append, List.mem_singleton, or_comm]

theorem nodup_recent (names : List α) : (recent names).Nodup := by
  induction names using List.reverseRecOn with
  | nil => exact List.nodup_nil
  | append_singleton names last ih =>
      rw [recent_concat]
      exact nodup_toFront ih

/-- Before a name stand those that were used after its last use. -/
theorem mem_takeWhile_recent (names : List α) (name other : α) :
    other ∈ (recent names).takeWhile (· ≠ name) ↔ other ∈ names.rtakeWhile (· ≠ name) := by
  induction names using List.reverseRecOn with
  | nil => rfl
  | append_singleton names last ih =>
      rw [recent_concat, toFront]
      by_cases same : last = name
      · rw [List.takeWhile_cons_of_neg (by simpa using same), List.rtakeWhile_concat_neg _ _ _ (by simpa using same)]
      -- The last name left its old place, but the names up to `name` are the same without it.
      · have stops : (fun one => !decide (one ≠ last) || decide (one ≠ name)) = fun one => decide (one ≠ name) := by
          funext one
          by_cases isLast : one = last
          · simp [isLast, same]
          · simp [isLast]
        rw [List.takeWhile_cons_of_pos (by simpa using same), List.rtakeWhile_concat_pos _ _ _ (by simpa using same),
          List.takeWhile_filter, stops, List.mem_cons, List.mem_filter, ih, List.mem_append, List.mem_singleton]
        by_cases isLast : other = last
        · simp [isLast]
        · simp [isLast]

/-- **The place of a name is the number of other names that were used after its last use.** -/
theorem length_takeWhile_recent (names : List α) (name : α) :
    ((recent names).takeWhile (· ≠ name)).length = (names.rtakeWhile (· ≠ name)).toFinset.card := by
  have same : ((recent names).takeWhile (· ≠ name)).toFinset = (names.rtakeWhile (· ≠ name)).toFinset := by
    ext other
    rw [List.mem_toFinset, List.mem_toFinset, mem_takeWhile_recent]
  rw [← same, List.toFinset_card_of_nodup ((nodup_recent names).sublist (List.takeWhile_sublist _))]

/-- There are as many names on the list as different ones were used. -/
theorem length_recent (names : List α) : (recent names).length = names.toFinset.card := by
  have same : (recent names).toFinset = names.toFinset := by
    ext name
    rw [List.mem_toFinset, List.mem_toFinset, mem_recent]
  rw [← same, List.toFinset_card_of_nodup (nodup_recent names)]

/-! ## Keeping the beginning -/

/-- A name is kept if there is room for it and for those before it. -/
theorem mem_take_iff : name ∈ names.take room ↔ name ∈ names ∧ (names.takeWhile (· ≠ name)).length < room := by
  induction names generalizing room with
  | nil => simp
  | cons first rest ih =>
      cases room with
      | zero => simp
      | succ room =>
          by_cases same : first = name
          · simp [same]
          · have other : name ≠ first := Ne.symm same
            rw [List.take_succ_cons, List.mem_cons, List.mem_cons, ih, List.takeWhile_cons_of_pos (by simpa using same),
              List.length_cons, Nat.add_lt_add_iff_right, or_iff_right other, or_iff_right other]

/-- Without one name there is still enough in a beginning that is longer by one. -/
theorem take_filter_take (distinct : names.Nodup) :
    ((names.take (room + 1)).filter (· ≠ name)).take room = (names.filter (· ≠ name)).take room := by
  induction names generalizing room with
  | nil => rfl
  | cons first rest ih =>
      obtain ⟨isNew, restDistinct⟩ := List.nodup_cons.mp distinct
      rw [List.take_succ_cons]
      by_cases same : first = name
      -- The name stands here and nowhere else, so what is left needs no further name.
      · have stays : ∀ one ∈ rest, decide (one ≠ name) = true := by
          rintro one member
          simpa using fun isName : one = name => isNew (same ▸ isName ▸ member)
        rw [List.filter_cons_of_neg (by simpa using same), List.filter_cons_of_neg (by simpa using same),
          List.filter_eq_self.mpr stays,
          List.filter_eq_self.mpr fun one member => stays one (List.mem_of_mem_take member), List.take_take,
          Nat.min_self]
      · rw [List.filter_cons_of_pos (by simpa using same), List.filter_cons_of_pos (by simpa using same)]
        cases room with
        | zero => rfl
        | succ room => rw [List.take_succ_cons, List.take_succ_cons, ih restDistinct]

/-- **What is forgotten before a name comes to the front would be forgotten after it too.** -/
theorem take_toFront_take (distinct : names.Nodup) :
    (toFront name (names.take room)).take room = (toFront name names).take room := by
  cases room with
  | zero => rfl
  | succ room => rw [toFront, toFront, List.take_succ_cons, List.take_succ_cons, take_filter_take distinct]

/-- A name that is kept comes to the front without another one being forgotten. -/
theorem toFront_take_of_mem (distinct : names.Nodup) (member : name ∈ names.take room) :
    toFront name (names.take room) = (toFront name names).take room := by
  have shorter : ((names.take room).filter (· ≠ name)).length < (names.take room).length :=
    List.length_filter_lt_length_iff_exists.mpr ⟨name, member, by simp⟩
  have fits : (toFront name (names.take room)).length ≤ room :=
    Nat.le_trans (Nat.succ_le_of_lt shorter) (List.length_take_le _ _)
  rw [← take_toFront_take distinct, List.take_of_length_le fits]

end NoteDialogue.Recency
