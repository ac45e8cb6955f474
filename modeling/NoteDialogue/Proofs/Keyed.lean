import Mathlib.Data.Finset.Card
import Mathlib.Data.List.Induction
import Mathlib.Data.List.Nodup

/-!
# Lists with one entry for each key

An entry is put into a list in the place of the one that has its key, or else at the end.  A list that is filled in
this way stands for a map.  It has the keys of all entries, each once and in the order in which they first came
(`Keyed.map_putAll`), and under each key the entry that came last (`Keyed.find?_putAll`).  This says all about it
(`Keyed.putAll_eq`).
-/

set_option autoImplicit false

namespace NoteDialogue.Keyed

variable {α κ : Type} [DecidableEq κ] (key : α → κ)

/-- The list with an entry put in: in the place of the one with its key, or at the end. -/
def put (entry : α) : List α → List α
  | [] => [entry]
  | first :: rest => if key first = key entry then entry :: rest else first :: put entry rest

/-- The list that is filled with some entries, one after the other. -/
def putAll (entries : List α) : List α :=
  entries.foldl (fun kept entry => put key entry kept) []

/-- The last of the entries with a key. -/
def latest? (entries : List α) (wanted : κ) : Option α :=
  entries.findRev? fun entry => key entry == wanted

variable {key} {entry : α} {entries kept : List α} {wanted : κ}

theorem putAll_concat (entries : List α) (entry : α) :
    putAll key (entries ++ [entry]) = put key entry (putAll key entries) :=
  List.foldl_concat _ _ _ _

theorem latest?_concat (entries : List α) (entry : α) (wanted : κ) :
    latest? key (entries ++ [entry]) wanted = if key entry = wanted then some entry else latest? key entries wanted := by
  rw [latest?, latest?, List.findRev?_eq_find?_reverse, List.findRev?_eq_find?_reverse, List.reverse_concat]
  by_cases same : key entry = wanted
  · rw [List.find?_cons_of_pos (by simpa using same), if_pos same]
  · rw [List.find?_cons_of_neg (by simpa using same), if_neg same]

/-- The last entry with a key has it, and no later one does. -/
theorem latest?_eq_some_iff :
    latest? key entries wanted = some entry ↔
      key entry = wanted ∧ ∃ before after, entries = before ++ entry :: after ∧ ∀ later ∈ after, key later ≠ wanted := by
  rw [latest?, List.findRev?_eq_find?_reverse, List.find?_eq_some_iff_append, beq_iff_eq]
  refine and_congr_right fun _ => ⟨?_, ?_⟩
  · rintro ⟨after, before, split, none⟩
    refine ⟨before.reverse, after.reverse, ?_, by simpa using none⟩
    rw [← List.reverse_reverse entries, split]
    simp
  · rintro ⟨before, after, rfl, none⟩
    exact ⟨after.reverse, before.reverse, by simp, by simpa using none⟩

theorem latest?_isSome_iff : (latest? key entries wanted).isSome ↔ wanted ∈ entries.map key := by
  rw [latest?, List.findRev?_eq_find?_reverse, List.find?_isSome, List.mem_map]
  simp only [List.mem_reverse, beq_iff_eq]

theorem latest?_map {β : Type} (f : β → α) (entries : List β) (wanted : κ) :
    latest? key (entries.map f) wanted = (latest? (fun entry => key (f entry)) entries wanted).map f := by
  rw [latest?, latest?, List.findRev?_eq_find?_reverse, List.findRev?_eq_find?_reverse, ← List.map_reverse,
    List.find?_map]
  rfl

/-! ## What one entry changes -/

/-- A key that is there stays in its place, and a new one comes last. -/
theorem map_put (entry : α) (kept : List α) :
    (put key entry kept).map key = if key entry ∈ kept.map key then kept.map key else kept.map key ++ [key entry] := by
  induction kept with
  | nil => rfl
  | cons first rest ih =>
      by_cases same : key first = key entry
      · rw [put, if_pos same, if_pos (by simp [same]), List.map_cons, List.map_cons, same]
      · have elsewhere : key entry ∈ (first :: rest).map key ↔ key entry ∈ rest.map key := by
          rw [List.map_cons, List.mem_cons, or_iff_right (Ne.symm same)]
        rw [put, if_neg same, List.map_cons, ih]
        simp only [elsewhere]
        split
        · rfl
        · rfl

/-- Keys that come once still do. -/
theorem nodup_put (entry : α) (distinct : (kept.map key).Nodup) : ((put key entry kept).map key).Nodup := by
  rw [map_put]
  split
  case isTrue => exact distinct
  case isFalse new => exact List.concat_eq_append ▸ distinct.concat new

theorem mem_put {other : α} (member : other ∈ put key entry kept) : other = entry ∨ other ∈ kept := by
  induction kept with
  | nil => exact .inl (List.mem_singleton.mp member)
  | cons first rest ih =>
      rw [put] at member
      split at member
      case isTrue => exact (List.mem_cons.mp member).imp_right (List.mem_cons_of_mem _)
      case isFalse =>
        rcases List.mem_cons.mp member with here | there
        · exact .inr (here ▸ List.mem_cons_self)
        · exact (ih there).imp_right (List.mem_cons_of_mem _)

/-- Under its key the entry is found, and under the others what was found before. -/
theorem find?_put (entry : α) (kept : List α) (wanted : κ) :
    (put key entry kept).find? (fun other => key other == wanted) =
      if key entry = wanted then some entry else kept.find? fun other => key other == wanted := by
  induction kept with
  | nil => by_cases same : key entry = wanted <;> simp [put, same]
  | cons first rest ih =>
      by_cases taken : key first = key entry
      · by_cases same : key entry = wanted <;> simp [put, taken, same]
      · rw [put, if_neg taken]
        by_cases here : key first = wanted
        · have other : key entry ≠ wanted := fun same => taken (here.trans same.symm)
          rw [List.find?_cons_of_pos (by simpa using here), List.find?_cons_of_pos (by simpa using here), if_neg other]
        · rw [List.find?_cons_of_neg (by simpa using here), List.find?_cons_of_neg (by simpa using here), ih]

/-! ## A list that was filled -/

/-- Each key comes once. -/
theorem nodup_putAll (entries : List α) : ((putAll key entries).map key).Nodup := by
  induction entries using List.reverseRecOn with
  | nil => exact List.nodup_nil
  | append_singleton entries entry ih =>
      rw [putAll_concat]
      exact nodup_put entry ih

theorem eraseDups_concat (keys : List κ) (last : κ) :
    (keys ++ [last]).eraseDups = if last ∈ keys then keys.eraseDups else keys.eraseDups ++ [last] := by
  rw [List.eraseDups_append]
  by_cases there : last ∈ keys
  · simp [List.removeAll, there]
  · simp [List.removeAll, there, List.eraseDups_cons]

/-- **The keys stand in the order in which they first came.** -/
theorem map_putAll (entries : List α) : (putAll key entries).map key = (entries.map key).eraseDups := by
  induction entries using List.reverseRecOn with
  | nil => rfl
  | append_singleton entries entry ih =>
      rw [putAll_concat, map_put, ih, List.map_append, List.map_singleton, eraseDups_concat]
      simp only [List.mem_eraseDups]

/-- **Under each key the entry is found that came last.** -/
theorem find?_putAll (entries : List α) (wanted : κ) :
    (putAll key entries).find? (fun entry => key entry == wanted) = latest? key entries wanted := by
  induction entries using List.reverseRecOn with
  | nil => rfl
  | append_singleton entries entry ih => rw [putAll_concat, find?_put, latest?_concat, ih]

/-- Where no two entries have the same key, each is found under its own. -/
theorem find?_eq_some_iff (distinct : (kept.map key).Nodup) :
    kept.find? (fun other => key other == wanted) = some entry ↔ entry ∈ kept ∧ key entry = wanted := by
  constructor
  · intro found
    exact ⟨List.mem_of_find?_eq_some found, by simpa using List.find?_some found⟩
  · rintro ⟨member, rfl⟩
    cases found : kept.find? fun other => key other == key entry with
    | none => exact absurd (beq_self_eq_true _) (List.find?_eq_none.mp found entry member)
    | some other =>
        have sameKey : key other = key entry := by simpa using List.find?_some found
        rw [List.inj_on_of_nodup_map distinct (List.mem_of_find?_eq_some found) member sameKey]

/-- Where no two entries have the same key, each is the last one with its own. -/
theorem latest?_eq_some_iff_mem (distinct : (entries.map key).Nodup) :
    latest? key entries wanted = some entry ↔ entry ∈ entries ∧ key entry = wanted := by
  have reversed : (entries.reverse.map key).Nodup := by rwa [List.map_reverse, List.nodup_reverse]
  rw [latest?, List.findRev?_eq_find?_reverse, find?_eq_some_iff reversed, List.mem_reverse]

theorem mem_putAll_iff : entry ∈ putAll key entries ↔ latest? key entries (key entry) = some entry := by
  rw [← find?_putAll, find?_eq_some_iff (nodup_putAll entries)]
  exact (and_iff_left rfl).symm

/-- **The list is what came last under each key**, and nothing else of its history. -/
theorem putAll_eq (entries : List α) :
    putAll key entries = (entries.map key).eraseDups.filterMap (latest? key entries) := by
  have found : ∀ entry ∈ putAll key entries, (latest? key entries ∘ key) entry = some entry :=
    fun _ => mem_putAll_iff.mp
  rw [← map_putAll, List.filterMap_map, List.filterMap_congr found, List.filterMap_some]

/-- There are as many entries as there are different keys. -/
theorem length_putAll (entries : List α) : (putAll key entries).length = (entries.map key).toFinset.card := by
  have same : ((putAll key entries).map key).toFinset = (entries.map key).toFinset := by
    ext wanted
    rw [map_putAll, List.mem_toFinset, List.mem_toFinset, List.mem_eraseDups]
  rw [← same, List.toFinset_card_of_nodup (nodup_putAll entries), List.length_map]

end NoteDialogue.Keyed
