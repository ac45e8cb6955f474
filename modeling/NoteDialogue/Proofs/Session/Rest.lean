import NoteDialogue.Proofs.Session.Store

/-!
# Stores at rest

Between two calls nobody has a lock, and no identifier leads to two slots (`SessionStore.AtRest`).  In such
a store the first use of an identifier, writing a session and forgetting one concern nothing but the
session of that identifier, and the store is at rest again.
-/

set_option autoImplicit false

namespace NoteDialogue

namespace SessionStore

variable {store : SessionStore} {id other userId : String} {place : Nat} {slot : SessionSlot}

/-- A slot that is listed under an identifier is the one to which it leads. -/
def Single (store : SessionStore) : Prop :=
  ∀ (place : Nat) (slot : SessionSlot) (id : String), store.slots[place]? = some slot →
    slot.isAt id = true → store.place? id = some place

/-- Nobody has a lock, and a slot that is listed under an identifier is the one to which it leads. -/
structure AtRest (store : SessionStore) : Prop where
  free : ∀ slot ∈ store.slots, slot.held = false
  single : ∀ (place : Nat) (slot : SessionSlot) (id : String), store.slots[place]? = some slot →
    slot.isAt id = true → store.place? id = some place

theorem single_empty : SessionStore.Single {} :=
  fun _ _ _ there => by simp at there

theorem atRest_empty : SessionStore.AtRest {} where
  free := fun _ member => absurd member List.not_mem_nil
  single := single_empty

/-- The session of a slot is the one under its identifier. -/
theorem AtRest.session?_of_mem (rest : store.AtRest) (there : slot ∈ store.slots)
    (isAt : slot.isAt id = true) : store.session? id = some slot.session := by
  obtain ⟨place, isThere⟩ := List.mem_iff_getElem?.mp there
  rw [session?_eq, rest.single place slot id isThere isAt]
  simp [isThere]

/-! ## The first use of an identifier -/

/-- After the first use an identifier leads to the session that was there, or to a new one. -/
theorem session?_ensure (store : SessionStore) (id userId : String) :
    (store.ensure id userId).session? id =
      some ((store.session? id).getD (Session.start id userId)) := by
  obtain ⟨place, slot, leads, there, -, same | ⟨new, rfl⟩⟩ := place?_ensure store id userId
  · rw [same] at leads there ⊢
    simp [session?_eq, leads, there]
  · rw [session?_eq, session?_eq, leads, new]
    simp [there, SessionSlot.fresh]

theorem Single.ensure (single : store.Single) (id userId : String) :
    (store.ensure id userId).Single := by
  cases new : store.place? id with
  | some place =>
      rw [ensure_of_some new]
      exact single
  | none =>
      intro place slot listed there isAt
      rw [slots_ensure_of_none new, List.getElem?_append] at there
      rw [place?_eq, slots_ensure_of_none new, List.findIdx?_append]
      by_cases old : place < store.slots.length
      · rw [if_pos old] at there
        have led := single place slot listed there isAt
        rw [place?_eq] at led
        rw [led]
        rfl
      · rw [if_neg old] at there
        obtain ⟨rfl⟩ : slot = .fresh id userId := by
          simpa using List.mem_of_getElem? there
        have sameId : id = listed := by simpa [SessionSlot.isAt, SessionSlot.fresh] using isAt
        subst sameId
        have atEnd : place - store.slots.length = 0 := by
          have inside := (List.getElem?_eq_some_iff.mp there).1
          simp only [List.length_singleton] at inside
          omega
        rw [place?_eq] at new
        rw [new]
        simp [isAt]
        omega

theorem AtRest.ensure (rest : store.AtRest) (id userId : String) :
    (store.ensure id userId).AtRest := by
  refine ⟨fun slot member => ?_, Single.ensure rest.single id userId⟩
  cases new : store.place? id with
  | some place =>
      rw [ensure_of_some new] at member
      exact rest.free slot member
  | none =>
      rw [slots_ensure_of_none new] at member
      rcases List.mem_append.mp member with old | added
      · exact rest.free slot old
      · rw [List.mem_singleton.mp added]
        rfl

/-! ## Changing a slot -/

theorem Single.modifySlot {change : SessionSlot → SessionSlot} (keeps : KeepsPlace change)
    (single : store.Single) (place : Nat) : (store.modifySlot place change).Single := by
  intro here slot id there isAt
  rw [place?_modifySlot keeps]
  rw [SessionStore.modifySlot, List.getElem?_modify] at there
  obtain ⟨before, was, rfl⟩ := Option.map_eq_some_iff.mp there
  refine single here before id was ?_
  split at isAt
  · exact (keeps.isAt before id).symm.trans isAt
  · exact isAt

theorem AtRest.write (rest : store.AtRest) (guard : SessionGuard) (session : Session) :
    (store.write guard session).AtRest := by
  have keeps : KeepsPlace (fun slot => { slot with session }) := fun _ => ⟨rfl, rfl⟩
  refine ⟨fun slot member => ?_, Single.modifySlot keeps rest.single guard.place⟩
  obtain ⟨place, there⟩ := List.mem_iff_getElem?.mp member
  rw [SessionStore.write, SessionStore.modifySlot, List.getElem?_modify] at there
  obtain ⟨before, was, rfl⟩ := Option.map_eq_some_iff.mp there
  have wasFree := rest.free before (List.mem_of_getElem? was)
  split <;> exact wasFree

/-- A change of a slot that is of no kind, before and after, does not change where the first slot of that
kind is. -/
theorem findIdx?_modify_elsewhere {kind : SessionSlot → Bool} {change : SessionSlot → SessionSlot}
    {slots : List SessionSlot} (there : slots[place]? = some slot) (before : kind slot = false)
    (after : kind (change slot) = false) :
    (slots.modify place change).findIdx? kind = slots.findIdx? kind := by
  induction slots generalizing place with
  | nil => rw [List.modify_nil]
  | cons first rest ih =>
      cases place with
      | zero =>
          cases there
          rw [List.modify_zero_cons, List.findIdx?_cons, List.findIdx?_cons, before, after]
      | succ place => rw [List.modify_succ_cons, List.findIdx?_cons, List.findIdx?_cons, ih there]

/-! ## Forgetting a session -/

theorem delete_of_none (leads : store.place? id = none) : store.delete id = (false, store) := by
  rw [SessionStore.delete, leads]

theorem delete_of_some (leads : store.place? id = some place) :
    store.delete id =
      (true, store.modifySlot place (fun slot => { slot with listed := false })) := by
  rw [SessionStore.delete, leads]

/-- Whether there was a session to forget. -/
theorem delete_fst (store : SessionStore) (id : String) :
    (store.delete id).1 = (store.session? id).isSome := by
  cases leads : store.place? id with
  | none => rw [delete_of_none leads, session?_eq, leads]; rfl
  | some place =>
      obtain ⟨slot, there, -⟩ := slot_of_place? leads
      rw [delete_of_some leads, session?_eq, leads]
      simp [there]

theorem isAt_unlisted (slot : SessionSlot) (id : String) :
    SessionSlot.isAt { slot with listed := false } id = false := rfl

/-- Where the slots are that are still listed. -/
theorem listed_of_unlist {here : Nat} {found : SessionSlot}
    (there : (store.modifySlot place (fun slot => { slot with listed := false })).slots[here]? =
      some found)
    (isAt : found.isAt id = true) : here ≠ place ∧ store.slots[here]? = some found := by
  rw [modifySlot, List.getElem?_modify] at there
  obtain ⟨before, was, same⟩ := Option.map_eq_some_iff.mp there
  by_cases unlisted : place = here
  · rw [if_pos unlisted] at same
    subst same
    cases isAt
  · rw [if_neg unlisted] at same
    subst same
    exact ⟨Ne.symm unlisted, was⟩

theorem Single.delete (single : store.Single) (id : String) : (store.delete id).2.Single := by
  cases leads : store.place? id with
  | none =>
      rw [delete_of_none leads]
      exact single
  | some place =>
      obtain ⟨slot, slotThere, slotIsAt⟩ := slot_of_place? leads
      rw [delete_of_some leads]
      intro here found listed there isAt
      obtain ⟨apart, was⟩ := listed_of_unlist there isAt
      have led := single here found listed was isAt
      have elsewhere : slot.isAt listed = false := by
        refine Bool.eq_false_iff.mpr fun both => apart ?_
        have same := single place slot listed slotThere both
        exact Option.some.inj (led.symm.trans same)
      rw [place?_eq, SessionStore.modifySlot,
        findIdx?_modify_elsewhere slotThere elsewhere (isAt_unlisted _ _)]
      exact led

theorem AtRest.delete (rest : store.AtRest) (id : String) : (store.delete id).2.AtRest := by
  refine ⟨fun found member => ?_, Single.delete rest.single id⟩
  cases leads : store.place? id with
  | none =>
      rw [delete_of_none leads] at member
      exact rest.free found member
  | some place =>
      rw [delete_of_some leads] at member
      obtain ⟨here, there⟩ := List.mem_iff_getElem?.mp member
      rw [SessionStore.modifySlot, List.getElem?_modify] at there
      obtain ⟨before, was, rfl⟩ := Option.map_eq_some_iff.mp there
      have wasFree := rest.free before (List.mem_of_getElem? was)
      split <;> exact wasFree

/-- A session that was forgotten is not there any more. -/
theorem Single.session?_delete (single : store.Single) (id : String) :
    (store.delete id).2.session? id = none := by
  cases leads : store.place? id with
  | none => rw [delete_of_none leads, session?_eq, leads]; rfl
  | some place =>
      rw [delete_of_some leads, session?_eq]
      cases still : (store.modifySlot place (fun slot => { slot with listed := false })).place? id with
      | none => rfl
      | some here =>
          obtain ⟨found, there, isAt⟩ := slot_of_place? still
          obtain ⟨apart, was⟩ := listed_of_unlist there isAt
          have led := single here found id was isAt
          exact absurd (Option.some.inj (led.symm.trans leads)) apart

theorem AtRest.session?_delete (rest : store.AtRest) (id : String) :
    (store.delete id).2.session? id = none :=
  Single.session?_delete rest.single id

/-- The other sessions stay when one is forgotten. -/
theorem session?_delete_of_ne (different : other ≠ id) :
    (store.delete id).2.session? other = store.session? other := by
  cases leads : store.place? id with
  | none => rw [delete_of_none leads]
  | some place =>
      obtain ⟨slot, slotThere, slotIsAt⟩ := slot_of_place? leads
      have elsewhere : slot.isAt other = false := by
        simp only [SessionSlot.isAt, Bool.and_eq_true, beq_iff_eq] at slotIsAt
        simp [SessionSlot.isAt, slotIsAt.2, different.symm]
      rw [delete_of_some leads, session?_eq, session?_eq]
      have samePlace : (store.modifySlot place (fun slot => { slot with listed := false })).place?
          other = store.place? other :=
        findIdx?_modify_elsewhere slotThere elsewhere (isAt_unlisted _ _)
      rw [samePlace]
      cases otherLeads : store.place? other with
      | none => rfl
      | some otherPlace =>
          obtain ⟨otherSlot, otherThere, otherIsAt⟩ := slot_of_place? otherLeads
          have apart : place ≠ otherPlace := by
            rintro rfl
            rw [slotThere] at otherThere
            cases otherThere
            rw [elsewhere] at otherIsAt
            cases otherIsAt
          simp only [modifySlot, Option.bind_some, List.getElem?_modify_ne _ _ apart]

end SessionStore

end NoteDialogue
