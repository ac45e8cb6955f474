import NoteDialogue.Session.Store

/-!
# What the operations of the store do

The first use of an identifier appends a new session and every later use finds it again
(`place?_ensure`).  Taking the lock and giving it back leaves the store as it was
(`release_lock`).  Writing a session replaces the session of one identifier, which can then be read
back, and those of all other identifiers stay (`write_replaces`).

Whatever holds of all sessions, those included that are off the list but still in use, holds after each
operation as soon as it holds of the session that the operation brings in (`Holds`).
-/

set_option autoImplicit false

namespace NoteDialogue

/-- An identifier leads to a slot. -/
def SessionSlot.isAt (slot : SessionSlot) (id : String) : Bool :=
  slot.listed && slot.key == id

/-- The slot that the first use of an identifier makes. -/
def SessionSlot.fresh (id userId : String) : SessionSlot :=
  { key := id, session := Session.start id userId }

namespace SessionStore

variable {store : SessionStore} {id userId : String} {place : Nat} {slot : SessionSlot}

theorem place?_eq (store : SessionStore) (id : String) :
    store.place? id = store.slots.findIdx? (·.isAt id) := rfl

/-- The session of an identifier is that of the slot to which it leads. -/
theorem session?_eq (store : SessionStore) (id : String) :
    store.session? id =
      ((store.place? id).bind (fun place => store.slots[place]?)).map (·.session) := by
  rw [place?_eq, ← List.find?_eq_bind_findIdx?_getElem?]
  rfl

/-- An identifier leads to a slot that has it. -/
theorem slot_of_place? (leads : store.place? id = some place) :
    ∃ slot, store.slots[place]? = some slot ∧ slot.isAt id = true := by
  obtain ⟨inside, isAt, -⟩ := List.findIdx?_eq_some_iff_getElem.mp leads
  exact ⟨store.slots[place], List.getElem?_eq_getElem inside, isAt⟩

/-! ## The first use of an identifier -/

theorem ensure_of_some (leads : store.place? id = some place) : store.ensure id userId = store := by
  rw [ensure, leads]

theorem slots_ensure_of_none (new : store.place? id = none) :
    (store.ensure id userId).slots = store.slots ++ [.fresh id userId] := by
  rw [ensure, new]
  rfl

/-- After the first use an identifier leads to a slot: where it led before, or to a new one. -/
theorem place?_ensure (store : SessionStore) (id userId : String) :
    ∃ place slot, (store.ensure id userId).place? id = some place ∧
      (store.ensure id userId).slots[place]? = some slot ∧ slot.isAt id = true ∧
      (store.ensure id userId = store ∨
        (store.place? id = none ∧ slot = .fresh id userId)) := by
  cases leads : store.place? id with
  | some place =>
      obtain ⟨slot, there, isAt⟩ := slot_of_place? leads
      rw [ensure_of_some leads]
      exact ⟨place, slot, leads, there, isAt, .inl rfl⟩
  | none =>
      have here : (SessionSlot.fresh id userId).isAt id = true := by
        simp [SessionSlot.isAt, SessionSlot.fresh]
      have absent : store.slots.findIdx? (·.isAt id) = none := leads
      refine ⟨store.slots.length, .fresh id userId, ?_, ?_, here, .inr ⟨rfl, rfl⟩⟩
      · rw [place?_eq, slots_ensure_of_none leads, List.findIdx?_append, absent]
        simp [here]
      · rw [slots_ensure_of_none leads]
        simp

/-- The first use of an identifier does not change where the others lead. -/
theorem session?_ensure_of_ne {other : String} (different : other ≠ id) :
    (store.ensure id userId).session? other = store.session? other := by
  cases leads : store.place? id with
  | some place => rw [ensure_of_some leads]
  | none =>
      have elsewhere : (SessionSlot.fresh id userId).isAt other = false := by
        simp [SessionSlot.isAt, SessionSlot.fresh, different.symm]
      have same : (store.slots ++ [SessionSlot.fresh id userId]).find? (·.isAt other) =
          store.slots.find? (·.isAt other) := by
        simp [List.find?_append, elsewhere]
      rw [session?, slots_ensure_of_none leads]
      exact congrArg (Option.map (·.session)) same

/-! ## Changing a slot -/

/-- A change of a slot that concerns neither its identifier nor whether it is listed. -/
def KeepsPlace (change : SessionSlot → SessionSlot) : Prop :=
  ∀ slot : SessionSlot, (change slot).key = slot.key ∧ (change slot).listed = slot.listed

theorem KeepsPlace.isAt {change : SessionSlot → SessionSlot} (keeps : KeepsPlace change)
    (slot : SessionSlot) (id : String) : (change slot).isAt id = slot.isAt id := by
  rw [SessionSlot.isAt, SessionSlot.isAt, (keeps slot).1, (keeps slot).2]

/-- A slot that was changed in its place is found where it was. -/
theorem findIdx?_modify {change : SessionSlot → SessionSlot} (keeps : KeepsPlace change)
    (slots : List SessionSlot) (place : Nat) (id : String) :
    (slots.modify place change).findIdx? (·.isAt id) = slots.findIdx? (·.isAt id) := by
  induction slots generalizing place with
  | nil => rw [List.modify_nil]
  | cons first rest ih =>
      cases place with
      | zero => rw [List.modify_zero_cons, List.findIdx?_cons, List.findIdx?_cons, keeps.isAt]
      | succ place => rw [List.modify_succ_cons, List.findIdx?_cons, List.findIdx?_cons, ih]

theorem place?_modifySlot {change : SessionSlot → SessionSlot} (keeps : KeepsPlace change)
    (store : SessionStore) (place : Nat) (id : String) :
    (store.modifySlot place change).place? id = store.place? id :=
  findIdx?_modify keeps store.slots place id

/-- A change of the slot of one identifier does not concern the sessions of the others. -/
theorem session?_modifySlot_of_ne {change : SessionSlot → SessionSlot} (keeps : KeepsPlace change)
    (there : store.slots[place]? = some slot) (isAt : slot.isAt id = true) {other : String}
    (different : other ≠ id) :
    (store.modifySlot place change).session? other = store.session? other := by
  rw [session?_eq, session?_eq, place?_modifySlot keeps]
  cases leads : store.place? other with
  | none => rfl
  | some otherPlace =>
      obtain ⟨otherSlot, otherThere, otherIsAt⟩ := slot_of_place? leads
      have apart : place ≠ otherPlace := by
        rintro rfl
        rw [there] at otherThere
        cases otherThere
        simp only [SessionSlot.isAt, Bool.and_eq_true, beq_iff_eq] at isAt otherIsAt
        exact different (otherIsAt.2.symm.trans isAt.2)
      simp only [modifySlot, Option.bind_some, List.getElem?_modify_ne _ _ apart]

theorem session?_write {session : Session} (leads : store.place? id = some place)
    (there : store.slots[place]? = some slot) :
    (store.write ⟨place⟩ session).session? id = some session := by
  have keeps : KeepsPlace (fun slot => { slot with session }) := fun _ => ⟨rfl, rfl⟩
  rw [session?_eq, write, place?_modifySlot keeps, leads]
  simp [modifySlot, there]

/-- Taking a free lock and giving it back leaves the store as it was. -/
theorem release_lock (there : store.slots[place]? = some slot) (free : slot.held = false) :
    (store.modifySlot place (fun slot => { slot with held := true })).release ⟨place⟩ = store := by
  have same : store.slots.modify place (fun slot => { slot with held := false }) = store.slots := by
    apply List.ext_getElem?
    intro index
    by_cases here : place = index
    · subst here
      rw [List.getElem?_modify_eq, there, ← free]
      rfl
    · rw [List.getElem?_modify_ne _ _ here]
  rw [release, modifySlot, modifySlot, List.modify_modify_eq]
  exact congrArg SessionStore.mk same

/-- So does writing in between, but for what was written. -/
theorem release_write_lock {session : Session} (there : store.slots[place]? = some slot)
    (free : slot.held = false) :
    ((store.modifySlot place (fun slot => { slot with held := true })).write ⟨place⟩
      session).release ⟨place⟩ = store.write ⟨place⟩ session := by
  have written : (store.write ⟨place⟩ session).slots[place]? = some { slot with session } := by
    simp [write, modifySlot, there]
  rw [← release_lock written free]
  simp only [write, modifySlot, List.modify_modify_eq]
  rfl

/-! ## What happens to the sessions -/

/-- Exactly the session of an identifier was replaced, or made, and is now this one.  Every slot but
that of the identifier is as it was. -/
structure Replaced (store : SessionStore) (id userId : String) (session : Session)
    (after : SessionStore) : Prop where
  there : after.session? id = some session
  others : ∀ other, other ≠ id → after.session? other = store.session? other
  slots : ∃ place slot, (store.ensure id userId).slots[place]? = some slot ∧ slot.isAt id = true ∧
    after = (store.ensure id userId).write ⟨place⟩ session

/-- Nothing happened, or an identifier that led nowhere leads to a new session now. -/
def AtMostStarted (store : SessionStore) (id userId : String) (after : SessionStore) : Prop :=
  after = store ∨ (store.session? id = none ∧ after.slots = store.slots ++ [.fresh id userId])

/-- **Writing the session of an identifier replaces exactly that session.** -/
theorem write_replaces (leads : (store.ensure id userId).place? id = some place)
    (there : (store.ensure id userId).slots[place]? = some slot) (isAt : slot.isAt id = true)
    (session : Session) :
    store.Replaced id userId session ((store.ensure id userId).write ⟨place⟩ session) where
  there := session?_write leads there
  others := fun other different => by
    have keeps : KeepsPlace (fun slot => { slot with session }) := fun _ => ⟨rfl, rfl⟩
    rw [write, session?_modifySlot_of_ne keeps there isAt different, session?_ensure_of_ne different]
  slots := ⟨place, slot, there, isAt, rfl⟩

theorem atMostStarted_ensure (store : SessionStore) (id userId : String) :
    store.AtMostStarted id userId (store.ensure id userId) := by
  cases leads : store.place? id with
  | some place => exact .inl (ensure_of_some leads)
  | none => exact .inr ⟨by rw [session?_eq, leads]; rfl, slots_ensure_of_none leads⟩

/-! ## What holds of all sessions -/

/-- All sessions, listed or not, have a property. -/
def Holds (store : SessionStore) (property : Session → Prop) : Prop :=
  ∀ slot ∈ store.slots, property slot.session

variable {property : Session → Prop}

theorem holds_empty : SessionStore.Holds {} property :=
  fun _ member => absurd member List.not_mem_nil

theorem Holds.ensure (holds : store.Holds property) (new : property (Session.start id userId)) :
    (store.ensure id userId).Holds property := by
  cases leads : store.place? id with
  | some place =>
      rw [ensure_of_some leads]
      exact holds
  | none =>
      intro slot member
      rw [slots_ensure_of_none leads] at member
      rcases List.mem_append.mp member with old | added
      · exact holds slot old
      · rw [List.mem_singleton.mp added]
        exact new

theorem Holds.modifySlot (holds : store.Holds property) {change : SessionSlot → SessionSlot}
    (changed : ∀ slot : SessionSlot, property slot.session → property (change slot).session) :
    (store.modifySlot place change).Holds property := by
  intro slot member
  obtain ⟨index, inside⟩ := List.mem_iff_getElem?.mp member
  rw [SessionStore.modifySlot] at inside
  by_cases here : place = index
  · subst here
    rw [List.getElem?_modify_eq] at inside
    obtain ⟨before, there, rfl⟩ := Option.map_eq_some_iff.mp inside
    exact changed before (holds before (List.mem_of_getElem? there))
  · rw [List.getElem?_modify_ne _ _ here] at inside
    exact holds slot (List.mem_of_getElem? inside)

theorem Holds.write (holds : store.Holds property) {session : Session} (new : property session) :
    (store.write ⟨place⟩ session).Holds property :=
  holds.modifySlot fun _ _ => new

/-- Forgetting a session does not bring one in. -/
theorem Holds.delete (holds : store.Holds property) (id : String) :
    (store.delete id).2.Holds property := by
  unfold SessionStore.delete
  cases store.place? id with
  | none => exact holds
  | some place => exact holds.modifySlot fun _ old => old

end SessionStore

end NoteDialogue
