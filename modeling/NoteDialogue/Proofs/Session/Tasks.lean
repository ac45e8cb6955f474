import Mathlib.Logic.Function.Basic
import Mathlib.Logic.Relation
import NoteDialogue.Proofs.Conversation
import NoteDialogue.Proofs.Session.Rest

/-!
# Tasks that share the sessions

Many tasks use one store of sessions at the same time, to enter a session as a user or to look at one.
Neither is done in one step.  A task is led to the slot under an identifier, waits for the lock of that slot
and sees only under the lock whose session it is; then it works there, or gives the lock back.  Between any
two of these steps other tasks may act, and sessions may be forgotten (`SharedSessions.Act`,
`SharedSessions.Reachable`).  Taking the lock of a session at a stroke is the same steps without an
interruption (`SharedSessions.acquire_acts`).

The lock of a slot is one task's at a time, and an identifier leads to one slot at a time.  So a session
that is still listed has one task in it at most, and whoever comes for it then waits.  A session that is
forgotten while a task uses it stays with this task, though, and its identifier leads to a new slot: then
two tasks may be in sessions of one identifier.  It takes no less than that
(`SharedSessions.locks_exclude_unless_forgotten`).
-/

set_option autoImplicit false

namespace NoteDialogue

namespace SessionStore

variable {store : SessionStore} {id userId : String} {place here : Nat} {slot : SessionSlot}

theorem listed_of_place? (leads : store.place? id = some place) :
    ∃ slot, store.slots[place]? = some slot ∧ slot.listed = true := by
  obtain ⟨slot, there, isAt⟩ := slot_of_place? leads
  exact ⟨slot, there, (Bool.and_eq_true_iff.mp isAt).1⟩

/-! ## Which slots are locked -/

/-- Take the lock of a slot. -/
def lock (store : SessionStore) (guard : SessionGuard) : SessionStore :=
  store.modifySlot guard.place (fun slot => { slot with held := true })

/-- Whether the slot at a place is locked. -/
def isLocked (store : SessionStore) (place : Nat) : Bool :=
  (store.slots[place]?).any (·.held)

theorem isLocked_of_getElem? (there : store.slots[place]? = some slot) :
    store.isLocked place = slot.held := by
  rw [isLocked, there, Option.any_some]

theorem isLocked_modifySlot {change : SessionSlot → SessionSlot}
    (keeps : ∀ slot : SessionSlot, (change slot).held = slot.held) (place here : Nat) :
    (store.modifySlot place change).isLocked here = store.isLocked here := by
  rw [isLocked, isLocked, modifySlot, List.getElem?_modify]
  cases store.slots[here]? with
  | none => rfl
  | some slot =>
      by_cases same : place = here <;> simp [same, keeps slot]

theorem isLocked_write (store : SessionStore) (guard : SessionGuard) (session : Session)
    (here : Nat) : (store.write guard session).isLocked here = store.isLocked here := by
  have keeps : ∀ slot : SessionSlot, ({ slot with session } : SessionSlot).held = slot.held :=
    fun _ => rfl
  exact isLocked_modifySlot keeps guard.place here

/-- Setting the lock of one slot leaves all others as they are. -/
theorem isLocked_setLock {locked : Bool} (there : place < store.slots.length) (here : Nat) :
    (store.modifySlot place (fun slot => { slot with held := locked })).isLocked here =
      if place = here then locked else store.isLocked here := by
  rw [isLocked, isLocked, modifySlot, List.getElem?_modify]
  by_cases same : place = here
  · subst same
    simp [List.getElem?_eq_getElem there]
  · simp [same]

/-- The slot that the first use of an identifier makes is free. -/
theorem isLocked_ensure (store : SessionStore) (id userId : String) (here : Nat) :
    (store.ensure id userId).isLocked here = store.isLocked here := by
  cases leads : store.place? id with
  | some place => rw [ensure_of_some leads]
  | none =>
      rw [isLocked, isLocked, slots_ensure_of_none leads, List.getElem?_append]
      by_cases old : here < store.slots.length
      · rw [if_pos old]
      · have beyond : store.slots[here]? = none := List.getElem?_eq_none (Nat.le_of_not_lt old)
        rw [if_neg old, beyond]
        cases here - store.slots.length <;> rfl

/-- Forgetting a session takes nobody's lock away. -/
theorem isLocked_delete (store : SessionStore) (id : String) (here : Nat) :
    (store.delete id).2.isLocked here = store.isLocked here := by
  have keeps : ∀ slot : SessionSlot, ({ slot with listed := false } : SessionSlot).held = slot.held :=
    fun _ => rfl
  cases leads : store.place? id with
  | none => rw [delete_of_none leads]
  | some place =>
      rw [delete_of_some leads]
      exact isLocked_modifySlot keeps place here

/-- The store in which nobody has a lock: all of a store but the locks. -/
def unlocked (store : SessionStore) : SessionStore :=
  { slots := store.slots.map (fun slot => { slot with held := false }) }

theorem unlocked_setLock (store : SessionStore) (place : Nat) (locked : Bool) :
    (store.modifySlot place (fun slot => { slot with held := locked })).unlocked =
      store.unlocked := by
  refine congrArg SessionStore.mk (List.ext_getElem? fun here => ?_)
  rw [List.getElem?_map, List.getElem?_map, modifySlot, List.getElem?_modify]
  cases store.slots[here]? with
  | none => rfl
  | some slot => by_cases same : place = here <;> simp [same]

/-! ## Stores that grow -/

/-- No slot goes away, and each is still that of its identifier and listed if it was. -/
def Extends (store after : SessionStore) : Prop :=
  ∀ (place : Nat) (slot : SessionSlot), store.slots[place]? = some slot →
    ∃ later, after.slots[place]? = some later ∧ later.key = slot.key ∧ later.listed = slot.listed

theorem Extends.exists_slot {after : SessionStore} (extended : store.Extends after)
    (there : ∃ slot, store.slots[place]? = some slot) : ∃ slot, after.slots[place]? = some slot := by
  obtain ⟨slot, was⟩ := there
  obtain ⟨later, still, -⟩ := extended place slot was
  exact ⟨later, still⟩

theorem extends_refl (store : SessionStore) : store.Extends store :=
  fun _ slot there => ⟨slot, there, rfl, rfl⟩

theorem extends_ensure (store : SessionStore) (id userId : String) :
    store.Extends (store.ensure id userId) := by
  cases leads : store.place? id with
  | some place =>
      rw [ensure_of_some leads]
      exact extends_refl store
  | none =>
      intro place slot there
      refine ⟨slot, ?_, rfl, rfl⟩
      rw [slots_ensure_of_none leads, List.getElem?_append_left (List.getElem?_eq_some_iff.mp there).1]
      exact there

theorem extends_modifySlot {change : SessionSlot → SessionSlot} (keeps : KeepsPlace change)
    (store : SessionStore) (place : Nat) : store.Extends (store.modifySlot place change) := by
  intro here slot there
  rw [modifySlot, List.getElem?_modify, there]
  by_cases same : place = here
  · exact ⟨change slot, by simp [same], keeps slot⟩
  · exact ⟨slot, by simp [same], rfl, rfl⟩

theorem keepsPlace_hold (locked : Bool) : KeepsPlace (fun slot => { slot with held := locked }) :=
  fun _ => ⟨rfl, rfl⟩

theorem keepsPlace_write (session : Session) : KeepsPlace (fun slot => { slot with session }) :=
  fun _ => ⟨rfl, rfl⟩

theorem extends_lock (store : SessionStore) (guard : SessionGuard) :
    store.Extends (store.lock guard) :=
  extends_modifySlot (keepsPlace_hold true) store guard.place

theorem extends_release (store : SessionStore) (guard : SessionGuard) :
    store.Extends (store.release guard) :=
  extends_modifySlot (keepsPlace_hold false) store guard.place

theorem extends_write (store : SessionStore) (guard : SessionGuard) (session : Session) :
    store.Extends (store.write guard session) :=
  extends_modifySlot (keepsPlace_write session) store guard.place

/-- A session that is forgotten leaves its slot where it is. -/
theorem slot_delete (there : store.slots[here]? = some slot) (id : String) :
    ∃ later, (store.delete id).2.slots[here]? = some later ∧ later.key = slot.key ∧
      (slot.key ≠ id → later.listed = slot.listed) := by
  cases leads : store.place? id with
  | none =>
      rw [delete_of_none leads]
      exact ⟨slot, there, rfl, fun _ => rfl⟩
  | some place =>
      obtain ⟨found, foundThere, isAt⟩ := slot_of_place? leads
      rw [delete_of_some leads, modifySlot, List.getElem?_modify, there]
      by_cases same : place = here
      · subst same
        rw [there] at foundThere
        cases foundThere
        refine ⟨{ slot with listed := false }, by simp, rfl, fun different => absurd ?_ different⟩
        simp only [SessionSlot.isAt, Bool.and_eq_true, beq_iff_eq] at isAt
        exact isAt.2
      · exact ⟨slot, by simp [same], rfl, fun _ => rfl⟩

/-! ## What taking a lock gives -/

/-- A lock that is somebody's is what an attempt to take it waits for, and then it changes nothing. -/
theorem acquire_of_locked (leads : store.place? id = some place)
    (locked : store.isLocked place = true) : store.acquire id userId = (.blocked, store) := by
  obtain ⟨slot, there, -⟩ := slot_of_place? leads
  rw [isLocked_of_getElem? there] at locked
  simp only [acquire, ensure_of_some leads, leads, there, if_pos locked]

/-- A free lock is given to the user of the session, and to nobody else. -/
theorem acquire_of_free (leads : (store.ensure id userId).place? id = some place)
    (there : (store.ensure id userId).slots[place]? = some slot)
    (free : (store.ensure id userId).isLocked place = false) :
    store.acquire id userId =
      if slot.session.userId = userId then
        (.granted ⟨place⟩ slot.session, (store.ensure id userId).lock ⟨place⟩)
      else (.refused, store.ensure id userId) := by
  rw [isLocked_of_getElem? there] at free
  simp only [acquire, leads, there, free, Bool.false_eq_true, if_false]
  by_cases own : slot.session.userId = userId
  · simp [own, lock]
  · simp [own]

/-- An identifier leads to a slot that is locked, or after its first use to one that is free. -/
theorem locked_or_free (store : SessionStore) (id userId : String) :
    (∃ place, store.place? id = some place ∧ store.isLocked place = true) ∨
      ∃ place slot, (store.ensure id userId).place? id = some place ∧
        (store.ensure id userId).slots[place]? = some slot ∧
        (store.ensure id userId).isLocked place = false := by
  obtain ⟨place, slot, leads, there, -, origin⟩ := place?_ensure store id userId
  cases locked : (store.ensure id userId).isLocked place with
  | false => exact .inr ⟨place, slot, leads, there, locked⟩
  | true =>
      rcases origin with same | ⟨-, rfl⟩
      · rw [same] at leads locked
        exact .inl ⟨place, leads, locked⟩
      · rw [isLocked_of_getElem? there] at locked
        cases locked

/-- An attempt to take a lock waits exactly if somebody has the lock of the session that is listed. -/
theorem acquire_blocked_iff :
    (store.acquire id userId).1 = .blocked ↔
      ∃ place, store.place? id = some place ∧ store.isLocked place = true := by
  constructor
  · intro blocked
    refine (locked_or_free store id userId).resolve_right ?_
    rintro ⟨place, slot, leads, there, free⟩
    rw [acquire_of_free leads there free] at blocked
    split at blocked <;> cases blocked
  · rintro ⟨place, leads, locked⟩
    rw [acquire_of_locked leads locked]

end SessionStore

theorem Conversation.execute_of_blocked {σ : Type} {config : Config} {world : World σ}
    {cancelled : Bool} {request : TurnRequest} {store : SessionStore} {state : σ}
    (fits : objection? request cancelled = none)
    (blocked : store.acquire request.sessionId request.userId = (.blocked, store)) :
    execute config world cancelled request store state = (.waiting, store, state) :=
  execute_of_turnedAway (by rw [enter, fits, blocked])

/-! ## Tasks and their steps -/

/-- What a task comes to a session for. -/
inductive Errand
  /-- To work in it as this user. -/
  | enter (userId : String)
  /-- To see what it is like. -/
  | look

/-- How far a task is. -/
inductive TaskStage
  /-- It has nothing to do with a session. -/
  | idle
  /-- It was led to a slot and waits for its lock. -/
  | waiting (errand : Errand) (guard : SessionGuard)
  /-- It has the lock and has not seen yet whose session it is. -/
  | locked (errand : Errand) (guard : SessionGuard)
  /-- It works in the session. -/
  | inside (guard : SessionGuard)

namespace TaskStage

/-- The place of the slot to which a task was led. -/
def place? : TaskStage → Option Nat
  | idle => none
  | waiting _ guard | locked _ guard | inside guard => some guard.place

/-- The place of the slot of which a task has the lock. -/
def locks? : TaskStage → Option Nat
  | idle | waiting _ _ => none
  | locked _ guard | inside guard => some guard.place

theorem place?_of_locks? {stage : TaskStage} {place : Nat} (locks : stage.locks? = some place) :
    stage.place? = some place := by
  cases stage with
  | idle | waiting => cases locks
  | locked | inside => exact locks

end TaskStage

/-- The sessions, and how far each of the tasks is that use them. -/
structure SharedSessions (τ : Type) where
  store : SessionStore
  stage : τ → TaskStage

namespace SharedSessions

variable {τ : Type} [DecidableEq τ]

/-- A task gets to another stage, and the store changes. -/
def move (state : SharedSessions τ) (task : τ) (stage : TaskStage) (store : SessionStore) :
    SharedSessions τ :=
  { store, stage := Function.update state.stage task stage }

@[simp] theorem move_store (state : SharedSessions τ) (task : τ) (stage : TaskStage)
    (store : SessionStore) : (state.move task stage store).store = store := rfl

@[simp] theorem move_stage_self (state : SharedSessions τ) (task : τ) (stage : TaskStage)
    (store : SessionStore) : (state.move task stage store).stage task = stage := by
  simp [move]

@[simp] theorem move_stage_of_ne (state : SharedSessions τ) {task other : τ} (stage : TaskStage)
    (store : SessionStore) (different : other ≠ task) :
    (state.move task stage store).stage other = state.stage other := by
  simp [move, different]

@[simp] theorem move_move (state : SharedSessions τ) (task : τ) (stage next : TaskStage)
    (store after : SessionStore) :
    (state.move task stage store).move task next after = state.move task next after := by
  simp [move]

/-- One step of one task.  Only the lock of a slot makes a task wait. -/
inductive Act : SharedSessions τ → SharedSessions τ → Prop where
  /-- A task that is to enter a session is led to it, and it is made if there is none. -/
  | comeToEnter {state : SharedSessions τ} {task : τ} {id userId : String} {place : Nat}
      (idle : state.stage task = .idle)
      (leads : (state.store.ensure id userId).place? id = some place) :
      Act state
        (state.move task (.waiting (.enter userId) ⟨place⟩) (state.store.ensure id userId))
  /-- A task that is to look at a session is led to it, if there is one. -/
  | comeToLook {state : SharedSessions τ} {task : τ} {id : String} {place : Nat}
      (idle : state.stage task = .idle) (leads : state.store.place? id = some place) :
      Act state (state.move task (.waiting .look ⟨place⟩) state.store)
  /-- A task takes a lock that nobody has. -/
  | lock {state : SharedSessions τ} {task : τ} {errand : Errand} {guard : SessionGuard}
      (waits : state.stage task = .waiting errand guard)
      (free : state.store.isLocked guard.place = false) :
      Act state (state.move task (.locked errand guard) (state.store.lock guard))
  /-- A task finds that the session is its user's. -/
  | enter {state : SharedSessions τ} {task : τ} {userId : String} {guard : SessionGuard}
      {session : Session} (locked : state.stage task = .locked (.enter userId) guard)
      (there : state.store.read? guard = some session) (own : session.userId = userId) :
      Act state (state.move task (.inside guard) state.store)
  /-- A task finds that the session is another user's, and gives the lock back. -/
  | turnBack {state : SharedSessions τ} {task : τ} {userId : String} {guard : SessionGuard}
      {session : Session} (locked : state.stage task = .locked (.enter userId) guard)
      (there : state.store.read? guard = some session) (foreign : session.userId ≠ userId) :
      Act state (state.move task .idle (state.store.release guard))
  /-- A task has looked at the session, and gives the lock back. -/
  | lookAround {state : SharedSessions τ} {task : τ} {guard : SessionGuard}
      (locked : state.stage task = .locked .look guard) :
      Act state (state.move task .idle (state.store.release guard))
  /-- A task changes the session in which it is. -/
  | write {state : SharedSessions τ} {task : τ} {guard : SessionGuard} (session : Session)
      (inside : state.stage task = .inside guard) :
      Act state (state.move task (.inside guard) (state.store.write guard session))
  /-- A task is done with the session, and gives the lock back. -/
  | leave {state : SharedSessions τ} {task : τ} {guard : SessionGuard}
      (inside : state.stage task = .inside guard) :
      Act state (state.move task .idle (state.store.release guard))
  /-- A task does not wait any longer. -/
  | giveUp {state : SharedSessions τ} {task : τ} {errand : Errand} {guard : SessionGuard}
      (waits : state.stage task = .waiting errand guard) :
      Act state (state.move task .idle state.store)

/-- Taking the lock of a session at a stroke leaves the task at this stage. -/
inductive StageAfter (store : SessionStore) (userId : String) : Acquisition → TaskStage → Prop where
  | blocked {guard : SessionGuard} (locked : store.isLocked guard.place = true) :
      StageAfter store userId .blocked (.waiting (.enter userId) guard)
  | refused : StageAfter store userId .refused .idle
  | granted {guard : SessionGuard} {session : Session} :
      StageAfter store userId (.granted guard session) (.inside guard)

theorem release_lock_of_free {store : SessionStore} {place : Nat} {slot : SessionSlot}
    (there : store.slots[place]? = some slot) (free : store.isLocked place = false) :
    (store.lock ⟨place⟩).release ⟨place⟩ = store := by
  rw [SessionStore.isLocked_of_getElem? there] at free
  exact SessionStore.release_lock there free

/-- Nobody comes to enter a session by this step, and the sessions stay as they are. -/
structure Quiet (state after : SharedSessions τ) : Prop where
  sessions : after.store.unlocked = state.store.unlocked
  comes : ∀ task userId guard, after.stage task = .waiting (.enter userId) guard →
    state.stage task = .waiting (.enter userId) guard

theorem quiet_move {state : SharedSessions τ} {task : τ} {stage : TaskStage} {store : SessionStore}
    (sessions : store.unlocked = state.store.unlocked)
    (elsewhere : ∀ userId guard, stage ≠ .waiting (.enter userId) guard) :
    Quiet state (state.move task stage store) where
  sessions := sessions
  comes := fun one userId guard waits => by
    by_cases self : one = task
    · subst self
      rw [move_stage_self] at waits
      exact absurd waits (elsewhere userId guard)
    · rwa [move_stage_of_ne state stage store self] at waits

/-- Taking the lock of a session at a stroke is coming for it, and then steps by which nobody comes for a
session and none changes. -/
theorem acquire_comes (state : SharedSessions τ) (task : τ) (id userId : String) :
    ∃ place stage, (state.store.ensure id userId).place? id = some place ∧
      StageAfter state.store userId (state.store.acquire id userId).1 stage ∧
      Relation.ReflTransGen (fun before after => Act before after ∧ Quiet before after)
        (state.move task (.waiting (.enter userId) ⟨place⟩) (state.store.ensure id userId))
        (state.move task stage (state.store.acquire id userId).2) := by
  rcases SessionStore.locked_or_free state.store id userId with
    ⟨place, leads, locked⟩ | ⟨place, slot, leads, there, free⟩
  · have same : state.store.ensure id userId = state.store := SessionStore.ensure_of_some leads
    rw [SessionStore.acquire_of_locked leads locked, same]
    exact ⟨place, _, leads, .blocked locked, .refl⟩
  · let opened := state.store.ensure id userId
    let waiting := state.move task (.waiting (.enter userId) ⟨place⟩) opened
    let locked := state.move task (.locked (.enter userId) ⟨place⟩) (opened.lock ⟨place⟩)
    have taken : (opened.lock ⟨place⟩).unlocked = opened.unlocked :=
      SessionStore.unlocked_setLock opened place true
    have locks : Act waiting locked ∧ Quiet waiting locked := by
      have step : Act waiting (waiting.move task _ _) := .lock (move_stage_self _ _ _ _) free
      have quiet : Quiet waiting (waiting.move task (.locked (.enter userId) ⟨place⟩) _) :=
        quiet_move taken (by simp)
      rw [move_move] at step quiet
      exact ⟨step, quiet⟩
    have read : locked.store.read? ⟨place⟩ = some slot.session := by
      simp [locked, opened, SessionStore.read?, SessionStore.lock, SessionStore.modifySlot, there]
    rw [SessionStore.acquire_of_free leads there free]
    by_cases own : slot.session.userId = userId
    · have enters : Act locked (state.move task (.inside ⟨place⟩) (opened.lock ⟨place⟩)) ∧
          Quiet locked (state.move task (.inside ⟨place⟩) (opened.lock ⟨place⟩)) := by
        have step : Act locked (locked.move task _ _) := .enter (move_stage_self _ _ _ _) read own
        have quiet : Quiet locked (locked.move task (.inside ⟨place⟩) locked.store) :=
          quiet_move rfl (by simp)
        rw [move_move] at step quiet
        exact ⟨step, quiet⟩
      rw [if_pos own]
      exact ⟨place, _, leads, .granted, .tail (.single locks) enters⟩
    · have turns : Act locked (state.move task .idle opened) ∧
          Quiet locked (state.move task .idle opened) := by
        have step : Act locked (locked.move task _ _) := .turnBack (move_stage_self _ _ _ _) read own
        have quiet : Quiet locked (locked.move task .idle opened) := quiet_move taken.symm (by simp)
        rw [move_move] at step quiet
        rw [move_store, release_lock_of_free there free] at step
        exact ⟨step, quiet⟩
      rw [if_neg own]
      exact ⟨place, _, leads, .refused, .tail (.single locks) turns⟩

/-- **Taking the lock of a session at a stroke is coming for it, waiting and entering, one step after the
other with no step of another task between them.** -/
theorem acquire_acts {state : SharedSessions τ} {task : τ} (idle : state.stage task = .idle)
    (id userId : String) :
    ∃ stage, StageAfter state.store userId (state.store.acquire id userId).1 stage ∧
      Relation.ReflTransGen Act state (state.move task stage (state.store.acquire id userId).2) := by
  obtain ⟨place, stage, leads, reached, acts⟩ := acquire_comes state task id userId
  exact ⟨stage, reached, .head (.comeToEnter idle leads)
    (Relation.ReflTransGen.mono (fun _ _ acted => acted.1) _ _ acts)⟩

/-! ## The states to which the steps lead -/

/-- A task was led to a slot of this identifier. -/
def Uses (state : SharedSessions τ) (task : τ) (id : String) : Prop :=
  ∃ place slot, (state.stage task).place? = some place ∧
    state.store.slots[place]? = some slot ∧ slot.key = id

/-- A task has the lock of a slot of this identifier. -/
def Locks (state : SharedSessions τ) (task : τ) (id : String) : Prop :=
  ∃ place slot, (state.stage task).locks? = some place ∧
    state.store.slots[place]? = some slot ∧ slot.key = id

/-- The states to which the steps of the tasks lead when sessions are forgotten in between, each only in a
state in which it may be. -/
inductive Reachable (mayForget : SharedSessions τ → String → Prop) : SharedSessions τ → Prop where
  | start : Reachable mayForget { store := {}, stage := fun _ => .idle }
  | act {state after : SharedSessions τ} (reached : Reachable mayForget state)
      (acts : Act state after) : Reachable mayForget after
  | forget {state : SharedSessions τ} {id : String} (reached : Reachable mayForget state)
      (allowed : mayForget state id) :
      Reachable mayForget { state with store := (state.store.delete id).2 }

theorem Reachable.acts {mayForget : SharedSessions τ → String → Prop} {state after : SharedSessions τ}
    (reached : Reachable mayForget state) (acts : Relation.ReflTransGen Act state after) :
    Reachable mayForget after := by
  induction acts with
  | refl => exact reached
  | tail _ last ih => exact .act ih last

/-! ## What every step preserves -/

/-- The locks that are set are those that tasks have, no two tasks have one lock, and an identifier leads to
one slot. -/
structure Orderly (state : SharedSessions τ) : Prop where
  single : state.store.Single
  there : ∀ task place, (state.stage task).place? = some place →
    ∃ slot, state.store.slots[place]? = some slot
  locked : ∀ place, state.store.isLocked place = true ↔
    ∃ task, (state.stage task).locks? = some place
  exclusive : ∀ one other place, (state.stage one).locks? = some place →
    (state.stage other).locks? = some place → one = other

/-- The sessions of an identifier that tasks use are still listed. -/
def Kept (id : String) (state : SharedSessions τ) : Prop :=
  ∀ task place slot, (state.stage task).place? = some place →
    state.store.slots[place]? = some slot → slot.key = id → slot.listed = true

variable {state after : SharedSessions τ} {task : τ} {stage : TaskStage} {store : SessionStore}
  {guard : SessionGuard} {id : String}

omit [DecidableEq τ] in
theorem orderly_start : Orderly { store := {}, stage := fun _ : τ => .idle } where
  single := SessionStore.single_empty
  there := fun _ _ led => nomatch led
  locked := fun place => by simp [SessionStore.isLocked, TaskStage.locks?]
  exclusive := fun _ _ _ has => nomatch has

/-- The slots to which tasks were led are still there after a step. -/
theorem Orderly.there_move (orderly : state.Orderly) (extended : state.store.Extends store)
    (led : ∀ place, stage.place? = some place → ∃ slot, store.slots[place]? = some slot)
    (one : τ) (place : Nat) (leads : ((state.move task stage store).stage one).place? = some place) :
    ∃ slot, store.slots[place]? = some slot := by
  by_cases same : one = task
  · subst same
    rw [move_stage_self] at leads
    exact led place leads
  · rw [move_stage_of_ne state stage store same] at leads
    exact extended.exists_slot (orderly.there one place leads)

/-- A step that concerns no lock. -/
theorem Orderly.move (orderly : state.Orderly) (single : store.Single)
    (extended : state.store.Extends store)
    (same : ∀ here, store.isLocked here = state.store.isLocked here)
    (led : ∀ place, stage.place? = some place → ∃ slot, store.slots[place]? = some slot)
    (locks : stage.locks? = (state.stage task).locks?) : (state.move task stage store).Orderly := by
  have unchanged : ∀ one, ((state.move task stage store).stage one).locks? =
      (state.stage one).locks? := by
    intro one
    by_cases self : one = task
    · rw [self, move_stage_self, locks]
    · rw [move_stage_of_ne state stage store self]
  exact {
    single
    there := orderly.there_move extended led
    locked := fun place => by simp only [move_store, same, unchanged, orderly.locked]
    exclusive := fun one other place => by
      simp only [unchanged]
      exact orderly.exclusive one other place }

/-- Who has a lock after a step of one task. -/
theorem locks_move {one : τ} {place : Nat} :
    ((state.move task stage store).stage one).locks? = some place ↔
      (one = task ∧ stage.locks? = some place) ∨
        (one ≠ task ∧ (state.stage one).locks? = some place) := by
  by_cases self : one = task
  · subst self
    simp
  · simp [self]

omit [DecidableEq τ] in
theorem Orderly.there_of_locks (orderly : state.Orderly) {place : Nat}
    (has : (state.stage task).locks? = some place) : place < state.store.slots.length := by
  obtain ⟨slot, there⟩ := orderly.there task place (TaskStage.place?_of_locks? has)
  exact (List.getElem?_eq_some_iff.mp there).1

/-- A task takes a lock that nobody has. -/
theorem Orderly.lock {errand : Errand} (orderly : state.Orderly)
    (waits : state.stage task = .waiting errand guard)
    (free : state.store.isLocked guard.place = false) :
    (state.move task (.locked errand guard) (state.store.lock guard)).Orderly := by
  have extended := SessionStore.extends_lock state.store guard
  obtain ⟨slot, there⟩ := orderly.there task guard.place (by rw [waits]; rfl)
  have inside : guard.place < state.store.slots.length := (List.getElem?_eq_some_iff.mp there).1
  have hadNone : (state.stage task).locks? = none := by rw [waits]; rfl
  have nobody : ∀ one, (state.stage one).locks? ≠ some guard.place := by
    intro one has
    rw [(orderly.locked guard.place).mpr ⟨one, has⟩] at free
    cases free
  refine {
    single := SessionStore.Single.modifySlot (SessionStore.keepsPlace_hold true) orderly.single _
    there := orderly.there_move extended ?_
    locked := fun place => ?_
    exclusive := fun one other place oneHas otherHas => ?_ }
  · rintro place ⟨⟩
    exact extended.exists_slot ⟨slot, there⟩
  · simp only [move_store, SessionStore.lock, SessionStore.isLocked_setLock inside, locks_move]
    by_cases same : guard.place = place
    · simp only [if_pos same, true_iff]
      exact ⟨task, .inl ⟨rfl, congrArg some same⟩⟩
    · rw [if_neg same, orderly.locked]
      constructor
      · rintro ⟨one, has⟩
        refine ⟨one, .inr ⟨?_, has⟩⟩
        rintro rfl
        rw [hadNone] at has
        cases has
      · rintro ⟨one, ⟨-, has⟩ | ⟨-, has⟩⟩
        · exact absurd (Option.some.inj has) same
        · exact ⟨one, has⟩
  · rcases locks_move.mp oneHas with ⟨rfl, oneTook⟩ | ⟨-, oneHad⟩ <;>
      rcases locks_move.mp otherHas with ⟨rfl, otherTook⟩ | ⟨-, otherHad⟩
    · rfl
    · obtain rfl : guard.place = place := Option.some.inj oneTook
      exact absurd otherHad (nobody other)
    · obtain rfl : guard.place = place := Option.some.inj otherTook
      exact absurd oneHad (nobody one)
    · exact orderly.exclusive one other place oneHad otherHad

/-- A task gives a lock back. -/
theorem Orderly.release (orderly : state.Orderly)
    (has : (state.stage task).locks? = some guard.place) :
    (state.move task .idle (state.store.release guard)).Orderly := by
  have inside := orderly.there_of_locks has
  have still : ∀ one place, ((state.move task .idle (state.store.release guard)).stage one).locks? =
      some place ↔ one ≠ task ∧ (state.stage one).locks? = some place := by
    intro one place
    rw [locks_move]
    simp [TaskStage.locks?]
  refine {
    single := SessionStore.Single.modifySlot (SessionStore.keepsPlace_hold false) orderly.single _
    there := orderly.there_move (SessionStore.extends_release state.store guard) nofun
    locked := fun place => ?_
    exclusive := fun one other place oneHas otherHas =>
      orderly.exclusive one other place ((still one place).mp oneHas).2
        ((still other place).mp otherHas).2 }
  simp only [move_store, SessionStore.release, SessionStore.isLocked_setLock inside]
  by_cases same : guard.place = place
  · simp only [if_pos same, Bool.false_eq_true, false_iff]
    rintro ⟨one, hasNow⟩
    obtain ⟨different, had⟩ := (still one place).mp hasNow
    exact different (orderly.exclusive one task place had (same ▸ has))
  · rw [if_neg same, orderly.locked]
    constructor
    · rintro ⟨one, had⟩
      refine ⟨one, (still one place).mpr ⟨?_, had⟩⟩
      rintro rfl
      exact same (Option.some.inj (has.symm.trans had))
    · rintro ⟨one, hasNow⟩
      exact ⟨one, ((still one place).mp hasNow).2⟩

omit [DecidableEq τ] in
/-- Forgetting a session concerns no task and no lock. -/
theorem Orderly.forget (orderly : state.Orderly) (id : String) :
    Orderly { state with store := (state.store.delete id).2 } where
  single := SessionStore.Single.delete orderly.single id
  there := fun task place led => by
    obtain ⟨slot, there⟩ := orderly.there task place led
    obtain ⟨later, still, -⟩ := SessionStore.slot_delete there id
    exact ⟨later, still⟩
  locked := fun place => by
    rw [SessionStore.isLocked_delete]
    exact orderly.locked place
  exclusive := orderly.exclusive

/-- **Every step preserves the order of the locks.** -/
theorem Act.orderly (acts : Act state after) (orderly : state.Orderly) : after.Orderly := by
  cases acts with
  | @comeToEnter task id userId place idle leads =>
      obtain ⟨slot, there, -⟩ := SessionStore.slot_of_place? leads
      refine orderly.move (SessionStore.Single.ensure orderly.single id userId)
        (SessionStore.extends_ensure _ id userId) (SessionStore.isLocked_ensure _ id userId) ?_ ?_
      · rintro _ ⟨⟩
        exact ⟨slot, there⟩
      · rw [idle]
        rfl
  | @comeToLook task id place idle leads =>
      obtain ⟨slot, there, -⟩ := SessionStore.slot_of_place? leads
      refine orderly.move orderly.single (SessionStore.extends_refl _) (fun _ => rfl) ?_ ?_
      · rintro _ ⟨⟩
        exact ⟨slot, there⟩
      · rw [idle]
        rfl
  | lock waits free => exact orderly.lock waits free
  | @enter task _ guard _ locked =>
      refine orderly.move orderly.single (SessionStore.extends_refl _) (fun _ => rfl) ?_ ?_
      · rintro place led
        exact orderly.there task place (by rw [locked]; exact led)
      · rw [locked]
        rfl
  | turnBack locked | lookAround locked => exact orderly.release (by rw [locked]; rfl)
  | leave inside => exact orderly.release (by rw [inside]; rfl)
  | @write task guard session inside =>
      have extended := SessionStore.extends_write state.store guard session
      refine orderly.move
        (SessionStore.Single.modifySlot (SessionStore.keepsPlace_write session) orderly.single _)
        extended (SessionStore.isLocked_write _ guard session) ?_ ?_
      · rintro place led
        exact extended.exists_slot (orderly.there task place (by rw [inside]; exact led))
      · rw [inside]
  | giveUp waits =>
      refine orderly.move orderly.single (SessionStore.extends_refl _) (fun _ => rfl) nofun ?_
      rw [waits]
      rfl

/-- A task that gets the lock of a session at a stroke is inside. -/
theorem Reachable.enters {mayForget : SharedSessions τ → String → Prop} {userId : String}
    {session : Session} (reached : Reachable mayForget state) (idle : state.stage task = .idle)
    (granted : state.store.acquire id userId = (.granted guard session, store)) :
    Reachable mayForget (state.move task (.inside guard) store) := by
  obtain ⟨stage, after, acts⟩ := acquire_acts idle id userId
  rw [granted] at after acts
  cases after with
  | granted => exact reached.acts acts

theorem Reachable.orderly {mayForget : SharedSessions τ → String → Prop}
    (reached : Reachable mayForget state) : state.Orderly := by
  induction reached with
  | start => exact orderly_start
  | act _ acts ih => exact acts.orderly ih
  | forget _ _ ih => exact ih.forget _

/-! ## Sessions that are not forgotten in use -/

/-- A step that leads no task to a slot that is off the list. -/
theorem Kept.move (kept : state.Kept id) (orderly : state.Orderly)
    (extended : state.store.Extends store)
    (led : ∀ place, stage.place? = some place → (state.stage task).place? = some place ∨
      ∃ slot, store.slots[place]? = some slot ∧ slot.listed = true) :
    (state.move task stage store).Kept id := by
  have wasLed : ∀ one place slot, (state.stage one).place? = some place →
      store.slots[place]? = some slot → slot.key = id → slot.listed = true := by
    intro one place slot leads there named
    obtain ⟨before, was⟩ := orderly.there one place leads
    obtain ⟨later, still, sameKey, sameListed⟩ := extended place before was
    rw [there] at still
    cases still
    rw [sameListed]
    exact kept one place before leads was (sameKey.symm.trans named)
  intro one place slot leads there named
  by_cases self : one = task
  · subst self
    rw [move_stage_self] at leads
    rcases led place leads with before | ⟨found, foundThere, listed⟩
    · exact wasLed one place slot before there named
    · rw [move_store, foundThere] at there
      cases there
      exact listed
  · rw [move_stage_of_ne state stage store self] at leads
    exact wasLed one place slot leads there named

theorem Act.keeps (acts : Act state after) (orderly : state.Orderly) (kept : state.Kept id) :
    after.Kept id := by
  cases acts with
  | @comeToEnter task listedId userId place idle leads =>
      refine kept.move orderly (SessionStore.extends_ensure _ listedId userId) ?_
      rintro _ ⟨⟩
      exact .inr (SessionStore.listed_of_place? leads)
  | comeToLook idle leads =>
      refine kept.move orderly (SessionStore.extends_refl _) ?_
      rintro _ ⟨⟩
      exact .inr (SessionStore.listed_of_place? leads)
  | @lock task errand guard waits free =>
      refine kept.move orderly (SessionStore.extends_lock _ guard) ?_
      intro place led
      exact .inl (by rw [waits]; exact led)
  | enter locked =>
      refine kept.move orderly (SessionStore.extends_refl _) ?_
      intro place led
      exact .inl (by rw [locked]; exact led)
  | @write task guard session inside =>
      refine kept.move orderly (SessionStore.extends_write _ guard session) ?_
      intro place led
      exact .inl (by rw [inside]; exact led)
  | @turnBack _ _ guard | @lookAround _ guard | @leave _ guard =>
      exact kept.move orderly (SessionStore.extends_release _ guard) nofun
  | giveUp => exact kept.move orderly (SessionStore.extends_refl _) nofun

omit [DecidableEq τ] in
/-- Forgetting a session that no task uses leaves those listed that tasks use. -/
theorem Kept.forget {forgotten : String} (kept : state.Kept id) (orderly : state.Orderly)
    (unused : forgotten = id → ∀ task, ¬ state.Uses task id) :
    Kept id { state with store := (state.store.delete forgotten).2 } := by
  intro task place slot leads there named
  obtain ⟨before, was⟩ := orderly.there task place leads
  obtain ⟨later, still, sameKey, sameListed⟩ := SessionStore.slot_delete was forgotten
  rw [there] at still
  cases still
  have wasNamed : before.key = id := sameKey.symm.trans named
  by_cases same : forgotten = id
  · exact absurd ⟨place, before, leads, was, wasNamed⟩ (unused same task)
  · rw [sameListed (fun both => same (both.symm.trans wasNamed))]
    exact kept task place before leads was wasNamed

theorem Reachable.kept {mayForget : SharedSessions τ → String → Prop}
    (reached : Reachable mayForget state)
    (careful : ∀ earlier, Reachable mayForget earlier → mayForget earlier id →
      ∀ task, ¬ earlier.Uses task id) : state.Kept id := by
  induction reached with
  | start => exact fun _ _ _ led => nomatch led
  | act reached acts ih => exact acts.keeps reached.orderly ih
  | @forget earlier forgotten reached allowed ih =>
      refine ih.forget reached.orderly ?_
      rintro rfl
      exact careful earlier reached allowed

omit [DecidableEq τ] in
/-- The identifier of a session that is still listed leads to the task that has its lock. -/
theorem Locks.leads {task : τ} (locks : state.Locks task id) (orderly : state.Orderly)
    (kept : state.Kept id) :
    ∃ place, (state.stage task).locks? = some place ∧ state.store.place? id = some place := by
  obtain ⟨place, slot, has, there, named⟩ := locks
  have listed := kept task place slot (TaskStage.place?_of_locks? has) there named
  have isAt : slot.isAt id = true := by simp [SessionSlot.isAt, listed, named]
  exact ⟨place, has, orderly.single place slot id there isAt⟩

/-! ## One task at a time -/

/-- **Two tasks are in sessions of one identifier only after one was forgotten in use.**  In every state to
which the steps lead, the locks that are set are those of tasks, and no two tasks have one lock.  A task
that comes for a session waits exactly if another has the lock of the session that is still listed, and
then it changes nothing.  If an identifier is never forgotten while a task uses its session, then one task
at most has a lock under it; while it has, each other task that comes waits, whoever its user is, and so
does each turn of the conversation. -/
theorem locks_exclude_unless_forgotten {mayForget : SharedSessions τ → String → Prop}
    (reached : Reachable mayForget state) :
    (∀ place, state.store.isLocked place = true ↔
      ∃ task, (state.stage task).locks? = some place) ∧
    (∀ one other place, (state.stage one).locks? = some place →
      (state.stage other).locks? = some place → one = other) ∧
    (∀ id userId, (state.store.acquire id userId).1 = .blocked ↔
      ∃ task place, state.store.place? id = some place ∧
        (state.stage task).locks? = some place) ∧
    (∀ id userId, (state.store.acquire id userId).1 = .blocked →
      (state.store.acquire id userId).2 = state.store) ∧
    ∀ id, (∀ earlier, Reachable mayForget earlier → mayForget earlier id →
        ∀ task, ¬ earlier.Uses task id) →
      (∀ one other, state.Locks one id → state.Locks other id → one = other) ∧
      ∀ task, state.Locks task id →
        (∀ userId, state.store.acquire id userId = (.blocked, state.store)) ∧
        ∀ {σ : Type} (config : Config) (world : World σ) (request : TurnRequest) (last : σ),
          request.sessionId = id → Conversation.objection? request false = none →
          Conversation.execute config world false request state.store last =
            (.waiting, state.store, last) := by
  have orderly := reached.orderly
  refine ⟨orderly.locked, orderly.exclusive, fun id userId => ?_, fun id userId blocked => ?_,
    fun id careful => ?_⟩
  · simp only [SessionStore.acquire_blocked_iff, orderly.locked]
    constructor
    · rintro ⟨place, leads, task, has⟩
      exact ⟨task, place, leads, has⟩
    · rintro ⟨task, place, leads, has⟩
      exact ⟨place, leads, task, has⟩
  · obtain ⟨place, leads, locked⟩ := SessionStore.acquire_blocked_iff.mp blocked
    rw [SessionStore.acquire_of_locked leads locked]
  · have kept := reached.kept careful
    refine ⟨fun one other oneLocks otherLocks => ?_, fun task locks => ?_⟩
    · obtain ⟨place, oneHas, leads⟩ := oneLocks.leads orderly kept
      obtain ⟨otherPlace, otherHas, otherLeads⟩ := otherLocks.leads orderly kept
      rw [leads] at otherLeads
      cases otherLeads
      exact orderly.exclusive one other place oneHas otherHas
    · obtain ⟨place, has, leads⟩ := locks.leads orderly kept
      have locked := (orderly.locked place).mpr ⟨task, has⟩
      have blocked : ∀ userId, state.store.acquire id userId = (.blocked, state.store) :=
        fun userId => SessionStore.acquire_of_locked leads locked
      refine ⟨blocked, ?_⟩
      rintro σ config world request last rfl fits
      exact Conversation.execute_of_blocked fits (blocked request.userId)

/-- One task enters a session, the session is forgotten, and another enters its successor.  A third task is
in a session that is never forgotten, and everybody else waits for that. -/
theorem locks_of_forgotten : ∃ state : SharedSessions Nat,
    Reachable (fun _ id => id = "s") state ∧ state.Locks 0 "s" ∧ state.Locks 1 "s" ∧
      state.Locks 2 "t" ∧ state.store.acquire "t" "v" = (.blocked, state.store) := by
  let mayForget : SharedSessions Nat → String → Prop := fun _ id => id = "s"
  have first : Reachable mayForget (SharedSessions.move _ 0 _ _) :=
    Reachable.start.enters rfl (rfl : SessionStore.acquire _ "s" "u" = _)
  have second : Reachable mayForget (SharedSessions.move _ 1 _ _) :=
    (first.forget rfl).enters rfl (rfl : SessionStore.acquire _ "s" "u" = _)
  have third : Reachable mayForget (SharedSessions.move _ 2 _ _) :=
    second.enters rfl (rfl : SessionStore.acquire _ "t" "u" = _)
  refine ⟨_, third, ⟨0, _, rfl, rfl, rfl⟩, ⟨1, _, rfl, rfl, rfl⟩, ⟨2, _, rfl, rfl, rfl⟩, ?_⟩
  have careful : ∀ earlier, Reachable mayForget earlier → mayForget earlier "t" →
      ∀ task, ¬ earlier.Uses task "t" :=
    fun _ _ allowed => absurd allowed (by decide)
  exact (((locks_exclude_unless_forgotten third).2.2.2.2 "t" careful).2 2 ⟨2, _, rfl, rfl, rfl⟩).1 "v"

end SharedSessions

end NoteDialogue
