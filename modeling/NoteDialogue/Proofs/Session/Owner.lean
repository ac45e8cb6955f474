import Mathlib.Data.Set.Card
import NoteDialogue.Proofs.Session.Tasks

/-!
# Whose session it is

A session belongs to the user who came for its identifier first since the identifier was last deleted.
Nothing in a session says so but the session itself: it is made by whoever comes first, deleted by anybody,
and checked only by those who have its lock already.  So the tasks that share the sessions are followed here
with a log of who came for which identifier and which were deleted (`SharedSessions.Step`), and what the
store holds is compared with what the log tells (`SessionStore.Recounts`).

Every step keeps the two in agreement.  A user whose session it is not never gets into it, however the steps
of the tasks are mixed, and leaves no trace in the store (`SharedSessions.sessions_belong_to_first_comers`).
-/

set_option autoImplicit false

namespace NoteDialogue

/-! ## Who came for an identifier -/

/-- What bears on whose session an identifier leads to. -/
inductive SessionEvent
  /-- Somebody came to enter the session as this user, and was led to it, or to a new one. -/
  | acquired (id userId : String)
  /-- The session was forgotten, if there was one. -/
  | deleted (id : String)
  deriving DecidableEq

/-- The user who came for an identifier. -/
def SessionEvent.comer? (id : String) : SessionEvent → Option String
  | acquired wanted userId => if wanted = id then some userId else none
  | deleted _ => none

/-- The users who came for an identifier since it was last deleted, the latest first. -/
def comers (log : List SessionEvent) (id : String) : List String :=
  (log.takeWhile (· != .deleted id)).filterMap (·.comer? id)

/-- The user who came for an identifier first since it was last deleted. -/
def maker? (log : List SessionEvent) (id : String) : Option String :=
  (comers log id).getLast?

section Log

variable {log : List SessionEvent} {id other userId : String}

theorem maker?_acquired_self :
    maker? (.acquired id userId :: log) id = some ((maker? log id).getD userId) := by
  have comes : comers (.acquired id userId :: log) id = userId :: comers log id := by
    simp [comers, SessionEvent.comer?]
  rw [maker?, comes, List.getLast?_cons]
  rfl

theorem maker?_acquired_of_ne (different : other ≠ id) :
    maker? (.acquired id userId :: log) other = maker? log other := by
  simp [maker?, comers, SessionEvent.comer?, different.symm]

theorem maker?_deleted_self : maker? (.deleted id :: log) id = none := by
  simp [maker?, comers]

theorem maker?_deleted_of_ne (different : other ≠ id) :
    maker? (.deleted id :: log) other = maker? log other := by
  simp [maker?, comers, SessionEvent.comer?, different.symm]

end Log

/-- Which conversation of which user a session is. -/
def Session.identity (session : Session) : String × String :=
  (session.id, session.userId)

/-- What a task in a session makes of it. -/
inductive Session.Changes (session : Session) : Session → Prop where
  /-- A search is recorded. -/
  | searched (query : String) (documents : List Document) :
      Session.Changes session (session.recordSearch query documents)
  /-- An action is applied that fits. -/
  | applied {action : PlanAction} {changed : Session} (fits : session.apply action = .ok changed) :
      Session.Changes session changed
  /-- A turn ends well. -/
  | turned {σ : Type} {config : Config} {request : TurnRequest} {world : World σ} {state last : σ}
      {result : TurnResult} {changed : Session}
      (runs : (Turn.run config request session).run world state = (.done (result, changed), last)) :
      Session.Changes session changed

/-- Nothing that is made of a session makes it another's. -/
theorem Session.Changes.identity {session changed : Session} (changes : session.Changes changed) :
    changed.identity = session.identity := by
  have same : session.SameOwner changed := by
    cases changes with
    | searched => exact ⟨rfl, rfl⟩
    | applied fits => exact Session.sameOwner_of_apply fits
    | @turned σ config request world state last result _ runs =>
        obtain ⟨course, taken, -⟩ :=
          Interaction.run_recorded world (Turn.run config request session) state []
        rw [runs] at taken
        exact Turn.sameOwner_of_run taken
  exact Prod.ext same.id same.userId

/-! ## What is listed, apart from the locks -/

namespace SessionStore

variable {store after : SessionStore} {id userId : String} {session : Session} {guard : SessionGuard}

theorem session?_unlocked (store : SessionStore) (id : String) :
    store.unlocked.session? id = store.session? id := by
  rw [session?, unlocked, List.find?_map, Option.map_map]
  rfl

theorem read?_unlocked (store : SessionStore) (guard : SessionGuard) :
    store.unlocked.read? guard = store.read? guard := by
  rw [read?, unlocked, List.getElem?_map, Option.map_map]
  rfl

/-- An identifier that leads to a session leads to the slot of it. -/
theorem slot_of_session? (there : store.session? id = some session) :
    ∃ place slot, store.place? id = some place ∧ store.slots[place]? = some slot ∧
      slot.session = session := by
  rw [session?_eq] at there
  obtain ⟨slot, found, same⟩ := Option.map_eq_some_iff.mp there
  obtain ⟨place, leads, isThere⟩ := Option.bind_eq_some_iff.mp found
  exact ⟨place, slot, leads, isThere, same⟩

/-- What is written under a lock is read under it, and under no other. -/
theorem read?_write (store : SessionStore) (guard here : SessionGuard) (session : Session) :
    (store.write guard session).read? here =
      if guard.place = here.place then (store.read? here).map (fun _ => session)
      else store.read? here := by
  rw [read?, read?, write, modifySlot, List.getElem?_modify]
  cases store.slots[here.place]? with
  | none => simp
  | some slot => by_cases same : guard.place = here.place <;> simp [same]

/-- A change of a slot that does not concern its session. -/
theorem read?_modifySlot {change : SessionSlot → SessionSlot}
    (keeps : ∀ slot : SessionSlot, (change slot).session = slot.session) (store : SessionStore)
    (place : Nat) (here : SessionGuard) :
    (store.modifySlot place change).read? here = store.read? here := by
  rw [read?, read?, modifySlot, List.getElem?_modify]
  cases store.slots[here.place]? with
  | none => rfl
  | some slot => by_cases same : place = here.place <;> simp [same, keeps]

/-- Forgetting a session does not take it from those who are in it. -/
theorem read?_delete (store : SessionStore) (id : String) (here : SessionGuard) :
    (store.delete id).2.read? here = store.read? here := by
  have keeps : ∀ slot : SessionSlot, ({ slot with listed := false } : SessionSlot).session =
      slot.session := fun _ => rfl
  cases leads : store.place? id with
  | none => rw [delete_of_none leads]
  | some place => rw [delete_of_some leads, read?_modifySlot keeps]

theorem read?_ensure (there : store.read? guard = some session) (id userId : String) :
    (store.ensure id userId).read? guard = some session := by
  cases leads : store.place? id with
  | some place => rwa [ensure_of_some leads]
  | none =>
      obtain ⟨slot, isThere, same⟩ := Option.map_eq_some_iff.mp there
      have inside := (List.getElem?_eq_some_iff.mp isThere).1
      rw [read?, slots_ensure_of_none leads, List.getElem?_append_left inside, isThere, ← same]
      rfl

theorem session?_eq_read? (store : SessionStore) (id : String) :
    store.session? id = (store.place? id).bind (fun place => store.read? ⟨place⟩) := by
  rw [session?_eq]
  cases store.place? id <;> rfl

/-- The identifiers of the sessions. -/
def ids (store : SessionStore) : List String :=
  (store.slots.filter (·.listed)).map (·.key)

theorem length_ids (store : SessionStore) : store.ids.length = store.size := by
  rw [ids, List.length_map, size, List.countP_eq_length_filter]

theorem mem_ids : id ∈ store.ids ↔ (store.session? id).isSome := by
  simp [ids, session?, and_comm, and_assoc, and_left_comm]

theorem Single.nodup_ids (single : store.Single) : store.ids.Nodup := by
  -- Two listed slots of one identifier would both be the one to which it leads.
  have apart : store.slots.Pairwise fun one other => one.listed → other.listed → one.key ≠ other.key := by
    rw [List.pairwise_iff_getElem]
    intro place here inside insideToo before listed listedToo same
    have led := single place store.slots[place] store.slots[place].key
      (List.getElem?_eq_getElem inside) (by simp [SessionSlot.isAt, listed])
    have ledToo := single here store.slots[here] store.slots[place].key
      (List.getElem?_eq_getElem insideToo) (by simp [SessionSlot.isAt, listedToo, same])
    rw [led] at ledToo
    exact absurd (Option.some.inj ledToo) (Nat.ne_of_lt before)
  rw [ids, List.Nodup, List.pairwise_map, List.pairwise_filter]
  exact apart

/-- **There are as many sessions as identifiers that lead to one.** -/
theorem Single.encard_ids (single : store.Single) :
    {id | (store.session? id).isSome}.encard = store.size := by
  have same : {id | (store.session? id).isSome} = (store.ids.toFinset : Set String) := by
    ext id
    simp [mem_ids]
  rw [same, Set.encard_coe_eq_coe_finsetCard,
    List.toFinset_card_of_nodup (Single.nodup_ids single), length_ids]

/-! ## What the log tells -/

/-- The sessions are those of which the log tells: there is one under an identifier if somebody came for it
since it was last deleted, it has this identifier, and it belongs to who came first. -/
def Recounts (log : List SessionEvent) (store : SessionStore) : Prop :=
  ∀ id, (store.session? id).map (·.identity) = (maker? log id).map (fun userId => (id, userId))

variable {log : List SessionEvent}

theorem recounts_empty : SessionStore.Recounts [] {} :=
  fun _ => rfl

theorem Recounts.isSome (recounts : Recounts log store) (id : String) :
    (store.session? id).isSome = (maker? log id).isSome := by
  have same := congrArg Option.isSome (recounts id)
  rwa [Option.isSome_map, Option.isSome_map] at same

/-- The session under an identifier is the one of who came first. -/
theorem Recounts.of_session? (recounts : Recounts log store) (there : store.session? id = some session) :
    session.id = id ∧ maker? log id = some session.userId := by
  have same := recounts id
  rw [there] at same
  obtain ⟨userId, made, both⟩ := Option.map_eq_some_iff.mp same.symm
  cases both
  exact ⟨rfl, made⟩

/-- Who came first for an identifier has a session there. -/
theorem Recounts.exists_session {maker : String} (recounts : Recounts log store)
    (made : maker? log id = some maker) :
    ∃ session, store.session? id = some session ∧ session.userId = maker := by
  have same := recounts id
  rw [made] at same
  obtain ⟨session, there, both⟩ := Option.map_eq_some_iff.mp same
  exact ⟨session, there, congrArg Prod.snd both⟩

/-- Who comes for an identifier makes its session, if there is none. -/
theorem Recounts.ensure (recounts : Recounts log store) (id userId : String) :
    Recounts (.acquired id userId :: log) (store.ensure id userId) := by
  intro other
  by_cases same : other = id
  · subst same
    rw [session?_ensure, maker?_acquired_self]
    cases there : store.session? other with
    | none =>
        have unmade : maker? log other = none := by
          simpa [there] using recounts.isSome other
        rw [unmade]
        rfl
    | some session =>
        obtain ⟨sameId, made⟩ := recounts.of_session? there
        rw [made]
        exact congrArg some (Prod.ext sameId rfl)
  · rw [session?_ensure_of_ne same, maker?_acquired_of_ne same]
    exact recounts other

/-- Deleting a session leaves none under its identifier. -/
theorem Recounts.delete (recounts : Recounts log store) (single : store.Single) (id : String) :
    Recounts (.deleted id :: log) (store.delete id).2 := by
  intro other
  by_cases same : other = id
  · subst same
    rw [Single.session?_delete single, maker?_deleted_self]
    rfl
  · rw [session?_delete_of_ne same, maker?_deleted_of_ne same]
    exact recounts other

/-- What is made of a session under a lock makes no session another's. -/
theorem Recounts.write {changed : Session} (recounts : Recounts log store)
    (there : store.read? guard = some session) (changes : session.Changes changed) :
    Recounts log (store.write guard changed) := by
  -- The slot that is written keeps its place, so identifiers lead where they led, and only what is read
  -- there can differ.
  intro id
  rw [← recounts id, session?_eq_read?, session?_eq_read?, SessionStore.write,
    place?_modifySlot (keepsPlace_write changed), ← SessionStore.write]
  cases store.place? id with
  | none => rfl
  | some place =>
      rw [Option.bind_some, Option.bind_some, read?_write]
      by_cases here : guard.place = place
      · subst here
        rw [if_pos rfl, there]
        exact congrArg some changes.identity
      · rw [if_neg here]

/-- The log says nothing about the locks. -/
theorem Recounts.of_unlocked (recounts : Recounts log store) (same : after.unlocked = store.unlocked) :
    Recounts log after := by
  intro id
  rw [← session?_unlocked, same, session?_unlocked]
  exact recounts id

end SessionStore

/-! ## Tasks that are followed with a log -/

/-- The sessions and the tasks that use them, with what happened so far, the latest first. -/
structure SessionHistory (τ : Type) where
  log : List SessionEvent
  now : SharedSessions τ

/-- Nobody has come yet, and there are no sessions. -/
def SessionHistory.start {τ : Type} : SessionHistory τ :=
  ⟨[], { store := {}, stage := fun _ => .idle }⟩

namespace SharedSessions

open SessionStore

variable {τ : Type} [DecidableEq τ]

/-- One step of one task, or the deletion of a session, with what is written down of it. -/
inductive Step : SessionHistory τ → SessionHistory τ → Prop where
  /-- A task comes to enter a session. -/
  | comes {log : List SessionEvent} {state : SharedSessions τ} {task : τ} {id userId : String}
      {place : Nat} (idle : state.stage task = .idle)
      (leads : (state.store.ensure id userId).place? id = some place) :
      Step ⟨log, state⟩
        ⟨.acquired id userId :: log,
          state.move task (.waiting (.enter userId) ⟨place⟩) (state.store.ensure id userId)⟩
  /-- A task changes the session in which it is. -/
  | changes {log : List SessionEvent} {state : SharedSessions τ} {task : τ} {guard : SessionGuard}
      {session changed : Session} (inside : state.stage task = .inside guard)
      (there : state.store.read? guard = some session) (changes : session.Changes changed) :
      Step ⟨log, state⟩ ⟨log, state.move task (.inside guard) (state.store.write guard changed)⟩
  /-- Any other step: a task comes to look, takes a lock, finds out whose session it is, or leaves. -/
  | quiet {log : List SessionEvent} {state after : SharedSessions τ} (acts : Act state after)
      (quiet : Quiet state after) : Step ⟨log, state⟩ ⟨log, after⟩
  /-- Somebody deletes a session. -/
  | deletes {log : List SessionEvent} {state : SharedSessions τ} (id : String) :
      Step ⟨log, state⟩ ⟨.deleted id :: log, { state with store := (state.store.delete id).2 }⟩

variable {history next : SessionHistory τ} {state after : SharedSessions τ} {task : τ}
  {userId : String} {guard : SessionGuard}

/-- Every step of a task is one of these, unless it writes what no search, action or turn makes of a
session. -/
theorem Act.exists_step (acts : Act state after)
    (made : ∀ task guard changed, state.stage task = .inside guard →
      after = state.move task (.inside guard) (state.store.write guard changed) →
        ∃ session, state.store.read? guard = some session ∧ session.Changes changed)
    (log : List SessionEvent) : ∃ told, Step ⟨log, state⟩ ⟨told, after⟩ := by
  have quietly : Quiet state after → ∃ told, Step ⟨log, state⟩ ⟨told, after⟩ :=
    fun quiet => ⟨log, .quiet acts quiet⟩
  cases acts with
  | comeToEnter idle leads => exact ⟨_, .comes idle leads⟩
  | @write task guard session inside =>
      obtain ⟨before, there, changes⟩ := made task guard session inside rfl
      exact ⟨log, .changes inside there changes⟩
  | comeToLook | enter | giveUp => exact quietly (quiet_move rfl nofun)
  | lock => exact quietly (quiet_move (unlocked_setLock _ _ true) nofun)
  | turnBack | lookAround | leave =>
      exact quietly (quiet_move (unlocked_setLock _ _ false) nofun)

theorem Step.reachable (step : Step history next) (reached : Reachable (fun _ _ => True) history.now) :
    Reachable (fun _ _ => True) next.now := by
  cases step with
  | comes idle leads => exact reached.act (.comeToEnter idle leads)
  | changes inside => exact reached.act (.write _ inside)
  | quiet acts => exact reached.act acts
  | deletes id => exact reached.forget trivial

/-- **Every step keeps the sessions as the log tells.** -/
theorem Step.recounts (step : Step history next) (single : history.now.store.Single)
    (recounts : Recounts history.log history.now.store) : Recounts next.log next.now.store := by
  cases step with
  | comes => exact recounts.ensure _ _
  | changes _ there changes => exact recounts.write there changes
  | quiet _ quiet => exact recounts.of_unlocked quiet.sessions
  | deletes id => exact recounts.delete single id

/-- Whatever happened, the sessions are those of which the log tells. -/
theorem reachable_and_recounts (happened : Relation.ReflTransGen Step .start history) :
    Reachable (fun _ _ => True) history.now ∧ Recounts history.log history.now.store := by
  induction happened with
  | refl => exact ⟨.start, recounts_empty⟩
  | tail _ step ih =>
      obtain ⟨reached, recounts⟩ := ih
      exact ⟨step.reachable reached, step.recounts reached.orderly.single recounts⟩

/-! ## Those whose session it is not -/

/-- A session stays the same conversation of the same user, also when it is not listed any more. -/
theorem Step.identity {session : Session} (step : Step history next)
    (there : history.now.store.read? guard = some session) :
    ∃ later, next.now.store.read? guard = some later ∧ later.identity = session.identity := by
  cases step with
  | comes => exact ⟨session, read?_ensure there _ _, rfl⟩
  | @changes _ state _ written before changed _ found changes =>
      rw [move_store, read?_write]
      by_cases here : written.place = guard.place
      · obtain rfl : written = guard := congrArg SessionGuard.mk here
        cases found.symm.trans there
        rw [if_pos rfl, found]
        exact ⟨changed, rfl, changes.identity⟩
      · rw [if_neg here]
        exact ⟨session, there, rfl⟩
  | quiet _ quiet =>
      refine ⟨session, ?_, rfl⟩
      rw [← read?_unlocked, quiet.sessions, read?_unlocked]
      exact there
  | deletes id => exact ⟨session, by rw [read?_delete]; exact there, rfl⟩

end SharedSessions

/-- A task has come to enter a session as a user: it waits for the lock, or has it and has not seen yet whose
session it is. -/
def TaskStage.Comes (stage : TaskStage) (userId : String) (guard : SessionGuard) : Prop :=
  stage = .waiting (.enter userId) guard ∨ stage = .locked (.enter userId) guard

theorem TaskStage.not_comes_idle {userId : String} {guard : SessionGuard} :
    ¬ TaskStage.idle.Comes userId guard := by
  rintro (same | same) <;> cases same

theorem TaskStage.not_comes_inside {userId : String} {guard entered : SessionGuard} :
    ¬ (TaskStage.inside entered).Comes userId guard := by
  rintro (same | same) <;> cases same

namespace SharedSessions

open SessionStore

variable {τ : Type} [DecidableEq τ] {history next : SessionHistory τ} {state after : SharedSessions τ}
  {task : τ} {userId : String} {guard : SessionGuard}

/-- A task has come as a user for a session that is another user's. -/
def Stranger (state : SharedSessions τ) (task : τ) (userId : String) : Prop :=
  ∃ guard session, (state.stage task).Comes userId guard ∧ state.store.read? guard = some session ∧
    session.userId ≠ userId

/-- The step of a task that has not come leaves those that have where they are. -/
theorem comes_move (comes : (state.stage task).Comes userId guard) {mover : τ}
    (other : ¬ (state.stage mover).Comes userId guard) (stage : TaskStage) (store : SessionStore) :
    ((state.move mover stage store).stage task).Comes userId guard := by
  have apart : task ≠ mover := by
    rintro rfl
    exact other comes
  rwa [move_stage_of_ne state stage store apart]

/-- A step after which a task is idle leaves the others where they are. -/
theorem comes_or_idle_move (comes : (state.stage task).Comes userId guard) (mover : τ)
    (store : SessionStore) :
    ((state.move mover .idle store).stage task).Comes userId guard ∨
      (state.move mover .idle store).stage task = .idle := by
  by_cases self : task = mover
  · exact .inr (by rw [self, move_stage_self])
  · exact .inl (by rwa [move_stage_of_ne state .idle store self])

/-- A task that has come for another's session does not get into it. -/
theorem Act.comes_or_idle (acts : Act state after) (comes : (state.stage task).Comes userId guard)
    {session : Session} (there : state.store.read? guard = some session)
    (foreign : session.userId ≠ userId) :
    (after.stage task).Comes userId guard ∨ after.stage task = .idle := by
  cases acts with
  | comeToEnter idle | comeToLook idle =>
      exact .inl (comes_move comes (by rw [idle]; exact TaskStage.not_comes_idle) _ _)
  | write _ inside =>
      exact .inl (comes_move comes (by rw [inside]; exact TaskStage.not_comes_inside) _ _)
  | turnBack | lookAround | leave | giveUp => exact comes_or_idle_move comes _ _
  | @lock mover errand taken waits free =>
      by_cases self : task = mover
      · subst self
        rw [waits] at comes
        rcases comes with same | wrong
        · cases same
          exact .inl (.inr (move_stage_self _ _ _ _))
        · cases wrong
      · exact .inl (by rwa [move_stage_of_ne _ _ _ self])
  | enter locked found own =>
      -- only the user of the session gets in, so it is another task that does
      refine .inl (comes_move comes ?_ _ _)
      rw [locked]
      rintro (wrong | same)
      · cases wrong
      · cases same
        cases found.symm.trans there
        exact foreign own

/-- **A stranger stays one until it goes, and its going changes no session.** -/
theorem Step.stranger (step : Step history next) (stranger : Stranger history.now task userId) :
    Stranger next.now task userId ∨
      (next.now.stage task = .idle ∧ next.now.store.unlocked = history.now.store.unlocked) := by
  obtain ⟨guard, session, comes, there, foreign⟩ := stranger
  obtain ⟨later, found, same⟩ := step.identity there
  have sameUser : later.userId = session.userId := congrArg Prod.snd same
  have stays : (next.now.stage task).Comes userId guard → Stranger next.now task userId :=
    fun still => ⟨guard, later, still, found, sameUser ▸ foreign⟩
  cases step with
  | comes idle =>
      exact .inl (stays (comes_move comes (by rw [idle]; exact TaskStage.not_comes_idle) _ _))
  | changes inside =>
      exact .inl (stays (comes_move comes (by rw [inside]; exact TaskStage.not_comes_inside) _ _))
  | quiet acts quiet =>
      rcases acts.comes_or_idle comes there foreign with still | gone
      · exact .inl (stays still)
      · exact .inr ⟨gone, quiet.sessions⟩
  | deletes => exact .inl (stays comes)

/-! ## Coming for another's session -/

/-- A task has the lock of the session to which an identifier leads. -/
def Busy (state : SharedSessions τ) (id : String) : Prop :=
  ∃ task place, state.store.place? id = some place ∧ (state.stage task).locks? = some place

omit [DecidableEq τ] in
theorem busy_iff {id : String} (orderly : state.Orderly) :
    state.Busy id ↔ ∃ place, state.store.place? id = some place ∧
      state.store.isLocked place = true := by
  simp only [Busy, orderly.locked]
  constructor
  · rintro ⟨task, place, leads, has⟩
    exact ⟨place, leads, task, has⟩
  · rintro ⟨place, leads, task, has⟩
    exact ⟨task, place, leads, has⟩

omit [DecidableEq τ] in
/-- Taking the lock of another user's session waits for the task that has it, or is refused, and leaves the
whole store as it was. -/
theorem acquire_of_foreign {id : String} {session : Session} (orderly : state.Orderly)
    (there : state.store.session? id = some session) (foreign : session.userId ≠ userId) :
    (¬ state.Busy id → state.store.acquire id userId = (.refused, state.store)) ∧
      (state.Busy id → state.store.acquire id userId = (.blocked, state.store)) := by
  rw [busy_iff orderly]
  obtain ⟨place, slot, leads, isThere, rfl⟩ := slot_of_session? there
  have same : state.store.ensure id userId = state.store := ensure_of_some leads
  refine ⟨fun idle => ?_, fun busy => ?_⟩
  · have free : state.store.isLocked place = false :=
      Bool.eq_false_iff.mpr fun locked => idle ⟨place, leads, locked⟩
    have given := acquire_of_free (same.symm ▸ leads) (same.symm ▸ isThere) (same.symm ▸ free)
    rwa [if_neg foreign, same] at given
  · obtain ⟨_, led, locked⟩ := busy
    exact acquire_of_locked led locked

omit [DecidableEq τ] in
/-- A turn of another user's session waits, or does not find the session; it asks nothing. -/
theorem execute_of_foreign {σ : Type} {session : Session} (orderly : state.Orderly) (config : Config)
    (world : World σ) {request : TurnRequest} (last : σ)
    (fits : Conversation.objection? request false = none)
    (there : state.store.session? request.sessionId = some session)
    (foreign : session.userId ≠ request.userId) :
    (¬ state.Busy request.sessionId →
        Conversation.execute config world false request state.store last =
          (.failed (Conversation.sessionNotFound request.sessionId), state.store, last)) ∧
      (state.Busy request.sessionId →
        Conversation.execute config world false request state.store last =
          (.waiting, state.store, last)) := by
  obtain ⟨refused, blocked⟩ := acquire_of_foreign orderly there foreign
  refine ⟨fun idle => ?_, fun busy => Conversation.execute_of_blocked fits (blocked busy)⟩
  exact Conversation.execute_of_turnedAway (by rw [Conversation.enter, fits, refused idle])

/-- Who comes for another's session is a stranger, and has changed nothing by coming. -/
theorem stranger_of_coming {id : String} {session : Session}
    (there : history.now.store.session? id = some session) (foreign : session.userId ≠ userId)
    (idle : history.now.stage task = .idle) :
    ∃ place, Step history ⟨.acquired id userId :: history.log,
        history.now.move task (.waiting (.enter userId) ⟨place⟩) history.now.store⟩ ∧
      Stranger (history.now.move task (.waiting (.enter userId) ⟨place⟩) history.now.store) task
        userId := by
  obtain ⟨place, slot, leads, isThere, rfl⟩ := slot_of_session? there
  have same : history.now.store.ensure id userId = history.now.store := ensure_of_some leads
  have step : Step history ⟨.acquired id userId :: history.log, history.now.move task _ _⟩ :=
    .comes idle (same.symm ▸ leads)
  rw [same] at step
  refine ⟨place, step, ⟨place⟩, slot.session, .inl (move_stage_self _ _ _ _), ?_, foreign⟩
  rw [move_store, read?, isThere]
  rfl

/-- **A session belongs to the user who came first since its identifier was last deleted.**  Whatever tasks
of whatever users do one after the other, the session under an identifier has this identifier and this user,
and there are as many sessions as identifiers for which somebody came since they were last deleted.

To every other user the session is not there.  An attempt to take its lock is refused as soon as the lock is
free, and leaves the whole store as it was.  When it has to wait, it is on the way for another's session
until it goes again, whatever the other tasks do meanwhile and also when the session is deleted, and with its
going no session changes.  A turn that is fit to begin fails because there is no such session, in every world
and without a question to it. -/
theorem sessions_belong_to_first_comers (happened : Relation.ReflTransGen Step .start history) :
    (∀ id session, history.now.store.session? id = some session →
      session.id = id ∧ maker? history.log id = some session.userId) ∧
    {id | comers history.log id ≠ []}.encard = history.now.store.size ∧
    (∀ id userId maker, maker? history.log id = some maker → maker ≠ userId →
      (¬ history.now.Busy id →
        history.now.store.acquire id userId = (.refused, history.now.store)) ∧
      (history.now.Busy id →
        history.now.store.acquire id userId = (.blocked, history.now.store)) ∧
      ∀ task, history.now.stage task = .idle →
        ∃ place, Step history ⟨.acquired id userId :: history.log,
            history.now.move task (.waiting (.enter userId) ⟨place⟩) history.now.store⟩ ∧
          Stranger (history.now.move task (.waiting (.enter userId) ⟨place⟩) history.now.store) task
            userId) ∧
    (∀ task userId next, Stranger history.now task userId → Step history next →
      Stranger next.now task userId ∨
        (next.now.stage task = .idle ∧
          next.now.store.unlocked = history.now.store.unlocked)) ∧
    ∀ {σ : Type} (config : Config) (world : World σ) (request : TurnRequest) (last : σ) (maker : String),
      Conversation.objection? request false = none →
      maker? history.log request.sessionId = some maker → maker ≠ request.userId →
        (¬ history.now.Busy request.sessionId →
          Conversation.execute config world false request history.now.store last =
            (.failed (Conversation.sessionNotFound request.sessionId), history.now.store, last)) ∧
        (history.now.Busy request.sessionId →
          Conversation.execute config world false request history.now.store last =
            (.waiting, history.now.store, last)) := by
  obtain ⟨reached, recounts⟩ := reachable_and_recounts happened
  have orderly := reached.orderly
  refine ⟨fun id session there => recounts.of_session? there, ?_, fun id userId maker made foreign => ?_,
    fun task userId next stranger step => step.stranger stranger,
    fun config world request last maker fits made foreign => ?_⟩
  · have same : {id | comers history.log id ≠ []} = {id | (history.now.store.session? id).isSome} := by
      ext id
      simp only [Set.mem_ofPred_eq, recounts.isSome, maker?, List.getLast?_isSome]
    rw [same, Single.encard_ids orderly.single]
  · obtain ⟨session, there, rfl⟩ := recounts.exists_session made
    obtain ⟨refused, blocked⟩ := acquire_of_foreign orderly there foreign
    exact ⟨refused, blocked, fun task idle => stranger_of_coming there foreign idle⟩
  · obtain ⟨session, there, rfl⟩ := recounts.exists_session made
    exact execute_of_foreign orderly config world last fits there foreign

/-- Steps by which nobody comes and no session changes leave the log as it is. -/
theorem quiet_steps (log : List SessionEvent)
    (acts : Relation.ReflTransGen (fun before later => Act before later ∧ Quiet before later) state
      after) : Relation.ReflTransGen Step ⟨log, state⟩ ⟨log, after⟩ := by
  induction acts with
  | refl => exact .refl
  | tail _ last ih => exact ih.tail (.quiet last.1 last.2)

/-- A task that gets the lock of a session at a stroke has come for it and is inside. -/
theorem happened_enters {first : SessionHistory τ} {id : String} {session : Session}
    {store : SessionStore} (happened : Relation.ReflTransGen Step first history)
    (idle : history.now.stage task = .idle)
    (granted : history.now.store.acquire id userId = (.granted guard session, store)) :
    Relation.ReflTransGen Step first
      ⟨.acquired id userId :: history.log, history.now.move task (.inside guard) store⟩ := by
  obtain ⟨place, stage, leads, after, acts⟩ := acquire_comes history.now task id userId
  have came : Step history ⟨.acquired id userId :: history.log, _⟩ := .comes idle leads
  rw [granted] at after acts
  cases after with
  | granted => exact (happened.tail came).trans (quiet_steps _ acts)

/-- The session of one user is searched in and deleted while it is used.  The next who comes is another user,
and to the first it is not there. -/
theorem session_of_second_comer : ∃ history : SessionHistory Nat,
    Relation.ReflTransGen Step .start history ∧ comers history.log "s" = ["v"] ∧
      {id | comers history.log id ≠ []}.encard = 1 ∧
      ∀ last, Conversation.execute {} Rehearsal.world false
        { userId := "u", sessionId := "s", text := "a" } history.now.store last =
          (.failed (Conversation.sessionNotFound "s"), history.now.store, last) := by
  have made : Relation.ReflTransGen Step .start ⟨_, SharedSessions.move _ 0 _ _⟩ :=
    happened_enters .refl rfl (rfl : SessionStore.acquire _ "s" "u" = _)
  have searched := made.tail (.changes (rfl : SharedSessions.stage _ 0 = .inside ⟨0⟩) rfl
    (.searched "rent" []))
  have deleted := searched.tail (.deletes "s")
  have remade : Relation.ReflTransGen Step .start ⟨_, SharedSessions.move _ 1 _ _⟩ :=
    happened_enters deleted rfl (rfl : SessionStore.acquire _ "s" "v" = _)
  have left := remade.tail (.quiet (.leave (rfl : SharedSessions.stage _ 1 = .inside ⟨1⟩))
    (quiet_move (unlocked_setLock _ _ false) nofun))
  obtain ⟨-, counted, -, -, turns⟩ := sessions_belong_to_first_comers left
  refine ⟨_, left, rfl, counted, fun last => (turns {} _ _ last "v" rfl rfl (by decide)).1 ?_⟩
  rw [busy_iff (reachable_and_recounts left).1.orderly]
  rintro ⟨place, leads, locked⟩
  cases leads
  cases locked

end SharedSessions

end NoteDialogue
