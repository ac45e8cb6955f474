import NoteDialogue.Conversation
import NoteDialogue.Proofs.Session.Store
import NoteDialogue.Proofs.Turn.Crash
import NoteDialogue.Rehearsal

/-!
# What a request does to the sessions

A request is objected to, waits, is refused, or enters the session to which its identifier leads
(`Admitted`).  A turn that is answered replaces that session, and every other ending leaves all
sessions alone: the most that is left of it is a new session of its own.  This holds in every world, so
at every point at which a collaborator fails, is late or breaks the turn off
(`execute_all_or_nothing`).

A turn is documented to end with an answer or a failure.  With a window of no turns it can also crash;
the theorem says exactly when.
-/

set_option autoImplicit false

namespace NoteDialogue

open Interaction

/-- The result of an answered request. -/
def TurnEnding.result? : TurnEnding → Option TurnResult
  | .answered result => some result
  | .failed _ | .crashed | .waiting => none

namespace Conversation

variable {σ : Type} {config : Config} {world : World σ} {cancelled : Bool} {request : TurnRequest}
  {store after : SessionStore} {state : σ}

/-! ## Entering a session -/

/-- The store after the first use of the identifier of a request. -/
def opened (request : TurnRequest) (store : SessionStore) : SessionStore :=
  store.ensure request.sessionId request.userId

/-- What comes of a request before its turn runs.  Only a request that enters changes the store: it takes
the lock of its session, which it makes if there is none. -/
inductive Admitted (request : TurnRequest) (cancelled : Bool) (store : SessionStore) :
    Entry → SessionStore → Prop where
  | objected {failure : Failure} (objection : objection? request cancelled = some failure) :
      Admitted request cancelled store (.turnedAway (.failed failure)) store
  | waiting (fits : objection? request cancelled = none) {slot : SessionSlot}
      (there : slot ∈ store.slots) (isAt : slot.isAt request.sessionId = true)
      (held : slot.held = true) : Admitted request cancelled store (.turnedAway .waiting) store
  | refused (fits : objection? request cancelled = none) {slot : SessionSlot}
      (there : slot ∈ store.slots) (isAt : slot.isAt request.sessionId = true)
      (foreign : slot.session.userId ≠ request.userId) :
      Admitted request cancelled store
        (.turnedAway (.failed (sessionNotFound request.sessionId))) store
  | entered (fits : objection? request cancelled = none) {place : Nat} {slot : SessionSlot}
      (leads : (opened request store).place? request.sessionId = some place)
      (there : (opened request store).slots[place]? = some slot)
      (isAt : slot.isAt request.sessionId = true) (free : slot.held = false)
      (own : slot.session.userId = request.userId) :
      Admitted request cancelled store (.entered ⟨place⟩ slot.session)
        ((opened request store).modifySlot place (fun slot => { slot with held := true }))

theorem enter_admitted (request : TurnRequest) (cancelled : Bool) (store : SessionStore) :
    Admitted request cancelled store (enter request cancelled store).1
      (enter request cancelled store).2 := by
  unfold enter
  cases objects : objection? request cancelled with
  | some failure => exact .objected objects
  | none =>
      obtain ⟨place, slot, leads, there, isAt, origin⟩ :=
        SessionStore.place?_ensure store request.sessionId request.userId
      unfold SessionStore.acquire
      simp only [leads, there]
      by_cases held : slot.held = true
      · simp only [if_pos held]
        rcases origin with same | ⟨-, rfl⟩
        · rw [same] at there ⊢
          exact .waiting objects (List.mem_of_getElem? there) isAt held
        · cases held
      · by_cases foreign : (slot.session.userId != request.userId) = true
        · simp only [if_neg held, if_pos foreign]
          rcases origin with same | ⟨-, rfl⟩
          · rw [same] at there ⊢
            exact .refused objects (List.mem_of_getElem? there) isAt (bne_iff_ne.mp foreign)
          · exact absurd rfl (bne_iff_ne.mp foreign)
        · simp only [if_neg held, if_neg foreign]
          have own : slot.session.userId = request.userId := by simpa using foreign
          exact .entered objects leads there isAt (Bool.eq_false_iff.mpr held) own

/-- The session on which the turn of a request runs, if it comes to run. -/
def startingSession? (request : TurnRequest) (cancelled : Bool) (store : SessionStore) :
    Option Session :=
  match (enter request cancelled store).1 with
  | .entered _ session => some session
  | .turnedAway _ => none

theorem entered_of_starts {session : Session}
    (starts : startingSession? request cancelled store = some session) :
    ∃ guard locked, enter request cancelled store = (.entered guard session, locked) := by
  unfold startingSession? at starts
  rcases came : enter request cancelled store with ⟨early | ⟨guard, given⟩, locked⟩
  · rw [came] at starts
    cases starts
  · rw [came] at starts
    cases starts
    exact ⟨guard, locked, rfl⟩

/-! ## Running a turn -/

/-- The store in which a turn found its session, after the turn: what the turn gives is written to its
place. -/
def keep (store : SessionStore) (place : Nat) : RunEnding → SessionStore
  | .done (_, session) => store.write ⟨place⟩ session
  | .failed _ | .crashed | .brokenOff => store

/-- Giving the lock back leaves nothing of it. -/
theorem settle_lock {place : Nat} {slot : SessionSlot} (there : store.slots[place]? = some slot)
    (free : slot.held = false) (ending : RunEnding) :
    settle (store.modifySlot place (fun slot => { slot with held := true })) ⟨place⟩ ending =
      keep store place ending := by
  cases ending with
  | done result => exact SessionStore.release_write_lock there free
  | failed | crashed | brokenOff => exact SessionStore.release_lock there free

/-- How a request ends: before its turn runs, or as the turn does. -/
inductive Executed (config : Config) (world : World σ) (cancelled : Bool) (request : TurnRequest)
    (store : SessionStore) (state : σ) (ending : TurnEnding) (after : SessionStore) (last : σ) :
    Prop where
  | turnedAway (admitted : Admitted request cancelled store (.turnedAway ending) after)
      (unchanged : after = store) (same : last = state)
      (none : startingSession? request cancelled store = none)
  | ran {place : Nat} {slot : SessionSlot}
      (starts : startingSession? request cancelled store = some slot.session)
      (leads : (opened request store).place? request.sessionId = some place)
      (there : (opened request store).slots[place]? = some slot)
      (isAt : slot.isAt request.sessionId = true) {run : RunEnding}
      (runs : (Turn.run config request slot.session).run world state = (run, last))
      (ends : ending = endingOf run) (kept : after = keep (opened request store) place run)

theorem execute_of_turnedAway {ending : TurnEnding}
    (turned : enter request cancelled store = (.turnedAway ending, after)) :
    execute config world cancelled request store state = (ending, after, state) := by
  rw [execute, turned]

theorem execute_of_entered {guard : SessionGuard} {session : Session} {locked : SessionStore}
    (entered : enter request cancelled store = (.entered guard session, locked)) :
    execute config world cancelled request store state =
      (endingOf ((Turn.run config request session).run world state).1,
        settle locked guard ((Turn.run config request session).run world state).1,
        ((Turn.run config request session).run world state).2) := by
  rw [execute, entered]

theorem executed_of_execute {ending : TurnEnding} {last : σ}
    (executes : execute config world cancelled request store state = (ending, after, last)) :
    Executed config world cancelled request store state ending after last := by
  have admitted := enter_admitted request cancelled store
  rcases came : enter request cancelled store with ⟨early | ⟨guard, session⟩, changed⟩
  · simp only [came] at admitted
    rw [execute_of_turnedAway came] at executes
    cases executes
    have none : startingSession? request cancelled store = none := by
      rw [startingSession?, came]
    refine .turnedAway admitted ?_ rfl none
    cases admitted <;> rfl
  · simp only [came] at admitted
    rw [execute_of_entered came] at executes
    have starts : startingSession? request cancelled store = some session := by
      rw [startingSession?, came]
    cases admitted with
    | entered fits leads there isAt free own =>
        rw [settle_lock there free] at executes
        cases executes
        exact .ran starts leads there isAt rfl rfl rfl

/-- A request that is turned away, or a turn without an answer, leaves at most a new session. -/
theorem atMostStarted_of_unanswered {ending : TurnEnding} {last : σ}
    (executes : execute config world cancelled request store state = (ending, after, last))
    (unanswered : ∀ result, ending ≠ .answered result) :
    store.AtMostStarted request.sessionId request.userId after := by
  cases executed_of_execute executes with
  | turnedAway _ unchanged => exact .inl unchanged
  | @ran _ _ _ _ _ _ run _ ends kept =>
      subst kept
      cases run with
      | done kept => exact absurd ends (unanswered kept.1)
      | failed | crashed | brokenOff => exact SessionStore.atMostStarted_ensure _ _ _

/-- An answered turn replaces the session on which it ran. -/
theorem replaced_of_answered {result : TurnResult} {last : σ}
    (executes : execute config world cancelled request store state =
      (.answered result, after, last)) :
    ∃ session committed, startingSession? request cancelled store = some session ∧
      (Turn.run config request session).run world state = (.done (result, committed), last) ∧
      session.SameOwner committed ∧
      store.Replaced request.sessionId request.userId committed after := by
  cases executed_of_execute executes with
  | turnedAway admitted => cases admitted
  | @ran place slot starts leads there isAt run runs ends kept =>
      cases run with
      | failed | crashed | brokenOff => cases ends
      | done given =>
          obtain ⟨_, committed⟩ := given
          cases ends
          subst kept
          obtain ⟨course, taken, -⟩ :=
            run_recorded world (Turn.run config request slot.session) state []
          rw [runs] at taken
          exact ⟨slot.session, committed, starts, runs, Turn.sameOwner_of_run taken,
            SessionStore.write_replaces leads there isAt committed⟩

/-- A request that is objected to does nothing. -/
theorem execute_of_objection {failure : Failure}
    (objection : objection? request cancelled = some failure) :
    execute config world cancelled request store state = (.failed failure, store, state) :=
  execute_of_turnedAway (by rw [enter, objection])

theorem exists_objection (unfit : request.problems ≠ [] ∨ cancelled = true) :
    ∃ failure, objection? request cancelled = some failure := by
  unfold objection?
  cases problems : request.problems with
  | cons first rest => exact ⟨_, rfl⟩
  | nil =>
      have wasCancelled : cancelled = true := unfit.resolve_left fun some => some problems
      exact ⟨.cancelled, if_pos wasCancelled⟩

theorem kept_of_waiting {last : σ}
    (executes : execute config world cancelled request store state = (.waiting, after, last)) :
    after = store := by
  cases executed_of_execute executes with
  | turnedAway _ unchanged => exact unchanged
  | @ran _ _ _ _ _ _ run _ ends => cases run <;> cases ends

/-- A request crashes exactly when the turn that it runs does. -/
theorem crashed_iff {ending : TurnEnding} {last : σ}
    (executes : execute config world cancelled request store state = (ending, after, last)) :
    ending = .crashed ↔
      ∃ session, startingSession? request cancelled store = some session ∧
        ((Turn.run config request session).run world state).1 = .crashed := by
  cases executed_of_execute executes with
  | turnedAway admitted _ _ none =>
      rw [none]
      constructor
      · rintro rfl
        cases admitted
      · rintro ⟨session, starts, -⟩
        cases starts
  | @ran _ slot starts _ _ _ run runs ends =>
      rw [starts, ends]
      simp only [Option.some.injEq, exists_eq_left', runs]
      cases run <;> simp [endingOf]

/-- A turn that is called off while it runs ends as called off, or as it would have ended. -/
theorem cutShort_cases {ending cutEnding : TurnEnding} {cutAfter : SessionStore} {last : σ}
    {cutLast : σ × Nat} {answers : Nat}
    (executes : execute config world cancelled request store state = (ending, after, last))
    (cut : execute config world.cutShort cancelled request store (state, answers) =
      (cutEnding, cutAfter, cutLast)) :
    (cutEnding = .failed .cancelled ∧
        store.AtMostStarted request.sessionId request.userId cutAfter) ∨
      (cutEnding = ending ∧ cutAfter = after) := by
  rcases came : enter request cancelled store with ⟨early | ⟨guard, session⟩, changed⟩
  · rw [execute_of_turnedAway came] at executes cut
    cases executes
    cases cut
    exact .inr ⟨rfl, rfl⟩
  · rcases run_cutShort world (Turn.run config request session) state answers with broken | same
    · have ended : cutEnding = .failed .cancelled := by
        have shown := congrArg Prod.fst cut
        rw [execute_of_entered came, broken] at shown
        exact shown.symm
      refine .inl ⟨ended, atMostStarted_of_unanswered cut fun result => ?_⟩
      rw [ended]
      exact nofun
    · rw [execute_of_entered came] at executes cut
      rw [same] at cut
      cases executes
      cases cut
      exact .inr ⟨rfl, rfl⟩

/-! ## All or nothing -/

/-- **A turn is kept as a whole or not at all.**  An answered turn replaces the session of its identifier
by the one that it gives, and nothing else.  Every other ending leaves at most a new session of its own;
a request that has problems or was called off in advance, and one that waits, leave nothing.  A request
crashes exactly when a session is entered, the style and the references are looked up, and the turn
lacks the window of earlier messages.  A turn that is called off while it runs ends as called off, or
exactly as it would have ended. -/
theorem execute_all_or_nothing (config : Config) (world : World σ) (cancelled : Bool)
    (request : TurnRequest) (store : SessionStore) (state : σ) :
    ∃ ending after last,
      execute config world cancelled request store state = (ending, after, last) ∧
      (∀ result, ending = .answered result →
        ∃ session committed, startingSession? request cancelled store = some session ∧
          (Turn.run config request session).run world state = (.done (result, committed), last) ∧
          session.SameOwner committed ∧
          store.Replaced request.sessionId request.userId committed after) ∧
      ((∀ result, ending ≠ .answered result) →
        store.AtMostStarted request.sessionId request.userId after) ∧
      (request.problems ≠ [] ∨ cancelled = true →
        (∃ failure, ending = .failed failure) ∧ after = store) ∧
      (ending = .waiting → after = store) ∧
      (ending = .crashed ↔
        ∃ session selected references prepared,
          startingSession? request cancelled store = some session ∧
          (Turn.prepare config request session).run world state =
            (.done (selected, references), prepared) ∧
          Turn.LacksWindow config request selected references) ∧
      (∀ answers, ∃ cutEnding cutAfter cutLast,
        execute config world.cutShort cancelled request store (state, answers) =
          (cutEnding, cutAfter, cutLast) ∧
        ((cutEnding = .failed .cancelled ∧
            store.AtMostStarted request.sessionId request.userId cutAfter) ∨
          (cutEnding = ending ∧ cutAfter = after))) := by
  rcases executes : execute config world cancelled request store state with ⟨ending, after, last⟩
  refine ⟨ending, after, last, rfl, ?_, atMostStarted_of_unanswered executes, ?_, ?_, ?_, ?_⟩
  · rintro result rfl
    exact replaced_of_answered executes
  · intro unfit
    obtain ⟨failure, objection⟩ := exists_objection unfit
    rw [execute_of_objection objection] at executes
    cases executes
    exact ⟨⟨failure, rfl⟩, rfl⟩
  · rintro rfl
    exact kept_of_waiting executes
  · rw [crashed_iff executes]
    constructor
    · rintro ⟨session, starts, crashed⟩
      obtain ⟨selected, references, prepared, prepares, lacks⟩ :=
        (Turn.run_crashed_iff world state).mp crashed
      exact ⟨session, selected, references, prepared, starts, prepares, lacks⟩
    · rintro ⟨session, selected, references, prepared, starts, prepares, lacks⟩
      exact ⟨session, starts, (Turn.run_crashed_iff world state).mpr
        ⟨selected, references, prepared, prepares, lacks⟩⟩
  · intro answers
    rcases cut : execute config world.cutShort cancelled request store (state, answers) with
      ⟨cutEnding, cutAfter, cutLast⟩
    exact ⟨cutEnding, cutAfter, cutLast, rfl, cutShort_cases executes cut⟩

/-- With a window of no turns one earlier message of the user is enough for a crash. -/
example :
    (match (execute { turn := { historyTurns := 0 } } Rehearsal.world false
      { userId := "u", sessionId := "s", text := "a", history := [Message.user "b"] } {}
      { archive := Archive.empty 1 }).1 with
    | .crashed => true
    | _ => false) = true := by decide +kernel

end Conversation

end NoteDialogue
