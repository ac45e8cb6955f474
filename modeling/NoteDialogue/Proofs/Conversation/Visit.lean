import NoteDialogue.Proofs.Conversation
import NoteDialogue.Proofs.Session.Rest

/-!
# What a request does to its session

In a store at rest a request concerns the session under its identifier and nothing else.  What it does to
that session can be said without the store (`Conversation.visit`): it depends on the session that is found
there, if any, and on the world.  Running the request on the store does exactly this, and leaves the store
at rest (`execute_visits`).
-/

set_option autoImplicit false

namespace NoteDialogue

open Interaction

namespace Conversation

variable {σ : Type} {config : Config} {world : World σ} {cancelled : Bool} {request : TurnRequest}
  {store after : SessionStore} {state last : σ} {ending : TurnEnding}

/-- The session to keep after a turn of it. -/
def sessionAfter (session : Session) : RunEnding → Session
  | .done (_, committed) => committed
  | .failed _ | .crashed | .brokenOff => session

/-- What a request does when this is found under its identifier: how it ends, and what is found
afterwards. -/
def visit (config : Config) (world : World σ) (cancelled : Bool) (request : TurnRequest)
    (found : Option Session) (state : σ) : TurnEnding × Option Session × σ :=
  match objection? request cancelled with
  | some failure => (.failed failure, found, state)
  | none =>
      let session := found.getD (Session.start request.sessionId request.userId)
      if session.userId = request.userId then
        let (run, last) := (Turn.run config request session).run world state
        (endingOf run, some (sessionAfter session run), last)
      else (.failed (sessionNotFound request.sessionId), some session, state)

theorem visit_of_objection {failure : Failure} (objection : objection? request cancelled = some failure)
    (found : Option Session) :
    visit config world cancelled request found state = (.failed failure, found, state) := by
  rw [visit, objection]

theorem visit_of_foreign (fits : objection? request cancelled = none) {session : Session}
    (foreign : session.userId ≠ request.userId) :
    visit config world cancelled request (some session) state =
      (.failed (sessionNotFound request.sessionId), some session, state) := by
  rw [visit, fits]
  exact if_neg foreign

theorem visit_of_own (fits : objection? request cancelled = none) {found : Option Session}
    {session : Session} (entered : found.getD (Session.start request.sessionId request.userId) = session)
    (own : session.userId = request.userId) :
    visit config world cancelled request found state =
      (endingOf ((Turn.run config request session).run world state).1,
        some (sessionAfter session ((Turn.run config request session).run world state).1),
        ((Turn.run config request session).run world state).2) := by
  subst entered
  rw [visit, fits]
  exact if_pos own

/-- An answered request leaves the session that its turn gave. -/
theorem run_of_visit_answered {found stored : Option Session} {result : TurnResult}
    (visits : visit config world cancelled request found state = (.answered result, stored, last)) :
    ∃ committed, stored = some committed ∧
      (Turn.run config request
          (found.getD (Session.start request.sessionId request.userId))).run world state =
        (.done (result, committed), last) := by
  unfold visit at visits
  cases objects : objection? request cancelled with
  | some failure => simp [objects] at visits
  | none =>
      simp only [objects] at visits
      split at visits
      · rcases runs : (Turn.run config request
            (found.getD (Session.start request.sessionId request.userId))).run world state with
          ⟨⟨given, committed⟩ | failure | _ | _, after⟩ <;> rw [runs] at visits <;> cases visits
        exact ⟨committed, rfl, rfl⟩
      · cases visits

/-- A request without an answer leaves what was there, or a new session. -/
theorem stored_of_visit_unanswered {found stored : Option Session}
    (visits : visit config world cancelled request found state = (ending, stored, last))
    (unanswered : ∀ result, ending ≠ .answered result) :
    stored = found ∨
      stored = some (found.getD (Session.start request.sessionId request.userId)) := by
  unfold visit at visits
  cases objects : objection? request cancelled with
  | some failure =>
      simp only [objects] at visits
      cases visits
      exact .inl rfl
  | none =>
      simp only [objects] at visits
      split at visits
      · rcases runs : (Turn.run config request
            (found.getD (Session.start request.sessionId request.userId))).run world state with
          ⟨⟨given, committed⟩ | failure | _ | _, after⟩ <;> rw [runs] at visits <;> cases visits
        · exact absurd rfl (unanswered given)
        all_goals exact .inr rfl
      · cases visits
        exact .inr rfl

/-- What a turn writes is found under its identifier, and nothing else changes. -/
theorem keep_visits {opened : SessionStore} {id : String} {place : Nat} {slot : SessionSlot}
    (rest : opened.AtRest) (leads : opened.place? id = some place)
    (there : opened.slots[place]? = some slot) (isAt : slot.isAt id = true) (run : RunEnding) :
    (keep opened place run).session? id = some (sessionAfter slot.session run) ∧
      (keep opened place run).AtRest ∧
      ∀ other, other ≠ id → (keep opened place run).session? other = opened.session? other := by
  cases run with
  | done given =>
      have keeps : SessionStore.KeepsPlace (fun slot => { slot with session := given.2 }) :=
        fun _ => ⟨rfl, rfl⟩
      exact ⟨SessionStore.session?_write leads there, rest.write _ _,
        fun other different => SessionStore.session?_modifySlot_of_ne keeps there isAt different⟩
  | failed | crashed | brokenOff =>
      refine ⟨?_, rest, fun _ _ => rfl⟩
      exact rest.session?_of_mem (List.mem_of_getElem? there) isAt

/-- The session that a request enters in a store at rest is the one under its identifier, or a new one. -/
theorem session_of_enter (rest : store.AtRest) {guard : SessionGuard} {session : Session}
    {locked : SessionStore} (enters : enter request cancelled store = (.entered guard session, locked)) :
    (store.session? request.sessionId).getD (Session.start request.sessionId request.userId) =
      session := by
  have admitted := enter_admitted request cancelled store
  simp only [enters] at admitted
  cases admitted with
  | entered _ _ there isAt _ _ =>
      have openRest : (opened request store).AtRest := rest.ensure _ _
      have entered := openRest.session?_of_mem (List.mem_of_getElem? there) isAt
      rw [opened, SessionStore.session?_ensure] at entered
      exact Option.some.inj entered

theorem startingSession?_of_rest (rest : store.AtRest) {session : Session}
    (starts : startingSession? request cancelled store = some session) :
    (store.session? request.sessionId).getD (Session.start request.sessionId request.userId) =
      session := by
  obtain ⟨guard, locked, came⟩ := entered_of_starts starts
  exact session_of_enter rest came

/-- **A request on a store at rest visits the session under its identifier and no other.** -/
theorem execute_visits (rest : store.AtRest)
    (executes : execute config world cancelled request store state = (ending, after, last)) :
    visit config world cancelled request (store.session? request.sessionId) state =
        (ending, after.session? request.sessionId, last) ∧
      after.AtRest ∧
      ∀ other, other ≠ request.sessionId → after.session? other = store.session? other := by
  have admitted := enter_admitted request cancelled store
  rcases came : enter request cancelled store with ⟨early | ⟨guard, session⟩, changed⟩
  · rw [execute_of_turnedAway came] at executes
    simp only [came] at admitted
    cases executes
    cases admitted with
    | objected objection => exact ⟨visit_of_objection objection _, rest, fun _ _ => rfl⟩
    | waiting _ there _ held =>
        have free := rest.free _ there
        rw [held] at free
        cases free
    | refused fits there isAt foreign =>
        rw [rest.session?_of_mem there isAt]
        exact ⟨visit_of_foreign fits foreign, rest, fun _ _ => rfl⟩
  · rw [execute_of_entered came] at executes
    simp only [came] at admitted
    cases admitted with
    | @entered fits place slot leads there isAt free own =>
        rw [settle_lock there free] at executes
        cases executes
        have openRest : (opened request store).AtRest := rest.ensure _ _
        obtain ⟨stored, keptRest, others⟩ := keep_visits openRest leads there isAt
          ((Turn.run config request slot.session).run world state).1
        refine ⟨?_, keptRest, fun other different => ?_⟩
        · rw [visit_of_own fits (session_of_enter rest came) own, stored]
        · rw [others other different]
          exact SessionStore.session?_ensure_of_ne different

end Conversation

end NoteDialogue
