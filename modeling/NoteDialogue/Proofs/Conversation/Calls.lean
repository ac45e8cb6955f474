import NoteDialogue.Proofs.Conversation.Visit

/-!
# Calls one after the other

Those who converse make calls: they take turns, and they end sessions.  A call brings along a part of the
world that is its own, such as how long it may take; the other part is shared and passed on from call to
call.  Serving calls gives a report on each, with the session that is then kept under its identifier, and
everything that was asked on the way (`Conversation.serve`).

On a store at rest a call visits the session under its identifier and no other (`serveOne_visits`).
-/

set_option autoImplicit false

namespace NoteDialogue

/-- A call, with its own part of the world. -/
inductive Call (τ : Type)
  /-- A turn, which may have been called off before it begins. -/
  | turn (request : TurnRequest) (cancelled : Bool) (own : τ)
  /-- The end of a session. -/
  | ended (id : String)

namespace Call

variable {τ : Type}

/-- The identifier of the session that a call is about. -/
def sessionId : Call τ → String
  | .turn request _ _ => request.sessionId
  | .ended id => id

/-- Whether a call, if it is a turn, is made by a user. -/
def IsBy (userId : String) : Call τ → Prop
  | .turn request _ _ => request.userId = userId
  | .ended _ => True

end Call

/-- How a call ends. -/
inductive CallEnding
  | turn (ending : TurnEnding)
  | ended (existed : Bool)

/-- What can be told of a call: how it ended, and the session that is kept under its identifier then. -/
structure Report (τ : Type) where
  call : Call τ
  ending : CallEnding
  stored : Option Session

/-- What comes of some calls, and what was asked on the way. -/
structure Service (τ σ : Type) where
  reports : List (Report τ)
  course : Course
  store : SessionStore
  shared : σ

/-- What comes of some calls and, after them, of others. -/
def Service.followedBy {τ σ : Type} (early late : Service τ σ) : Service τ σ :=
  ⟨early.reports ++ late.reports, early.course ++ late.course, late.store, late.shared⟩

namespace Conversation

variable {τ σ : Type} {config : Config} {world : World (τ × σ)} {call : Call τ}
  {store : SessionStore} {shared : σ}

/-- Serve one call. -/
def serveOne (config : Config) (world : World (τ × σ)) (call : Call τ) (store : SessionStore)
    (shared : σ) : Service τ σ :=
  match call with
  | .turn request cancelled own =>
      let (ending, after, (_, last), course) :=
        execute config world.recorded cancelled request store ((own, shared), [])
      ⟨[⟨call, .turn ending, after.session? request.sessionId⟩], course, after, last⟩
  | .ended id =>
      let (existed, after) := store.delete id
      ⟨[⟨call, .ended existed, after.session? id⟩], [], after, shared⟩

/-- Serve calls one after the other. -/
def serve (config : Config) (world : World (τ × σ)) :
    List (Call τ) → SessionStore → σ → Service τ σ
  | [], store, shared => ⟨[], [], store, shared⟩
  | call :: rest, store, shared =>
      let first := serveOne config world call store shared
      first.followedBy (serve config world rest first.store first.shared)

theorem serve_append (first second : List (Call τ)) :
    serve config world (first ++ second) store shared =
      (serve config world first store shared).followedBy
        (serve config world second (serve config world first store shared).store
          (serve config world first store shared).shared) := by
  induction first generalizing store shared with
  | nil => rfl
  | cons call rest ih =>
      simp only [List.cons_append, serve, ih, Service.followedBy, List.append_assoc]

/-! ## Calls on a store at rest -/

/-- What a call does when this is found under its identifier. -/
structure Visit (σ : Type) where
  ending : CallEnding
  stored : Option Session
  course : Course
  shared : σ

/-- What comes of a call when this is found under its identifier. -/
def visitOne (config : Config) (world : World (τ × σ)) (call : Call τ) (found : Option Session)
    (shared : σ) : Visit σ :=
  match call with
  | .turn request cancelled own =>
      let (ending, stored, (_, last), course) :=
        visit config world.recorded cancelled request found ((own, shared), [])
      ⟨.turn ending, stored, course, last⟩
  | .ended _ => ⟨.ended found.isSome, none, [], shared⟩

/-- What serving a call comes to, given what it does to the session under its identifier. -/
structure Serves (call : Call τ) (store : SessionStore) (seen : Visit σ) (served : Service τ σ) :
    Prop where
  reports : served.reports = [⟨call, seen.ending, seen.stored⟩]
  course : served.course = seen.course
  shared : served.shared = seen.shared
  stored : served.store.session? call.sessionId = seen.stored
  rest : served.store.AtRest
  others : ∀ other, other ≠ call.sessionId → served.store.session? other = store.session? other

/-- **On a store at rest a call visits the session under its identifier and no other.** -/
theorem serveOne_visits (config : Config) (world : World (τ × σ)) (call : Call τ) (rest : store.AtRest)
    (shared : σ) :
    Serves call store (visitOne config world call (store.session? call.sessionId) shared)
      (serveOne config world call store shared) := by
  cases call with
  | turn request cancelled own =>
      rcases executes : execute config world.recorded cancelled request store ((own, shared), []) with
        ⟨ending, after, ⟨changed, last⟩, course⟩
      obtain ⟨visits, afterRest, others⟩ := execute_visits rest executes
      simp only [serveOne, executes, visitOne, Call.sessionId, visits]
      exact ⟨rfl, rfl, rfl, rfl, afterRest, others⟩
  | ended id =>
      have gone := rest.session?_delete id
      refine ⟨?_, rfl, rfl, gone, rest.delete id, fun other different => ?_⟩
      · simp only [serveOne, visitOne, Call.sessionId, gone, store.delete_fst]
      · exact SessionStore.session?_delete_of_ne different

/-- A turn on a store at rest is a visit to the session under its identifier. -/
theorem serveOne_turn_visits (config : Config) (world : World (τ × σ)) (request : TurnRequest)
    (cancelled : Bool) (own : τ) (rest : store.AtRest) (shared : σ) :
    ∃ ending stored last course,
      visit config world.recorded cancelled request (store.session? request.sessionId)
          ((own, shared), []) = (ending, stored, last, course) ∧
      Serves (.turn request cancelled own) store ⟨.turn ending, stored, course, last.2⟩
        (serveOne config world (.turn request cancelled own) store shared) := by
  have serves := serveOne_visits config world (.turn request cancelled own) rest shared
  rcases visits : visit config world.recorded cancelled request (store.session? request.sessionId)
      ((own, shared), []) with ⟨ending, stored, ⟨ownLast, last⟩, course⟩
  simp only [Call.sessionId, visitOne, visits] at serves
  exact ⟨ending, stored, (ownLast, last), course, rfl, serves⟩

end Conversation

end NoteDialogue
