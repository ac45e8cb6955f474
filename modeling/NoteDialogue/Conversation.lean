import NoteDialogue.Session.Store
import NoteDialogue.Turn

/-!
# Conversations

Turns on the store of sessions.  A turn works on a copy of its session under the lock of the session and
the copy is kept only when the turn succeeds; a turn that fails, is broken off or crashes leaves every
session as it was.  A first turn makes its session even when it does not succeed.
-/

set_option autoImplicit false

namespace NoteDialogue

/-- How a request for a turn ends. -/
inductive TurnEnding
  | answered (result : TurnResult)
  | failed (failure : Failure)
  | crashed
  /-- Another turn of the conversation has not ended; this one has not begun. -/
  | waiting
  deriving Inhabited

/-- The result of a turn and the session to keep, or why there is none. -/
abbrev RunEnding := Ending (TurnResult × Session)

namespace Conversation

/-- The failure of a request to a session of another user. -/
def sessionNotFound (sessionId : String) : Failure :=
  .notFound ("Session " ++ sessionId)

/-- The ending of a turn that ran. -/
def endingOf : RunEnding → TurnEnding
  | .done (result, _) => .answered result
  | .failed failure => .failed failure
  | .crashed => .crashed
  | .brokenOff => .failed .cancelled

/-- The store after a turn that ran under a lock, which is given back. -/
def settle (store : SessionStore) (guard : SessionGuard) : RunEnding → SessionStore
  | .done (_, session) => (store.write guard session).release guard
  | .failed _ | .crashed | .brokenOff => store.release guard

/-- What comes of a request before its turn runs: an ending, or the lock of the session and the session
as it is. -/
inductive Entry
  | turnedAway (ending : TurnEnding)
  | entered (guard : SessionGuard) (session : Session)
  deriving Inhabited

/-- Why a request may not begin: it has problems, or it was called off. -/
def objection? (request : TurnRequest) (cancelled : Bool) : Option Failure :=
  match request.problems with
  | _ :: _ => some (.validation (RequestProblem.message request.problems))
  | [] => if cancelled then some .cancelled else none

/-- Take the lock for a request. -/
def enter (request : TurnRequest) (cancelled : Bool) (store : SessionStore) :
    Entry × SessionStore :=
  match objection? request cancelled with
  | some failure => (.turnedAway (.failed failure), store)
  | none =>
      match store.acquire request.sessionId request.userId with
      | (.blocked, store) => (.turnedAway .waiting, store)
      | (.refused, store) => (.turnedAway (.failed (sessionNotFound request.sessionId)), store)
      | (.granted guard session, store) => (.entered guard session, store)

/-- Run a turn in a world; `cancelled` says that it was called off before it began. -/
def execute {σ : Type} (config : Config) (world : World σ) (cancelled : Bool)
    (request : TurnRequest) (store : SessionStore) (state : σ) :
    TurnEnding × SessionStore × σ :=
  match enter request cancelled store with
  | (.turnedAway ending, store) => (ending, store, state)
  | (.entered guard session, store) =>
      let (ending, state) := (Turn.run config request session).run world state
      (endingOf ending, settle store guard ending, state)

end Conversation

end NoteDialogue
