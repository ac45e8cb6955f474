import NoteDialogue.Json
import NoteDialogue.Text.LetterCase

/-!
# Exchanges with a server

An exchange posts requests one after the other, each of which depends on the replies before it, and
ends with a result.  Who carries the requests is left open: an exchange runs against any server that
answers from a state, and in any monad with a way of sending.
-/

set_option autoImplicit false

namespace NoteDialogue

/-- A request that posts a JSON body. -/
structure Request where
  url : String
  /-- The content of the header `Authorization`. -/
  authorization : Option String := none
  body : Json
  deriving Inhabited

/-- What comes back. -/
inductive Reply
  /-- The connection was closed without an answer. -/
  | dropped
  | answered (status : Nat) (headers : List (String × String)) (body : String)
  deriving Repr, Inhabited

namespace Reply

/-- The first header with a name in lower case. -/
def header? (name : String) (headers : List (String × String)) : Option String :=
  (headers.find? (fun header => Text.lowercase header.1 == name)).map (·.2)

end Reply

/-- A course of requests that ends with a result. -/
inductive Exchange (α : Type) : Type
  | done (result : α)
  | send (request : Request) (next : Reply → Exchange α)

namespace Exchange

variable {α β σ : Type}

/-- Go on with the result of an exchange. -/
def andThen (first : Exchange α) (next : α → Exchange β) : Exchange β :=
  match first with
  | .done result => next result
  | .send request rest => .send request (fun reply => (rest reply).andThen next)

instance : Monad Exchange where
  pure := .done
  bind := andThen

/-- Send one request. -/
def post (request : Request) : Exchange Reply :=
  .send request .done

/-- The result against a server that answers from a state, and the state after it. -/
def run (server : Request → σ → Reply × σ) : Exchange α → σ → α × σ
  | .done result, state => (result, state)
  | .send request next, state =>
      let (reply, after) := server request state
      (next reply).run server after

/-- The result with a way of sending. -/
def runIn {m : Type → Type} [Monad m] (send : Request → m Reply) : Exchange α → m α
  | .done result => pure result
  | .send request next => do (next (← send request)).runIn send

end Exchange

/-! ## Repeated attempts -/

/-- What one attempt comes to. -/
inductive Attempt (ε α : Type)
  | success (result : α)
  /-- A failure that another attempt may mend. -/
  | again (failure : ε)
  /-- A failure that is final. -/
  | final (failure : ε)
  deriving Inhabited

namespace Exchange

/-- Attempts until one succeeds or fails for good, with no more than so many after the first. -/
def attempts {ε α : Type} (once : Exchange (Attempt ε α)) : Nat → Exchange (Except ε α)
  | 0 => once.andThen (fun attempt =>
      match attempt with
      | .success result => .done (.ok result)
      | .again failure | .final failure => .done (.error failure))
  | retries + 1 => once.andThen (fun attempt =>
      match attempt with
      | .success result => .done (.ok result)
      | .again _ => attempts once retries
      | .final failure => .done (.error failure))

end Exchange

end NoteDialogue
