import NoteDialogue.Failure
import NoteDialogue.Message
import NoteDialogue.Note
import NoteDialogue.Notes.Similarity
import NoteDialogue.Query
import NoteDialogue.Style

/-!
# Interactions

A turn asks things of the world around it: text of a model and an embedding, which a provider has to
give, and notes, styles, live settings and remembered embeddings, which the program holds itself.  An
interaction is such a course of questions, each of which depends on the answers before it, with a
result, a failure or a crash at its end.

Nothing is said here about who answers.  A world answers one question at a time from a state of its
own, and may also break the course off; running an interaction in a world gives its ending and the
state in which it leaves the world.  What holds for every world holds for every behaviour of the
model, the embedder and the stores.
-/

set_option autoImplicit false

namespace NoteDialogue

/-- What may be asked of a model beside the messages. -/
structure GenerationOptions where
  /-- The model, when it is not the configured one. -/
  model : Option String := none
  temperature : Option Float32 := none
  maxTokens : Option Nat := none
  deriving Inhabited

/-- What text is asked of a model for. -/
inductive GenerationPurpose
  /-- To decide what a turn calls for. -/
  | planning
  /-- To reply to the user. -/
  | answering
  deriving DecidableEq, Repr, Inhabited

/-- An answer that may fail, or not come in time. -/
inductive TimedAnswer (α : Type)
  | inTime (answer : Except Failure α)
  | late
  deriving Inhabited

/-- What can be looked up in what the program holds itself. -/
inductive Lookup
  /-- The style with a key. -/
  | style (key : String)
  /-- The live setting under a name. -/
  | setting (name : String)
  /-- The remembered embedding of a query. -/
  | recollect (query : String)
  /-- That the embedding of a query be remembered. -/
  | remember (query : String) (embedding : Vector32)
  /-- The note of an owner with an identifier. -/
  | noteById (ownerId noteId : String)
  /-- The notes of an owner with a title. -/
  | notesByTitle (ownerId title : String)
  /-- The notes of an owner that match a text. -/
  | notesByText (ownerId text : String) (limit : Nat)
  /-- The notes of an owner that hold some terms, within a restriction. -/
  | notesByTerms (ownerId terms : String) (filter : NoteFilter) (limit : Nat)
  /-- The stretches of an owner's notes that are similar to an embedding. -/
  | similarChunks (ownerId : String) (embedding : Vector32) (limit : Nat) (threshold : Float32)

/-- What looking something up gives. -/
def Lookup.Answer : Lookup → Type
  | .style _ => Except Failure (Option Style)
  | .setting _ => Option String
  | .recollect _ => Option Vector32
  | .remember _ _ => Unit
  | .noteById _ _ => Except Failure (Option Note)
  | .notesByTitle _ _ => Except Failure (List Note)
  | .notesByText _ _ _ => Except Failure (List Note)
  | .notesByTerms _ _ _ _ => Except Failure (List Note)
  | .similarChunks _ _ _ _ => Except Failure (List ChunkHit)

/-- What can be asked: something of a provider, or something that the program holds.  Limits of time are
in seconds. -/
inductive Ask
  /-- The next message of a conversation. -/
  | generate (purpose : GenerationPurpose) (messages : List Message) (options : GenerationOptions)
      (limit : Nat)
  /-- The embedding of a query. -/
  | embedQuery (query : String) (limit : Nat)
  /-- The embeddings of some passages of notes, in order. -/
  | embedPassages (passages : List String)
  /-- Something that the program holds. -/
  | lookUp (lookup : Lookup)

/-- The answers to a question. -/
def Ask.Answer : Ask → Type
  | .generate _ _ _ _ => TimedAnswer String
  | .embedQuery _ _ => TimedAnswer Vector32
  | .embedPassages _ => Except Failure (List Vector32)
  | .lookUp lookup => lookup.Answer

/-- A course of questions that ends with a result, a failure or a crash. -/
inductive Interaction (α : Type) : Type
  | done (result : α)
  | failed (failure : Failure)
  | crashed
  | ask (question : Ask) (next : question.Answer → Interaction α)

namespace Interaction

variable {α β : Type}

/-- Go on with the result of an interaction; a failure or a crash ends the course. -/
def andThen (first : Interaction α) (next : α → Interaction β) : Interaction β :=
  match first with
  | .done result => next result
  | .failed failure => .failed failure
  | .crashed => .crashed
  | .ask question rest => .ask question (fun answer => (rest answer).andThen next)

instance : Monad Interaction where
  pure := .done
  bind := andThen

/-- Ask one question. -/
def request (question : Ask) : Interaction question.Answer :=
  .ask question .done

/-- Look something up. -/
def lookUp (lookup : Lookup) : Interaction lookup.Answer :=
  .ask (.lookUp lookup) .done

/-- The result in hand, or its failure. -/
def ofExcept : Except Failure α → Interaction α
  | .ok result => .done result
  | .error failure => .failed failure

/-- A failure as a result. -/
def attempt : Interaction α → Interaction (Except Failure α)
  | .done result => .done (.ok result)
  | .failed failure => .done (.error failure)
  | .crashed => .crashed
  | .ask question rest => .ask question (fun answer => (rest answer).attempt)

/-- The results of an interaction for each item of a list, in order. -/
def forEach (action : α → Interaction β) : List α → Interaction (List β)
  | [] => .done []
  | item :: rest =>
      (action item).andThen (fun result =>
        (forEach action rest).andThen (fun results => .done (result :: results)))

end Interaction

/-! ## Worlds -/

/-- A way of answering questions from a state.  Without an answer the course is broken off. -/
structure World (σ : Type) where
  answer : (question : Ask) → σ → Option question.Answer × σ

/-- How a course ends. -/
inductive Ending (α : Type)
  | done (result : α)
  | failed (failure : Failure)
  | crashed
  | brokenOff
  deriving Inhabited

namespace Interaction

variable {α σ : Type}

/-- The ending of an interaction in a world, and the state in which it leaves the world. -/
def run (world : World σ) : Interaction α → σ → Ending α × σ
  | .done result, state => (.done result, state)
  | .failed failure, state => (.failed failure, state)
  | .crashed, state => (.crashed, state)
  | .ask question next, state =>
      match world.answer question state with
      | (some answer, after) => (next answer).run world after
      | (none, after) => (.brokenOff, after)

end Interaction

end NoteDialogue
