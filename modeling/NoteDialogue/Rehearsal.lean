import NoteDialogue.Archive
import NoteDialogue.Embedding.InputStyle
import NoteDialogue.Text.Passage

/-!
# Rehearsals

A world that follows a script, for trying out conversations without a provider.  The model says its
lines in order and a stock phrase when it has run out of them; texts are embedded by counting words of
a vocabulary.  Either may be told to fail or to take its time, and the ways of looking up notes and
styles may be told to fail.

Time passes only as the script says.  An answer that takes longer than it may comes too late, and a
course is broken off when more time has passed than it has.
-/

set_option autoImplicit false

namespace NoteDialogue

/-- A line of the model or a cue of the embedder: how long it takes and what comes of it. -/
structure Cue (α : Type) where
  delay : Nat := 0
  outcome : Except Failure α
  deriving Inhabited

/-- A call of the model. -/
structure GenerationCall where
  messages : List Message
  options : GenerationOptions
  deriving Inhabited

/-- A text that was embedded. -/
structure EmbeddingCall where
  purpose : EmbeddingPurpose
  text : String
  deriving DecidableEq, Repr, Inhabited

/-- How a rehearsed embedder works. -/
structure WordCounter where
  /-- The words that are counted. -/
  vocabulary : List String := []
  /-- What follows the counts. -/
  bias : Float32 := 0.125
  /-- The embeddings of some texts. -/
  fixed : List (String × Vector32) := []
  deriving Inhabited

namespace WordCounter

/-- The embedding of a text: how often each word of the vocabulary occurs in it. -/
def embed (counter : WordCounter) (text : String) : Vector32 :=
  match counter.fixed.find? (fun entry => entry.1 == text) with
  | some entry => entry.2
  | none =>
      let lowered := Text.lowercase text
      counter.vocabulary.map (fun word => Numeral.singleOfNat (Text.occurrences lowered word)) ++
        [counter.bias]

end WordCounter

/-- The ways of looking up notes and styles that are told to fail. -/
structure LookupFailures where
  byId : Option Failure := none
  byTitle : Option Failure := none
  byText : Option Failure := none
  byTerms : Option Failure := none
  bySimilarity : Option Failure := none
  style : Option Failure := none
  deriving Inhabited

/-- A script and what has been said so far. -/
structure Rehearsal where
  archive : Archive
  lines : List (Cue String) := []
  counter : WordCounter := {}
  cues : List (Cue Unit) := []
  /-- The embeddings that are lost at the end of every batch. -/
  lostEmbeddings : Nat := 0
  failures : LookupFailures := {}
  /-- Notes that cannot be looked up by their identifier. -/
  ghosts : List String := []
  /-- The time that has passed, in thousandths of a second. -/
  elapsed : Nat := 0
  /-- The time that the course has. -/
  cancelAfter : Option Nat := none
  generations : List GenerationCall := []
  embeddings : List EmbeddingCall := []
  deriving Inhabited

namespace Rehearsal

/-- What the model says when it has run out of lines. -/
def stockPhrase : String := "scripted reply"

/-- A new course with so much time, of which nothing has been recorded. -/
def begin (rehearsal : Rehearsal) (cancelAfter : Option Nat) : Rehearsal :=
  { rehearsal with elapsed := 0, cancelAfter, generations := [], embeddings := [] }

/-- Whether more time has passed than the course has. -/
def isOver (rehearsal : Rehearsal) : Bool :=
  match rehearsal.cancelAfter with
  | some limit => limit < rehearsal.elapsed
  | none => false

/-- An answer that takes some time, which may be limited to a number of seconds. -/
def within {α : Type} (rehearsal : Rehearsal) (limit delay : Nat) (outcome : Except Failure α) :
    TimedAnswer α × Rehearsal :=
  if limit * 1000 < delay then
    (.late, { rehearsal with elapsed := rehearsal.elapsed + limit * 1000 })
  else (.inTime outcome, { rehearsal with elapsed := rehearsal.elapsed + delay })

/-- The next line of the model. -/
def nextLine (rehearsal : Rehearsal) : Cue String × Rehearsal :=
  match rehearsal.lines with
  | [] => ({ outcome := .ok stockPhrase }, rehearsal)
  | line :: rest => (line, { rehearsal with lines := rest })

/-- The next cue of the embedder. -/
def nextCue (rehearsal : Rehearsal) : Cue Unit × Rehearsal :=
  match rehearsal.cues with
  | [] => ({ outcome := .ok () }, rehearsal)
  | cue :: rest => (cue, { rehearsal with cues := rest })

/-- One call of the model. -/
def generate (rehearsal : Rehearsal) (call : GenerationCall) (limit : Nat) :
    TimedAnswer String × Rehearsal :=
  let recorded := { rehearsal with generations := rehearsal.generations ++ [call] }
  let (line, rest) := recorded.nextLine
  rest.within limit line.delay line.outcome

/-- One call of the embedder: what comes of it and how long it takes. -/
def embed (rehearsal : Rehearsal) (call : EmbeddingCall) : Cue Vector32 × Rehearsal :=
  let recorded := { rehearsal with embeddings := rehearsal.embeddings ++ [call] }
  let (cue, rest) := recorded.nextCue
  ({ delay := cue.delay, outcome := cue.outcome.map (fun _ => rehearsal.counter.embed call.text) },
    rest)

/-- Some passages, embedded one after the other up to the first failure. -/
def embedPassages (rehearsal : Rehearsal) : List String → Except Failure (List Vector32) × Rehearsal
  | [] => (.ok [], rehearsal)
  | passage :: rest =>
      let (cue, after) := rehearsal.embed ⟨.document, passage⟩
      let passed := { after with elapsed := after.elapsed + cue.delay }
      match cue.outcome with
      | .error failure => (.error failure, passed)
      | .ok embedding =>
          let (others, last) := passed.embedPassages rest
          (others.map (embedding :: ·), last)

/-- An answer that may be told to be a failure. -/
def orFailure {α : Type} (told : Option Failure) (answer : Except Failure α) : Except Failure α :=
  match told with
  | some failure => .error failure
  | none => answer

/-- An answer of the archive, changed as the script says. -/
def spoil (rehearsal : Rehearsal) : (lookup : Lookup) → lookup.Answer → lookup.Answer
  | .setting _, answer => answer
  | .recollect _, answer => answer
  | .remember _ _, answer => answer
  | .style _, answer => orFailure (α := Option Style) rehearsal.failures.style answer
  | .noteById _ noteId, answer =>
      orFailure (α := Option Note) rehearsal.failures.byId
        (if rehearsal.ghosts.contains noteId then .ok none else answer)
  | .notesByTitle _ _, answer => orFailure (α := List Note) rehearsal.failures.byTitle answer
  | .notesByText _ _ _, answer => orFailure (α := List Note) rehearsal.failures.byText answer
  | .notesByTerms _ _ _ _, answer => orFailure (α := List Note) rehearsal.failures.byTerms answer
  | .similarChunks _ _ _ _, answer =>
      orFailure (α := List ChunkHit) rehearsal.failures.bySimilarity answer

/-- The answer to a question, before it is known whether time is up. -/
def answer (rehearsal : Rehearsal) : (question : Ask) → question.Answer × Rehearsal
  | .generate _ messages options limit => rehearsal.generate ⟨messages, options⟩ limit
  | .embedQuery query limit =>
      let (cue, after) := rehearsal.embed ⟨.query, query⟩
      after.within limit cue.delay cue.outcome
  | .embedPassages passages =>
      let (embeddings, after) := rehearsal.embedPassages passages
      (embeddings.map (fun all => all.take (all.length - rehearsal.lostEmbeddings)), after)
  | .lookUp lookup =>
      let (answer, archive) := rehearsal.archive.answer lookup
      (rehearsal.spoil lookup answer, { rehearsal with archive })

/-- The world of a rehearsal. -/
def world : World Rehearsal where
  answer question rehearsal :=
    let (answer, after) := rehearsal.answer question
    if after.isOver then (none, after) else (some answer, after)

end Rehearsal

end NoteDialogue
