import NoteDialogue.Mode
import NoteDialogue.Note
import NoteDialogue.Plan

/-!
# Sessions

What a conversation remembers between turns: the notes that the last search found, the note or notes
it is centred on, and the mode that stays in force.  The candidates and the focus change only by
recording a search and by applying an action; an action that does not fit is refused and leaves the
session as it is.

The notes that ground an answer, the scope, are a function of the session: the focused note alone, or
all candidates.  Nothing depends on the times at which a session was made and changed, so that only its
written form has them.
-/

set_option autoImplicit false

namespace NoteDialogue

/-- How far a conversation has come. -/
inductive SessionState
  /-- No notes have been found. -/
  | initial
  /-- Notes were found and none is picked. -/
  | hasCandidates
  /-- One note is in focus. -/
  | focused
  /-- An answer was given from the focus. -/
  | answered
  deriving DecidableEq, Repr, Inhabited

/-- What a conversation is centred on. -/
inductive Focus
  | note (document : Document)
  /-- All candidates together. -/
  | aggregated
  deriving Inhabited

/-- The memory of one conversation. -/
structure Session where
  id : String
  userId : String
  state : SessionState := .initial
  candidates : List Document := []
  focus : Option Focus := none
  /-- The mode that stays in force for turns that name none. -/
  stickyMode : Option ModeSelection := none
  lastQuery : Option String := none
  deriving Inhabited

/-- Why an action does not fit a session. -/
inductive TransitionError
  | indexOutOfRange (index count : Nat)
  | missingFocus (action : ActionKind)
  | noCandidates (action : ActionKind)
  | searchWithoutResults
  deriving DecidableEq, Repr

namespace SessionState

/-- The written form. -/
def name : SessionState → String
  | .initial => "initial"
  | .hasCandidates => "has_candidates"
  | .focused => "focused"
  | .answered => "answered"

/-- The state with this written form. -/
def ofName? (written : String) : Option SessionState :=
  [SessionState.initial, .hasCandidates, .focused, .answered].find? (fun state =>
    state.name == written)

end SessionState

namespace Focus

/-- The identifier of the focus; all candidates together have one of their own. -/
def id : Focus → String
  | .note document => document.id
  | .aggregated => "aggregated"

/-- The focused note. -/
def document? : Focus → Option Document
  | .note document => some document
  | .aggregated => none

end Focus

namespace TransitionError

/-- The message of a refused action. -/
def message : TransitionError → String
  | .indexOutOfRange index count =>
      "target index " ++ toString index ++ " is out of range for " ++ toString count ++ " candidates"
  | .missingFocus action => action.name ++ " requires a focused note"
  | .noCandidates action => action.name ++ " requires candidates"
  | .searchWithoutResults => "SEARCH results must be recorded with the retrieved documents"

end TransitionError

namespace Session

/-- The session of a new conversation. -/
def start (id userId : String) : Session := { id, userId }

/-- The session after a search found these notes; finding none returns it to the start. -/
def recordSearch (session : Session) (query : String) (documents : List Document) : Session :=
  { session with
    state := if documents.isEmpty then .initial else .hasCandidates
    candidates := documents
    focus := none
    lastQuery := some query }

/-- The candidate with an index. -/
def candidate (session : Session) (index : Nat) : Except TransitionError Document :=
  match session.candidates[index]? with
  | some document => .ok document
  | none => .error (.indexOutOfRange index session.candidates.length)

/-- The session centred on one of its candidates. -/
def focusOn (session : Session) (index : Nat) : Except TransitionError Session :=
  match session.candidate index with
  | .ok document => .ok { session with focus := some (.note document), state := .focused }
  | .error error => .error error

/-- The session after an action, or why the action does not fit. -/
def apply (session : Session) : PlanAction → Except TransitionError Session
  | .search _ => .error .searchWithoutResults
  | .select index => session.focusOn index
  | .switch index =>
      if session.focus.isNone then .error (.missingFocus .switch) else session.focusOn index
  | .answerCurrent =>
      if session.focus.isNone then .error (.missingFocus .answerCurrent)
      else .ok { session with state := .answered }
  | .answerAll =>
      if session.candidates.isEmpty then .error (.noCandidates .answerAll)
      else .ok { session with focus := some .aggregated, state := .answered }
  | .clarify => .ok session

/-- The focused note. -/
def focusedDocument? (session : Session) : Option Document :=
  session.focus.bind Focus.document?

/-- The notes that ground an answer now. -/
def scope (session : Session) : List Document :=
  match session.focus with
  | some (.note document) => [document]
  | some .aggregated | none => session.candidates

end Session

end NoteDialogue
