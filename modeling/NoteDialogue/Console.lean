import NoteDialogue.Console.Arguments
import NoteDialogue.Notes.Indexing
import NoteDialogue.Notes.Record
import NoteDialogue.Providers

/-!
# The console

A conversation on a terminal.  The program reads its files, indexes the notes and then takes one line
after the other; a line is a turn, unless it is blank or asks to leave.  The reply is printed with the
notes that ground it and the references that were not found.  The console keeps the conversation and the
mode in force, which the next turn is given; a turn that fails prints nothing and is not kept.
-/

set_option autoImplicit false

namespace NoteDialogue

/-- A conversation on a terminal. -/
structure Console where
  config : Config
  providers : Providers
  archive : Archive
  sessions : SessionStore := {}
  userId : String
  sessionId : String
  /-- What was said so far. -/
  transcript : List Message := []
  /-- The mode in force after the last turn. -/
  keptMode : Option String := none
  deriving Inhabited

namespace Console

/-! ## Beginning -/

/-- What the console begins with: its settings, its arguments and the contents of its files, and the
identifiers and the time that it may supply. -/
structure Start where
  settings : Settings
  arguments : Arguments := {}
  /-- The content of the file with a path. -/
  textOfFile : String → Except Failure String
  sessionId : String
  /-- Identifiers for notes without one. -/
  noteIds : Nat → String
  now : Timestamp

/-- The notes of a file. -/
def Start.notes (start : Start) (path : String) : Except Failure (List Note) := do
  let records ← NoteRecord.readAll path (← start.textOfFile path)
  pure (records.zipIdx.map (fun (record, index) => record.toNote (start.noteIds index) start.now))

/-- Carry out an interaction that may fail. -/
def performOr {α : Type} (providers : Providers) (archive : Archive)
    (interaction : Interaction α) : Exchange (Except Failure α) := do
  match ← providers.perform interaction archive with
  | (.done result, _) => pure (.ok result)
  | (.failed failure, _) => pure (.error failure)
  | (.crashed, _) | (.brokenOff, _) => pure (.error (.unexpected "crashed"))

/-- The store with the notes of a file, indexed. -/
def indexFile (start : Start) (providers : Providers) (archive : Archive) :
    Exchange (Except Failure NoteStore) :=
  match start.arguments.notes with
  | none => .done (.ok {})
  | some path =>
      match start.notes path with
      | .error failure => .done (.error failure)
      | .ok notes => do
          match ← performOr providers archive (({} : NoteStore).index notes) with
          | .error failure => pure (.error failure)
          | .ok report => pure (report.indexed.map (fun _ => report.store))

/-- The styles of a file, or those that are there without one. -/
def Start.styles (start : Start) : Except Failure StyleRegistry :=
  match start.arguments.styles with
  | none => .ok .builtIn
  | some path => (start.textOfFile path).bind (fun content =>
      (Style.readAll content).map StyleRegistry.ofList)

/-- The console at its beginning, or why it cannot begin. -/
def begin (start : Start) : Exchange (Except Failure Console) :=
  let config := Config.ofSettings start.settings
  match Providers.ofConfig config with
  | .error failure => .done (.error failure)
  | .ok providers => do
      let archive :=
        { Archive.empty config.retrieval.embeddingCacheSize with settings := start.settings }
      match ← indexFile start providers archive with
      | .error failure => pure (.error failure)
      | .ok notes =>
          pure (start.styles.map (fun styles =>
            { config, providers, archive := { archive with notes, styles },
              userId := start.arguments.user.getD Arguments.defaultUser,
              sessionId := start.arguments.session.getD start.sessionId }))

/-! ## Turns -/

/-- A note that grounds a reply, with its number. -/
def citationLine (index : Nat) (citation : Citation) : String :=
  "  [" ++ toString (index + 1) ++ "] " ++ citation.title

/-- A reference that was not found. -/
def missingLine (reference : ResolvedReference) : String :=
  "  ! " ++ reference.requested ++ ": " ++ reference.errorReason.getD "not found"

/-- What is printed for a result. -/
def renderResult (result : TurnResult) : String :=
  joinLines
    (["[" ++ result.mode.render ++ "] " ++ result.reply] ++
      result.citations.zipIdx.map (fun (citation, index) => citationLine index citation) ++
      (result.references.filter (fun reference => !reference.found)).map missingLine) ++ "\n\n"

/-- Whether a line asks to leave. -/
def asksToLeave (line : String) : Bool :=
  Text.sameIgnoringAsciiCase line.toList "/quit".toList ||
    Text.sameIgnoringAsciiCase line.toList "/exit".toList

/-- What comes of a line. -/
inductive Step
  | ended
  | crashed
  /-- The console goes on, after printing something. -/
  | next (console : Console) (output : String)
  deriving Inhabited

/-- The request of a turn. -/
def request (console : Console) (text : String) : TurnRequest :=
  { userId := console.userId, sessionId := console.sessionId, text,
    history := console.transcript, sessionMode := console.keptMode }

/-- The console after a turn with a result. -/
def keep (console : Console) (text : String) (result : TurnResult) : Console :=
  { console with
    transcript := console.transcript ++ [Message.user text, Message.assistant result.reply]
    keptMode := result.stickyMode }

/-- Take a line. -/
def step (console : Console) (line : String) : Exchange Step :=
  let text := Text.trim line
  if text.isEmpty then .done (.next console "")
  else if asksToLeave text then .done .ended
  else do
    let (ending, sessions, archive) ← Conversation.executeWith console.config console.providers
      (console.request text) console.sessions console.archive
    let console := { console with sessions, archive }
    match ending with
    | .answered result => pure (.next (console.keep text result) (renderResult result))
    | .failed _ | .waiting => pure (.next console "")
    | .crashed => pure .crashed

/-! ## Whole runs -/

/-- What a run prints, and the code with which it ends. -/
structure Run where
  output : String
  code : Nat
  deriving DecidableEq, Repr, Inhabited

/-- The code of a run that could not begin. -/
def failureCode : Nat := 1

/-- The code of a run with a mistake in its arguments. -/
def mistakeCode : Nat := 2

/-- The code of a run that crashed. -/
def crashCode : Nat := 101

/-- Take some lines, after having printed something. -/
def converse (console : Console) (printed : String) : List String → Exchange Run
  | [] => .done ⟨printed, 0⟩
  | line :: rest => do
      match ← console.step line with
      | .ended => pure ⟨printed, 0⟩
      | .crashed => pure ⟨printed, crashCode⟩
      | .next console output => converse console (printed ++ output) rest

/-- The lines of a text; what stands after the last end of line is one more unless it is empty. -/
def inputLines (text : String) : List String :=
  let lines := (Text.pieces (· = '\n') text.toList).map String.ofList
  if lines.getLast? = some "" then lines.dropLast else lines

/-- A whole run on some lines. -/
def run (start : Start) (lines : List String) : Exchange Run := do
  match ← begin start with
  | .error _ => pure ⟨"", failureCode⟩
  | .ok console => console.converse "" lines

end Console

end NoteDialogue
