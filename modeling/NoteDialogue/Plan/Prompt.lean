import NoteDialogue.Message
import NoteDialogue.Prompt
import NoteDialogue.Session

/-!
# The question to the planner

A model that plans a turn is shown the recent conversation, the candidates with their indices, the
focus and the state of the session, and the latest message, with examples of what it may answer.
-/

set_option autoImplicit false

namespace NoteDialogue.PlannerPrompt

/-- The earlier messages that are shown. -/
def shownMessages : Nat := 6

/-- The characters of a message that are shown. -/
def shownCharacters : Nat := 240

/-- The start of a text, with an ellipsis when something is left out. -/
def shorten (limit : Nat) (text : String) : String :=
  let chars := text.toList
  if limit < chars.length then String.ofList (chars.take limit) ++ "..." else text

/-- The last items of a list. -/
def lastItems {α : Type} (count : Nat) (items : List α) : List α :=
  items.drop (items.length - count)

/-- The recent conversation, without instructions and priming. -/
def narrative (history : List Message) : String :=
  let spoken := history.filter (fun message =>
    message.role != .system && !isPriming message.content)
  if spoken.isEmpty then "(no earlier messages)"
  else
    joinLines ((lastItems shownMessages spoken).map (fun message =>
      message.role.name ++ ": " ++ shorten shownCharacters (Text.trim message.content)))

/-- A candidate with its index. -/
def candidateLine (index : Nat) (document : Document) : String :=
  "[" ++ toString index ++ "] " ++ document.title ++ notebookRemark document.notebook

/-- The candidates with their indices. -/
def candidateList (candidates : List Document) : String :=
  if candidates.isEmpty then "(none)"
  else joinLines (candidates.zipIdx.map (fun (document, index) => candidateLine index document))

/-- The focus of a session; a note that is a candidate is shown with its index. -/
def focusLine (session : Session) : String :=
  match session.focus with
  | none => "none"
  | some .aggregated => "all candidates together"
  | some (.note document) =>
      match session.candidates.findIdx? (fun candidate => candidate.id == document.id) with
      | some index => "[" ++ toString index ++ "] " ++ document.title
      | none => document.title

/-- What a state means for the conversation. -/
def stateSentence : SessionState → String
  | .initial => "No notes have been retrieved yet."
  | .hasCandidates => "Candidate notes were found but the user has not picked one yet."
  | .focused => "The conversation is centred on the focused note."
  | .answered => "An answer was given from the current focus; follow-ups usually keep that scope."

/-- A line with braces around a list of members. -/
def braced (members : String) : String :=
  "\x7b" ++ members ++ "\x7d"

/-- The kinds of actions, explained. -/
def actionLines : List String :=
  ["- SEARCH: the user asks about something the current candidates do not cover. " ++
      "Provide \"search_query\".",
    "- SELECT: the user picks one candidate. Provide \"target_index\".",
    "- SWITCH: a note is already focused and the user moves to another candidate. " ++
      "Provide \"target_index\".",
    "- ANSWER_CURRENT: the user asks a follow-up about the focused note.",
    "- ANSWER_ALL: the question needs every candidate, e.g. totals, comparisons, summaries " ++
      "across notes.",
    "- CLARIFY: the message is too vague to act on."]

/-- What to answer in common situations. -/
def exampleLines : List String :=
  ["- Candidates are three budget notes and the user says \"the second one\" -> " ++
      braced "\"action\": \"SELECT\", \"target_index\": 1",
    "- Candidates are five finance notes and the user asks \"what's my total?\" -> " ++
      braced "\"action\": \"ANSWER_ALL\"",
    "- A note is focused and the user asks \"when is it due?\" -> " ++
      braced "\"action\": \"ANSWER_CURRENT\"",
    "- A note is focused and the user says \"now show me the travel one\" -> " ++
      braced "\"action\": \"SWITCH\", \"target_index\": <index of the travel note>",
    "- The user asks \"what did I write about onboarding?\" and no candidate matches -> " ++
      braced "\"action\": \"SEARCH\", \"search_query\": \"onboarding\""]

/-- A hint on a line of its own, between empty lines. -/
def hintLines : Option String → List String
  | some hint => ["", "Note: " ++ hint, ""]
  | none => [""]

/-- The question to the planner. -/
def render (session : Session) (query : String) (history : List Message)
    (hint : Option String) : String :=
  joinLines (
    ["You route turns in a conversation about the user's notes. Decide what the latest message needs.",
      "", "Actions:"] ++ actionLines ++
    ["", "Recent conversation:", narrative history, "",
      "Candidates (indices start at 0; the user sees the same list numbered from 1):",
      candidateList session.candidates, "",
      "Current focus: " ++ focusLine session,
      "State: " ++ stateSentence session.state] ++ hintLines hint ++
    ["Examples:"] ++ exampleLines ++
    ["", "Latest message: " ++ query, "", "Respond with JSON only:",
      braced ("\"action\": \"...\", \"search_query\": null, \"target_index\": null, " ++
        "\"reasoning\": \"one short sentence\"")])

end NoteDialogue.PlannerPrompt
