import NoteDialogue.Plan
import NoteDialogue.Json.Reader
import NoteDialogue.Json.Record
import NoteDialogue.Text.Passage

/-!
# Reading a plan from what a model wrote

A model is asked for a JSON object and may put code fences and prose around it.  The text is stripped
of an opening fence with its line, of a closing fence, and of whatever stands before the first opening
brace and after the last closing one.  The rest must be a JSON record with an action; anything that is
malformed, or that points outside the list of candidates, becomes a request to clarify.
-/

set_option autoImplicit false

namespace NoteDialogue

/-! ## The object in the text -/

/-- Three grave accents, which open and close a block of code. -/
def codeFence : List Char :=
  List.replicate 3 (Char.ofNat 0x60)

/-- The opening brace. -/
def openBrace : Char := Char.ofNat 0x7B

/-- The closing brace. -/
def closeBrace : Char := Char.ofNat 0x7D

/-- The text before an ending, if it ends so. -/
def beforeEnding? (ending text : List Char) : Option (List Char) :=
  if ending.reverse.isPrefixOf text.reverse then some (text.take (text.length - ending.length))
  else none

/-- The lines after the first. -/
def afterFirstLine (text : List Char) : List Char :=
  match Text.splitAtChar? '\n' text with
  | some (_, rest) => rest
  | none => []

/-- The inside of a block of code that opens a text; a text without one stays as it is. -/
def insideFence (text : List Char) : List Char :=
  if codeFence.isPrefixOf text then
    let body := afterFirstLine (text.drop codeFence.length)
    (beforeEnding? codeFence (Text.dropTrailing Text.isBlank body)).getD body
  else text

/-- From the first opening brace to the last closing one; a text without such a stretch is only
trimmed. -/
def betweenBraces (text : List Char) : List Char :=
  let opened := text.dropWhile (· != openBrace)
  let closed := (opened.reverse.dropWhile (· != closeBrace)).reverse
  if closed.isEmpty then Text.trimChars text else closed

/-- The JSON object in what a model wrote. -/
def objectText (raw : List Char) : List Char :=
  betweenBraces (insideFence (Text.trimChars raw))

/-! ## The record -/

/-- A plan as it is written, before it is checked. -/
structure WrittenPlan where
  action : String
  searchQuery : Option String
  targetIndex : Option Json
  reasoning : Option String

namespace WrittenPlan

/-- The fields of a written plan. -/
def fields : List Json.Field :=
  [.plain "action", .withDefault "search_query", .withDefault "target_index",
    .withDefault "reasoning"]

/-- A written plan from its record. -/
def ofJson? (json : Json) : Option WrittenPlan :=
  match Json.record? fields json with
  | some [action, searchQuery, targetIndex, reasoning] => do
      let action ← Json.required Json.text? action
      let searchQuery ← Json.possible Json.text? searchQuery
      let targetIndex ← Json.possible (Json.kept? 1) targetIndex
      let reasoning ← Json.possible Json.text? reasoning
      some { action, searchQuery, targetIndex, reasoning }
  | _ => none

/-- An index, written as a number or as its digits. -/
def indexOf? : Json → Option Nat
  | .number literal => literal.word?
  | .text (.plain digits) => Numeral.natural? Numeral.maxWord (Text.trim digits)
  | _ => none

/-- The index of one of so many candidates. -/
def candidate? (plan : WrittenPlan) (candidates : Nat) : Option Nat :=
  (plan.targetIndex.bind indexOf?).filter (· < candidates)

/-- The query, trimmed, if it is not blank. -/
def query? (plan : WrittenPlan) : Option String :=
  (plan.searchQuery.map Text.trim).filter (fun query => !query.isEmpty)

/-- The reason for asking when a choice names no candidate. -/
def missingIndex (kind : ActionKind) (candidates : Nat) : String :=
  kind.name ++ " without a valid target index for " ++ toString candidates ++ " candidates"

/-- The checked plan. -/
def check (plan : WrittenPlan) (candidates : Nat) : ActionPlan :=
  let reasoning := plan.reasoning.getD ""
  match ActionKind.ofText plan.action with
  | .error spelling => .clarify (ActionKind.unknownMessage spelling)
  | .ok .search =>
      match plan.query? with
      | some query => ⟨.search query, reasoning⟩
      | none => .clarify "SEARCH without a search query"
  | .ok .select =>
      match plan.candidate? candidates with
      | some index => ⟨.select index, reasoning⟩
      | none => .clarify (missingIndex .select candidates)
  | .ok .switch =>
      match plan.candidate? candidates with
      | some index => ⟨.switch index, reasoning⟩
      | none => .clarify (missingIndex .switch candidates)
  | .ok .answerCurrent => ⟨.answerCurrent, reasoning⟩
  | .ok .answerAll => ⟨.answerAll, reasoning⟩
  | .ok .clarify => ⟨.clarify, reasoning⟩

end WrittenPlan

/-- The reason for asking when the text is no plan, without what the reader found wrong with it. -/
def unreadablePlan : String :=
  "planner output was not valid JSON"

/-- The plan in what a model wrote, for so many candidates. -/
def ActionPlan.ofText (raw : String) (candidates : Nat) : ActionPlan :=
  match (Json.ofChars? (objectText raw.toList)).bind WrittenPlan.ofJson? with
  | some plan => plan.check candidates
  | none => .clarify unreadablePlan

end NoteDialogue
