import NoteDialogue.Text.Blank
import NoteDialogue.Text.LetterCase

/-!
# Plans

What a turn in a conversation about notes calls for.  An action carries data only where it needs
them: a search its query, a choice the index of a candidate.
-/

set_option autoImplicit false

namespace NoteDialogue

/-- The kinds of actions. -/
inductive ActionKind
  | search
  | select
  | switch
  | answerCurrent
  | answerAll
  | clarify
  deriving DecidableEq, Repr, Inhabited

/-- An action with the data it needs. -/
inductive PlanAction
  /-- Look for notes. -/
  | search (query : String)
  /-- Pick a candidate. -/
  | select (index : Nat)
  /-- Move from the focused note to another candidate. -/
  | switch (index : Nat)
  /-- Answer from the focused note. -/
  | answerCurrent
  /-- Answer from all candidates. -/
  | answerAll
  /-- Ask the user what is meant. -/
  | clarify
  deriving DecidableEq, Repr, Inhabited

/-- An action and why it was chosen. -/
structure ActionPlan where
  action : PlanAction
  reasoning : String
  deriving DecidableEq, Repr, Inhabited

namespace ActionKind

/-- All kinds. -/
def all : List ActionKind :=
  [.search, .select, .switch, .answerCurrent, .answerAll, .clarify]

/-- The written form. -/
def name : ActionKind → String
  | .search => "SEARCH"
  | .select => "SELECT"
  | .switch => "SWITCH"
  | .answerCurrent => "ANSWER_CURRENT"
  | .answerAll => "ANSWER_ALL"
  | .clarify => "CLARIFY"

/-- The kind with this written form, exactly. -/
def ofName? (written : String) : Option ActionKind :=
  all.find? (fun kind => kind.name == written)

/-- A hyphen or a space joins the words of a name as an underscore does. -/
def joinWords (c : Char) : Char :=
  if c = '-' || c = ' ' then '_' else c

/-- The spelling in which a text is compared with the names. -/
def spelling (text : String) : String :=
  String.ofList ((Text.upperChars (Text.trimChars text.toList)).map joinWords)

/-- The kind a text names, in any case of letters and with any joint between words; the spelling is
returned when there is none. -/
def ofText (text : String) : Except String ActionKind :=
  match ofName? (spelling text) with
  | some kind => .ok kind
  | none => .error (spelling text)

/-- The message about a spelling that names no kind. -/
def unknownMessage (spelling : String) : String :=
  "Unknown action '" ++ spelling ++ "'"

end ActionKind

namespace PlanAction

/-- The kind of an action. -/
def kind : PlanAction → ActionKind
  | .search _ => .search
  | .select _ => .select
  | .switch _ => .switch
  | .answerCurrent => .answerCurrent
  | .answerAll => .answerAll
  | .clarify => .clarify

/-- The query of a search. -/
def searchQuery? : PlanAction → Option String
  | .search query => some query
  | _ => none

/-- The index of a choice. -/
def targetIndex? : PlanAction → Option Nat
  | .select index | .switch index => some index
  | _ => none

end PlanAction

namespace ActionPlan

/-- Ask the user what is meant. -/
def clarify (reasoning : String) : ActionPlan :=
  ⟨.clarify, reasoning⟩

end ActionPlan

end NoteDialogue
