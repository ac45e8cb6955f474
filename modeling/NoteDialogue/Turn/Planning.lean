import NoteDialogue.Ambiguity
import NoteDialogue.Config
import NoteDialogue.Interaction
import NoteDialogue.Plan.Decoding
import NoteDialogue.Plan.Prompt

/-!
# Planning a turn

A model decides what a message calls for.  Planning never fails: a model that cannot be reached, is too
slow or writes no plan makes the turn ask back.
-/

set_option autoImplicit false

namespace NoteDialogue

/-- How a plan is asked for: without chance and briefly. -/
def planningOptions : GenerationOptions :=
  { temperature := some 0.0, maxTokens := some 300 }

/-- The plan in a model's answer, for so many candidates. -/
def ActionPlan.ofAnswer (candidates : Nat) : TimedAnswer String → ActionPlan
  | .inTime (.ok raw) => ActionPlan.ofText raw candidates
  | .inTime (.error failure) => .clarify ("planner unavailable: " ++ failure.message)
  | .late => .clarify "planner timed out"

/-- Have a message planned. -/
def planTurn (timeout : Nat) (session : Session) (question : String) (history : List Message)
    (hint : Option String) : Interaction ActionPlan := do
  let prompt := PlannerPrompt.render session question history hint
  let answer ← Interaction.request
    (.generate .planning [Message.user prompt] planningOptions timeout)
  pure (ActionPlan.ofAnswer session.candidates.length answer)

/-- The plan of a message when there is nothing to choose from. -/
def initialPlan (question : String) : ActionPlan :=
  ⟨.search question, "no candidates to choose from"⟩

/-- What a planner is told about an ambiguous search. -/
def ambiguityHint : AmbiguityReason → String
  | .nearDuplicateTitles =>
      "The search returned several notes with nearly identical titles. Use ANSWER_ALL if " ++
        "the question spans them, SELECT if the message names one, otherwise CLARIFY. Do not SEARCH."
  | .genericTitles =>
      "The search returned several notes and no title clearly matches the message. Use " ++
        "ANSWER_ALL for totals, comparisons or summaries, otherwise CLARIFY. Do not SEARCH."

/-- A plan after a search: to search again is to ask back. -/
def PlanAction.afterSearch : PlanAction → PlanAction
  | .search _ => .clarify
  | action => action

end NoteDialogue
