import NoteDialogue.Proofs.Text.Trim
import NoteDialogue.Turn.Planning

/-!
# Validated plans

Whatever a model writes when it is asked for a plan, or when it fails to write one, the action that is made
of it is validated (`ActionPlan.validated_ofAnswer`): it points at a candidate if it points anywhere
(`ActionPlan.targetIndex_lt`), and what it searches for is trimmed (`ActionPlan.trim_searchQuery`) and not
empty.
-/

set_option autoImplicit false

namespace NoteDialogue

/-- What may be done when there are so many candidates. -/
inductive PlanAction.Validated (candidates : Nat) : PlanAction → Prop
  | search {query : String} (trimmed : Text.trim query = query) (some : query ≠ "") :
      Validated candidates (.search query)
  | select {index : Nat} (inside : index < candidates) : Validated candidates (.select index)
  | switch {index : Nat} (inside : index < candidates) : Validated candidates (.switch index)
  | answerCurrent : Validated candidates .answerCurrent
  | answerAll : Validated candidates .answerAll
  | clarify : Validated candidates .clarify

theorem PlanAction.Validated.lt {candidates index : Nat} {action : PlanAction}
    (validated : action.Validated candidates) (targets : action.targetIndex? = some index) :
    index < candidates := by
  cases validated with
  | select inside | switch inside =>
      cases targets
      exact inside
  | search | answerCurrent | answerAll | clarify => cases targets

namespace WrittenPlan

variable {plan : WrittenPlan} {candidates index : Nat} {query : String}

theorem lt_of_candidate? (chosen : plan.candidate? candidates = some index) : index < candidates := by
  obtain ⟨-, inside⟩ := Option.filter_eq_some_iff.mp chosen
  exact of_decide_eq_true inside

theorem trim_query (asks : plan.query? = some query) : Text.trim query = query := by
  obtain ⟨trimmed, -⟩ := Option.filter_eq_some_iff.mp asks
  obtain ⟨written, -, rfl⟩ := Option.map_eq_some_iff.mp trimmed
  exact Text.trim_trim written

theorem query_ne_empty (asks : plan.query? = some query) : query ≠ "" := by
  obtain ⟨-, some⟩ := Option.filter_eq_some_iff.mp asks
  simpa using some

/-- A plan with a defect is one to ask back, which is always in order. -/
theorem validated_check (plan : WrittenPlan) (candidates : Nat) :
    (plan.check candidates).action.Validated candidates := by
  unfold check
  cases ActionKind.ofText plan.action with
  | error spelling => exact .clarify
  | ok kind =>
      cases kind with
      | search =>
          cases asks : plan.query? with
          | none => exact .clarify
          | some query => exact .search (trim_query asks) (query_ne_empty asks)
      | select =>
          cases chosen : plan.candidate? candidates with
          | none => exact .clarify
          | some index => exact .select (lt_of_candidate? chosen)
      | switch =>
          cases chosen : plan.candidate? candidates with
          | none => exact .clarify
          | some index => exact .switch (lt_of_candidate? chosen)
      | answerCurrent => exact .answerCurrent
      | answerAll => exact .answerAll
      | clarify => exact .clarify

end WrittenPlan

namespace ActionPlan

variable {candidates index : Nat} {query : String} {answer : TimedAnswer String}

theorem validated_ofText (raw : String) (candidates : Nat) :
    (ofText raw candidates).action.Validated candidates := by
  unfold ofText
  cases (Json.ofChars? (objectText raw.toList)).bind WrittenPlan.ofJson? with
  | none => exact .clarify
  | some plan => exact plan.validated_check candidates

/-- **Every plan is validated.** -/
theorem validated_ofAnswer (candidates : Nat) (answer : TimedAnswer String) :
    (ofAnswer candidates answer).action.Validated candidates := by
  rcases answer with (failure | raw) | _
  · exact .clarify
  · exact validated_ofText raw candidates
  · exact .clarify

/-- A plan points at a candidate if it points anywhere. -/
theorem targetIndex_lt (targets : (ofAnswer candidates answer).action.targetIndex? = some index) :
    index < candidates :=
  (validated_ofAnswer candidates answer).lt targets

/-- A plan searches for trimmed texts alone. -/
theorem trim_searchQuery (searches : (ofAnswer candidates answer).action = .search query) :
    Text.trim query = query := by
  have validated := validated_ofAnswer candidates answer
  rw [searches] at validated
  cases validated with
  | search trimmed => exact trimmed

end ActionPlan

end NoteDialogue
