import NoteDialogue.Proofs.History
import NoteDialogue.Proofs.Turn.Recall

/-!
# When a turn crashes

Only one step of a turn can crash: taking a window of no turns of a history that has one.  Everything
else is calm, whatever the world answers (`IsCalm`).  A turn prepares itself by looking up its style and
its references (`Turn.prepare`) and is then answered; it crashes exactly when the preparation succeeds,
there is something to answer, and the window does not exist (`run_crashed_iff`).
-/

set_option autoImplicit false

namespace NoteDialogue

namespace Interaction

variable {α β γ σ : Type}

/-- An interaction that crashes under no answers, whatever it asks. -/
abbrev IsCalm (interaction : Interaction α) : Prop := interaction.AsksOnly fun _ => True

theorem AsksOnly.isCalm {interaction : Interaction α} {kind : Ask → Prop}
    (asks : interaction.AsksOnly kind) : interaction.IsCalm :=
  asks.mono fun _ _ => trivial

/-- A calm interaction crashes in no world. -/
theorem IsCalm.run_ne_crashed {interaction : Interaction α} (calm : interaction.IsCalm)
    (world : World σ) (state : σ) : (interaction.run world state).1 ≠ .crashed := by
  induction interaction generalizing state with
  | done | failed => simp [Interaction.run]
  | crashed => exact calm.elim
  | ask question next ih =>
      unfold Interaction.run
      rcases world.answer question state with ⟨_ | answer, after⟩
      · simp
      · exact ih answer (calm.2 answer) after

/-- Two interactions in a row crash when the first does, or when it comes to a result and the second
crashes after it. -/
theorem run_andThen_crashed_iff (world : World σ) (first : Interaction α) (next : α → Interaction β)
    (state : σ) :
    ((first.andThen next).run world state).1 = .crashed ↔
      (first.run world state).1 = .crashed ∨
        ∃ value after, first.run world state = (.done value, after) ∧
          ((next value).run world after).1 = .crashed := by
  induction first generalizing state with
  | done result =>
      constructor
      · exact fun crashed => .inr ⟨result, state, rfl, crashed⟩
      · rintro (impossible | ⟨value, after, same, crashed⟩)
        · cases impossible
        · cases same
          exact crashed
  | failed failure => simp [andThen, run]
  | crashed => simp [andThen, run]
  | ask question rest ih =>
      simp only [andThen, run]
      rcases world.answer question state with ⟨_ | answer, after⟩
      · simp
      · exact ih answer after

end Interaction

open Interaction Retrieval

namespace Turn

variable {σ : Type} {config : Config} {request : TurnRequest} {selected : StyledSelection}
  {session : Session} {references : List ResolvedReference}

/-! ## The step that may crash -/

/-- There is something to answer, from or past the notes, but no window of earlier messages to answer it
with. -/
def LacksWindow (config : Config) (request : TurnRequest) (selected : StyledSelection)
    (references : List ResolvedReference) : Prop :=
  (references.any (·.found) = true ∨ request.question.isEmpty = false) ∧
    config.turn.historyTurns = 0 ∧
    ∃ message ∈ request.history,
      isKeptMessage selected.selection.mode message = true ∧ message.role = .user

theorem route_isCalm (window : windowOf config request selected ≠ none) :
    (route config request selected session references request.question).IsCalm :=
  (route_recalls window).asksOnly not_false

theorem windowOf_eq_none_iff :
    windowOf config request selected = none ↔
      config.turn.historyTurns = 0 ∧ ∃ message ∈ request.history,
        isKeptMessage selected.selection.mode message = true ∧ message.role = .user :=
  historyWindow?_eq_none_iff _ _ _

/-- Without a window, answering a turn about something crashes at once. -/
theorem route_of_no_window (window : windowOf config request selected = none)
    (answerable : references.any (·.found) = true ∨ request.question.isEmpty = false) :
    route config request selected session references request.question = .crashed := by
  have missing : Turn.history config.turn selected.selection.mode request.history = .crashed := by
    rw [windowOf] at window
    rw [Turn.history, window]
  rcases route_cases config request selected session references request.question with
    ⟨-, routes⟩ | ⟨notFound, noQuestion, -⟩ | ⟨-, -, -, routes⟩ | ⟨-, -, -, routes⟩
  · rw [routes, missing]
    rfl
  · rw [notFound, noQuestion] at answerable
    rcases answerable with impossible | impossible <;> cases impossible
  · rw [routes, missing]
    rfl
  · rw [routes, missing]
    rfl

/-- Answering a turn crashes, and does so at once, when it lacks the window; otherwise it never does. -/
theorem route_crashed_iff (world : World σ) (state : σ) :
    ((route config request selected session references request.question).run world state).1 = .crashed ↔
      LacksWindow config request selected references := by
  unfold LacksWindow
  rw [← windowOf_eq_none_iff]
  constructor
  · intro crashed
    have window : windowOf config request selected = none := by
      by_contra given
      exact (route_isCalm given).run_ne_crashed world state crashed
    refine ⟨?_, window⟩
    rcases route_cases config request selected session references request.question with
      ⟨found, -⟩ | ⟨-, -, routes⟩ | ⟨-, asks, -⟩ | ⟨-, asks, -⟩
    · exact .inl found
    · rw [routes] at crashed
      cases crashed
    · exact .inr asks
    · exact .inr asks
  · rintro ⟨answerable, window⟩
    rw [route_of_no_window window answerable]
    rfl

/-! ## Whole turns -/

/-- What precedes the answer: the style and the references of a turn are looked up. -/
def prepare (config : Config) (request : TurnRequest) (session : Session) :
    Interaction (StyledSelection × List ResolvedReference) :=
  (StyledSelection.resolve (request.requested session).selection).andThen fun selected =>
    (Turn.references config.turn request request.mentions).andThen fun references =>
      .done (selected, references)

theorem run_eq_prepare (config : Config) (request : TurnRequest) (session : Session) :
    Turn.run config request session =
      (prepare config request session).andThen fun (selected, references) =>
        (route config request selected
          (session.keepMode config.turn selected.selection (request.requested session).byTurn)
          references request.question).andThen fun (reply, after) =>
            .done (TurnResult.ofReply reply selected.selection references after, after) := by
  rw [prepare, andThen_assoc]
  simp only [andThen_assoc]
  rfl

theorem prepare_asksOnly (config : Config) (request : TurnRequest) (session : Session) :
    (prepare config request session).AsksOnly (Ask.Prepares request.userId) :=
  (StyledSelection.resolve_asksOnly _ _).andThen fun _ =>
    (references_asksOnly _ _ _).andThen fun _ => trivial

/-- **A turn crashes exactly when its preparation succeeds and it then lacks the window.** -/
theorem run_crashed_iff (world : World σ) (state : σ) :
    ((Turn.run config request session).run world state).1 = .crashed ↔
      ∃ selected references after,
        (prepare config request session).run world state = (.done (selected, references), after) ∧
        LacksWindow config request selected references := by
  rw [run_eq_prepare, run_andThen_crashed_iff]
  have calm := (prepare_asksOnly config request session).isCalm.run_ne_crashed world state
  simp only [calm, false_or, Prod.exists, run_andThen_crashed_iff, route_crashed_iff]
  constructor
  · rintro ⟨selected, references, after, prepared, lacks | ⟨reply, changed, last, -, impossible⟩⟩
    · exact ⟨selected, references, after, prepared, lacks⟩
    · cases impossible
  · rintro ⟨selected, references, after, prepared, lacks⟩
    exact ⟨selected, references, after, prepared, .inl lacks⟩

end Turn

end NoteDialogue
