import NoteDialogue.Proofs.Reference.Resolution
import NoteDialogue.Proofs.Turn.Crash

/-!
# Failures that a turn contains

A turn looks up its style and its references first, and goes on whatever comes of that
(`Turn.prepare_ends`).  Then it is answered, in whatever way, as long as the answers are bearable
(`Turn.route_succeeds`): a plan that cannot be had makes it ask back, and so does one that makes no sense;
a search that fails is reported in the reply.  Only too many references and the lack of a window of earlier
messages stand in the way (`Turn.run_succeeds`).
-/

set_option autoImplicit false

namespace NoteDialogue

open Interaction Retrieval

/-- Without a failure, as long as all answers are bearable. -/
abbrev Interaction.Succeeds {α : Type} (interaction : Interaction α) : Prop :=
  interaction.Ends IsBearable (fun _ => True) (fun _ => False)

/-! ## Replies -/

theorem TurnSetting.generate_succeeds (setting : TurnSetting) (messages : List Message) :
    (setting.generate messages).Succeeds := by
  intro answer given
  rcases answer with (failure | text) | _
  · cases given
  · trivial
  · cases given

theorem TurnSetting.answer_succeeds (setting : TurnSetting) (documents : List Document)
    (question : String) : (setting.answer documents question).Succeeds :=
  (setting.generate_succeeds _).andThen fun _ _ => trivial

theorem TurnSetting.replyDirectly_succeeds (setting : TurnSetting) (shared : List Message)
    (question : String) : (setting.replyDirectly shared question).Succeeds :=
  (setting.generate_succeeds _).andThen fun _ _ => trivial

/-- A plan is made whatever the model says to it. -/
theorem planTurn_succeeds (timeout : Nat) (session : Session) (question : String)
    (history : List Message) (hint : Option String) :
    (planTurn timeout session question history hint).Succeeds :=
  fun _ _ => trivial

namespace Dialogue

variable (setting : TurnSetting) (session : Session) (question : String)

theorem act_succeeds (action : PlanAction) : (act setting session action question).Succeeds := by
  rcases act_cases setting session action question with ⟨-, acts⟩ | ⟨-, changed, -, acts⟩
  · rw [acts]
    trivial
  · rw [acts]
    exact (setting.answer_succeeds _ _).andThen fun _ _ => trivial

theorem continueSearch_succeeds (query : String) (found : SearchResult) :
    (continueSearch setting session query question found).Succeeds := by
  rcases found with ⟨documents, strategy, ambiguity⟩
  match documents with
  | [] => trivial
  | [_] => exact (act_succeeds setting _ question _).andThen fun _ _ => trivial
  | first :: second :: others =>
      cases ambiguity with
      | none => exact (setting.answer_succeeds _ _).andThen fun _ _ => trivial
      | some reason =>
          exact (planTurn_succeeds _ _ _ _ _).andThen fun plan _ =>
            (act_succeeds setting _ question _).andThen fun _ _ => trivial

theorem searchFailed_succeeds {failure : Failure} (minor : IsMinor failure) :
    (searchFailed failure session).Succeeds := by
  unfold searchFailed
  rw [if_neg (Bool.eq_false_iff.mp minor)]
  trivial

/-- A search that fails is reported in the reply. -/
theorem searchAndAnswer_succeeds (retrieval : RetrievalConfig) (userId query : String) :
    (searchAndAnswer setting retrieval userId session query question).Succeeds := by
  refine (Retrieval.search_ends.attempt).andThen fun outcome ends => ?_
  cases outcome with
  | ok found => exact continueSearch_succeeds setting session question query found
  | error failure => exact searchFailed_succeeds session ends

theorem plan_succeeds : (Dialogue.plan setting session question).Succeeds := by
  unfold Dialogue.plan
  cases session.candidates.isEmpty with
  | true => trivial
  | false => exact planTurn_succeeds _ _ _ _ _

theorem reply_succeeds (retrieval : RetrievalConfig) (userId : String) :
    (Dialogue.reply setting retrieval userId session question).Succeeds := by
  refine (plan_succeeds setting session question).andThen fun plan _ => ?_
  cases plan.action with
  | search query => exact searchAndAnswer_succeeds setting session question retrieval userId query
  | select _ | switch _ | answerCurrent | answerAll | clarify =>
      exact act_succeeds setting session question _

end Dialogue

/-! ## What is asked first -/

/-- The questions for styles, and for notes in the ways in which references are looked up. -/
def Ask.isPreparation : Ask → Bool
  | .lookUp (.style _) | .lookUp (.noteById _ _) | .lookUp (.notesByTitle _ _)
  | .lookUp (.notesByText _ _ _) => true
  | _ => false

theorem Ask.Prepares.isPreparation {ownerId : String} {question : Ask}
    (prepares : question.Prepares ownerId) : question.isPreparation = true := by
  match question with
  | .generate _ _ _ _ | .embedQuery _ _ | .embedPassages _ => exact prepares.elim
  | .lookUp lookup =>
      cases lookup with
      | style | noteById | notesByTitle | notesByText => rfl
      | setting | recollect | remember | notesByTerms | similarChunks => exact prepares.elim

/-- Other questions than those of a preparation. -/
abbrev Ask.IsOther (question : Ask) : Prop := question.isPreparation = false

theorem Retrieval.openingQuestion_isOther (config : RetrievalConfig) (ownerId query : String)
    (filter : NoteFilter) : (openingQuestion config ownerId query filter).IsOther := by
  unfold openingQuestion
  cases wordSearch? query filter <;> rfl

/-- A search has something to ask. -/
theorem Retrieval.search_asks (config : RetrievalConfig) (ownerId query : String)
    (filter : NoteFilter) :
    ∃ next, search config ownerId query filter =
      .ask (openingQuestion config ownerId query filter) next := by
  unfold openingQuestion
  cases called : wordSearch? query filter with
  | some words =>
      rw [search_eq, find_of_words called]
      exact ⟨_, rfl⟩
  | none =>
      obtain ⟨next, same, -⟩ := search_of_meaning config ownerId called
      exact ⟨next, same⟩

namespace Dialogue

variable (setting : TurnSetting) (session : Session) (question : String)

theorem act_begins (action : PlanAction) :
    (act setting session action question).Begins Ask.IsOther := by
  rcases act_cases setting session action question with ⟨-, acts⟩ | ⟨-, changed, -, acts⟩
  · rw [acts]
    trivial
  · rw [acts]
    rfl

theorem searchAndAnswer_begins (retrieval : RetrievalConfig) (userId query : String) :
    (searchAndAnswer setting retrieval userId session query question).Begins Ask.IsOther := by
  obtain ⟨next, asks⟩ := Retrieval.search_asks retrieval userId query {}
  unfold searchAndAnswer searchAndAnswerWith
  rw [asks]
  exact Retrieval.openingQuestion_isOther _ _ _ _

theorem reply_begins (retrieval : RetrievalConfig) (userId : String) :
    (Dialogue.reply setting retrieval userId session question).Begins Ask.IsOther := by
  refine Begins.andThen ?_ fun plan => ?_
  · unfold Dialogue.plan
    cases session.candidates.isEmpty with
    | true => trivial
    | false => rfl
  · cases plan.action with
    | search query => exact searchAndAnswer_begins setting session question retrieval userId query
    | select _ | switch _ | answerCurrent | answerAll | clarify =>
        exact act_begins setting session question _

end Dialogue

/-! ## Whole turns -/

/-- How many notes a turn refers to. -/
def TurnRequest.referenceCount (request : TurnRequest) : Nat :=
  if request.attached.isEmpty then request.mentions.length else request.attached.length

/-- After the preparation, every answer is bearable. -/
def FailuresContained (course : Course) : Prop :=
  ∀ step ∈ course.dropWhile (·.question.isPreparation), IsBearable step

namespace Turn

variable {config : Config} {request : TurnRequest} {selected : StyledSelection} {session : Session}
  {references : List ResolvedReference} {course : Course} {ending : Ending (TurnResult × Session)}

theorem resolve_ends (selection : ModeSelection) :
    (StyledSelection.resolve selection).Ends (fun _ => True) (fun _ => True) (fun _ => False) := by
  unfold StyledSelection.resolve
  cases selection.styleKey with
  | none => trivial
  | some key => exact fun _ _ => trivial

theorem references_end {mentions : List Mention}
    (few : (if request.attached.isEmpty then mentions.length else request.attached.length) ≤
      config.turn.maxReferences) :
    (Turn.references config.turn request mentions).Ends (fun _ => True) (fun _ => True)
      (fun _ => False) := by
  unfold Turn.references
  by_cases attached : request.attached.isEmpty = true
  · rw [if_pos attached] at few ⊢
    rw [checkCount, if_neg (Nat.not_lt.mpr few)]
    exact Mention.resolveAll_ends request.userId mentions
  · rw [if_neg attached] at few ⊢
    rw [checkCount, if_neg (Nat.not_lt.mpr few)]
    trivial

/-- A preparation never fails, whatever comes of the lookups. -/
theorem prepare_ends (few : request.referenceCount ≤ config.turn.maxReferences) :
    (prepare config request session).Ends (fun _ => True) (fun _ => True) (fun _ => False) :=
  (resolve_ends _).andThen fun _ _ => (references_end few).andThen fun _ _ => trivial

theorem history_of_window {history : List Message}
    (window : windowOf config request selected = some history) :
    Turn.history config.turn selected.selection.mode request.history = .done history := by
  rw [windowOf] at window
  rw [Turn.history, window]

theorem replyFromReferences_succeeds (setting : TurnSetting) (question : String) :
    (replyFromReferences setting references question).Succeeds := by
  unfold replyFromReferences
  cases setting.selected.selection.mode.isBypass with
  | true => exact setting.replyDirectly_succeeds _ _
  | false => exact setting.answer_succeeds _ _

/-- A turn is answered in whatever way it calls for. -/
theorem route_succeeds (window : windowOf config request selected ≠ none) (question : String) :
    (route config request selected session references question).Succeeds := by
  obtain ⟨history, given⟩ := Option.ne_none_iff_exists'.mp window
  have loads := history_of_window given
  rcases route_cases config request selected session references question with
    ⟨-, routes⟩ | ⟨-, -, routes⟩ | ⟨-, -, -, routes⟩ | ⟨-, -, -, routes⟩
  · rw [routes, loads]
    exact (replyFromReferences_succeeds _ _).andThen fun _ _ => trivial
  · rw [routes]
    trivial
  · rw [routes, loads]
    exact (TurnSetting.replyDirectly_succeeds _ _ _).andThen fun _ _ => trivial
  · rw [routes, loads]
    exact Dialogue.reply_succeeds _ _ _ _ _

/-- The first question of an answer is none of a preparation. -/
theorem route_begins (question : String) :
    (route config request selected session references question).Begins Ask.IsOther := by
  have loads : (Turn.history config.turn selected.selection.mode request.history).Begins
      Ask.IsOther := by
    unfold Turn.history
    cases historyWindow? config.turn.historyTurns selected.selection.mode request.history <;> trivial
  rcases route_cases config request selected session references question with
    ⟨-, routes⟩ | ⟨-, -, routes⟩ | ⟨-, -, -, routes⟩ | ⟨-, -, -, routes⟩
  · rw [routes]
    refine loads.andThen fun history => Begins.andThen ?_ fun _ => trivial
    unfold replyFromReferences
    simp only
    cases selected.selection.mode.isBypass <;> rfl
  · rw [routes]
    trivial
  · rw [routes]
    exact loads.andThen fun history => rfl
  · rw [routes]
    exact loads.andThen fun history => Dialogue.reply_begins _ _ _ _ _

/-- **A turn contains its failures.**  It ends well if it refers to no more notes than it may, has a window
of earlier messages and is not broken off, as long as all answers after its preparation are bearable. -/
theorem run_succeeds (few : request.referenceCount ≤ config.turn.maxReferences)
    (window : 1 ≤ config.turn.historyTurns)
    (taken : (Turn.run config request session).Takes course ending) (finished : ending ≠ .brokenOff)
    (contained : FailuresContained course) : ∃ result, ending = .done result := by
  rw [run_eq_prepare] at taken
  obtain ⟨preparing, answering, ⟨selected, references⟩, rfl, prepared, further⟩ :=
    takes_andThen_of_ends (prepare_ends few) taken finished
  have prepares : ∀ step ∈ preparing, step.question.isPreparation = true := fun step member =>
    (prepared.asked (prepare_asksOnly config request session) step member).isPreparation
  have bearable : ∀ step ∈ answering, IsBearable step := by
    unfold FailuresContained at contained
    rw [List.dropWhile_append_of_pos prepares] at contained
    cases answering with
    | nil => simp
    | cons first rest =>
        have other : Ask.IsOther first.question := by
          refine Begins.of_takes ?_ further
          exact (route_begins request.question).andThen fun _ => trivial
        simpa only [List.dropWhile_cons, show first.question.isPreparation = false from other,
          Bool.false_eq_true, if_false] using contained
  have hasWindow : windowOf config request selected ≠ none := by
    intro missing
    have noTurns := (windowOf_eq_none_iff.mp missing).1
    omega
  have ends : IsEnding (fun _ => True) (fun _ => False) ending := by
    refine Ends.of_takes ?_ further bearable
    exact (route_succeeds hasWindow request.question).andThen fun _ _ => trivial
  cases ending with
  | done result => exact ⟨result, rfl⟩
  | failed | crashed => exact ends.elim
  | brokenOff => exact absurd rfl finished

end Turn

end NoteDialogue
