import NoteDialogue.Proofs.Calls
import NoteDialogue.Proofs.Turn.Refusal

/-!
# The calls of a turn

A turn may call the model to plan, the embedder to search, the model to plan once more and the model to
reply, each once and in this order, wherever it ends (`Turn.run_calls`).  It plans once more only after a
plan to search whose search was ambiguous (`Turn.plansTwice_of_takes`).
-/

set_option autoImplicit false

namespace NoteDialogue

open Interaction Retrieval

/-! ## What a turn may call for -/

theorem Ask.Prepares.needsNoCall {ownerId : String} {question : Ask}
    (prepares : question.Prepares ownerId) : question.NeedsNoCall := by
  match question with
  | .generate _ _ _ _ | .embedQuery _ _ | .embedPassages _ => exact prepares.elim
  | .lookUp _ => rfl

namespace TurnSetting

theorem generate_calls (setting : TurnSetting) (messages : List Message) :
    (setting.generate messages).Calls [.answering] := by
  refine Calls.andThen (.request (.generate .answering _ _ _)) fun answer => ?_
  rcases answer with answer | _
  · exact .ofExcept answer
  · exact .failed _

theorem answer_calls (setting : TurnSetting) (documents : List Document) (question : String) :
    (setting.answer documents question).Calls [.answering] :=
  (setting.generate_calls _).andThen_quiet fun _ => .done _

theorem replyDirectly_calls (setting : TurnSetting) (shared : List Message) (question : String) :
    (setting.replyDirectly shared question).Calls [.answering] :=
  (setting.generate_calls _).andThen_quiet fun _ => .done _

end TurnSetting

theorem planTurn_calls (timeout : Nat) (session : Session) (question : String)
    (history : List Message) (hint : Option String) :
    (planTurn timeout session question history hint).Calls [.planning] :=
  Calls.andThen (.request (.generate .planning _ _ _)) fun _ => .done _

namespace Dialogue

variable (setting : TurnSetting) (retrieval : RetrievalConfig) (userId : String) (session : Session)
  (query question : String)

theorem act_calls (action : PlanAction) :
    (act setting session action question).Calls [.answering] := by
  rcases act_cases setting session action question with ⟨-, acts⟩ | ⟨-, changed, -, acts⟩
  · rw [acts]
    exact .done _
  · rw [acts]
    exact (setting.answer_calls _ _).andThen_quiet fun _ => .done _

/-- Going on after a search plans only when the search was ambiguous. -/
theorem continueSearch_calls_of_clear {found : SearchResult}
    (clear : ¬ (1 < found.documents.length ∧ found.ambiguity ≠ none)) :
    (continueSearch setting session query question found).Calls [.answering] := by
  rcases found with ⟨documents, strategy, ambiguity⟩
  match documents with
  | [] => exact .done _
  | [_] => exact (act_calls setting _ question _).andThen_quiet fun _ => .done _
  | first :: second :: others =>
      cases ambiguity with
      | none => exact (setting.answer_calls _ _).andThen_quiet fun _ => .done _
      | some reason => exact absurd ⟨by simp, nofun⟩ clear

theorem continueSearch_calls (found : SearchResult) :
    (continueSearch setting session query question found).Calls [.planning, .answering] := by
  by_cases unclear : 1 < found.documents.length ∧ found.ambiguity ≠ none
  · rcases found with ⟨documents, strategy, ambiguity⟩
    match documents, ambiguity with
    | first :: second :: others, some reason =>
        exact (planTurn_calls _ _ _ _ _).andThen fun plan =>
          (act_calls setting _ question _).andThen_quiet fun _ => .done _
    | _ :: _ :: _, none => exact absurd rfl unclear.2
    | [], _ | [_], _ => simp at unclear
  · exact (continueSearch_calls_of_clear setting session query question unclear).mono
      (List.sublist_cons_self _ _)

theorem searchFailed_calls (failure : Failure) : (searchFailed failure session).Calls [] := by
  unfold searchFailed
  split
  · exact .failed failure
  · exact .done _

theorem searchAndAnswer_calls :
    (searchAndAnswer setting retrieval userId session query question).Calls
      [.embedding, .planning, .answering] := by
  refine (search_calls retrieval userId query {}).attempt.andThen fun outcome => ?_
  cases outcome with
  | ok found => exact continueSearch_calls setting session query question found
  | error failure => exact (searchFailed_calls session failure).mono (List.nil_sublist _)

theorem plan_calls : (Dialogue.plan setting session question).Calls [.planning] := by
  unfold Dialogue.plan
  cases session.candidates.isEmpty with
  | true => exact .done _
  | false => exact planTurn_calls _ _ _ _ _

end Dialogue

/-- The calls of a turn, if it makes them all. -/
def turnCalls : List ProviderCall :=
  [.planning, .embedding, .planning, .answering]

theorem Dialogue.reply_calls (setting : TurnSetting) (retrieval : RetrievalConfig) (userId : String)
    (session : Session) (question : String) :
    (Dialogue.reply setting retrieval userId session question).Calls turnCalls := by
  refine (Dialogue.plan_calls setting session question).andThen fun plan => ?_
  cases plan.action with
  | search query => exact Dialogue.searchAndAnswer_calls setting retrieval userId session query question
  | select _ | switch _ | answerCurrent | answerAll | clarify =>
      exact (Dialogue.act_calls setting session question _).mono (by decide)

namespace Turn

theorem prepare_calls (config : Config) (request : TurnRequest) (session : Session) :
    (prepare config request session).Calls [] :=
  ((prepare_asksOnly config request session).mono fun _ prepares => prepares.needsNoCall).calls

theorem history_calls (config : TurnConfig) (mode : ChatMode) (messages : List Message) :
    (Turn.history config mode messages).Calls [] := by
  unfold Turn.history
  cases historyWindow? config.historyTurns mode messages with
  | none => exact .crashed
  | some window => exact .done window

theorem replyFromReferences_calls (setting : TurnSetting) (references : List ResolvedReference)
    (question : String) : (replyFromReferences setting references question).Calls [.answering] := by
  unfold replyFromReferences
  by_cases bypass : setting.selected.selection.mode.isBypass = true
  · simp only [if_pos bypass]
    exact setting.replyDirectly_calls _ _
  · simp only [if_neg bypass]
    exact setting.answer_calls _ _

section

variable {config : Config} {request : TurnRequest} {selected : StyledSelection} {session : Session}
  {references : List ResolvedReference} {question : String}

/-- A turn calls the model for a reply at most, unless it is answered from the notes. -/
theorem route_calls_or (config : Config) (request : TurnRequest) (selected : StyledSelection)
    (session : Session) (references : List ResolvedReference) (question : String) :
    (route config request selected session references question).Calls [.answering] ∨
      route config request selected session references question =
        (Turn.history config.turn selected.selection.mode request.history).andThen fun history =>
          Dialogue.reply ⟨config.turn, selected, history⟩ config.retrieval request.userId session
            question := by
  rcases route_cases config request selected session references question with
    ⟨-, routes⟩ | ⟨-, -, routes⟩ | ⟨-, -, -, routes⟩ | ⟨-, -, -, routes⟩
  · rw [routes]
    refine .inl ((history_calls _ _ _).andThen fun history => ?_)
    exact (replyFromReferences_calls _ references question).andThen_quiet fun _ => .done _
  · rw [routes]
    exact .inl (.done _)
  · rw [routes]
    refine .inl ((history_calls _ _ _).andThen fun history => ?_)
    exact (TurnSetting.replyDirectly_calls _ [] question).andThen_quiet fun _ => .done _
  · exact .inr routes

theorem route_calls : (route config request selected session references question).Calls turnCalls := by
  rcases route_calls_or config request selected session references question with answers | routes
  · exact answers.mono (by decide)
  · rw [routes]
    exact (history_calls _ _ _).andThen fun history => Dialogue.reply_calls _ _ _ session question

end

/-- **A turn makes each of its calls at most as often as planned, and in the order of the plan**, wherever
it ends. -/
theorem run_calls (config : Config) (request : TurnRequest) (session : Session) :
    (Turn.run config request session).Calls turnCalls := by
  rw [run_eq_prepare]
  refine (prepare_calls config request session).andThen fun (selected, references) => ?_
  exact route_calls.andThen_quiet fun _ => .done _

end Turn

/-! ## Planning twice -/

/-- A plan that was asked of the model, with what it answered. -/
def planStep (shown : List Message) (limit : Nat) (answer : TimedAnswer String) : Answered :=
  ⟨.generate .planning shown planningOptions limit, answer⟩

/-- After some plan to search, whose search was ambiguous, a course goes on with another plan. -/
def PlansAgain (retrieval : RetrievalConfig) (userId query : String) (course : Course) : Prop :=
  ∃ (searching rest : Course) (found : SearchResult) (reason : AmbiguityReason)
    (shown : List Message) (limit : Nat) (answer : TimedAnswer String),
    course = searching ++ planStep shown limit answer :: rest ∧
    (search retrieval userId query {}).Takes searching (.done found) ∧
    1 < found.documents.length ∧ found.ambiguity = some reason

/-- A course plans to search, for one of so many candidates, and then plans again. -/
def PlansTwice (retrieval : RetrievalConfig) (userId : String) (candidates : Nat) (course : Course) :
    Prop :=
  ∃ (before after : Course) (shown : List Message) (limit : Nat) (answer : TimedAnswer String)
    (query : String),
    course = before ++ planStep shown limit answer :: after ∧ providerCalls before = [] ∧
    (ActionPlan.ofAnswer candidates answer).action = .search query ∧
    PlansAgain retrieval userId query after

namespace Dialogue

variable {setting : TurnSetting} {retrieval : RetrievalConfig} {userId query question : String}
  {session : Session} {course : Course} {ending : Ending Outcome}

/-- When the model is asked for a plan after a search, the search was ambiguous. -/
theorem continueSearch_plans {found : SearchResult}
    (taken : (continueSearch setting session query question found).Takes course ending)
    (plans : .planning ∈ providerCalls course) :
    ∃ reason shown limit answer rest, 1 < found.documents.length ∧ found.ambiguity = some reason ∧
      course = planStep shown limit answer :: rest := by
  by_cases unclear : 1 < found.documents.length ∧ found.ambiguity ≠ none
  · rcases found with ⟨documents, strategy, ambiguity⟩
    match documents, ambiguity with
    | first :: second :: others, some reason =>
        rcases takes_ask.mp taken with ⟨rfl, -⟩ | ⟨answer, rest, rfl, -⟩
        · simp [providerCalls] at plans
        · exact ⟨reason, _, _, answer, rest, unclear.1, rfl, rfl⟩
    | _ :: _ :: _, none => exact absurd rfl unclear.2
    | [], _ | [_], _ => simp at unclear
  · have calls := continueSearch_calls_of_clear setting session query question unclear course ending taken
    have answers := calls.subset plans
    simp at answers

theorem searchAndAnswer_plans
    (taken : (searchAndAnswer setting retrieval userId session query question).Takes course ending)
    (plans : .planning ∈ providerCalls course) : PlansAgain retrieval userId query course := by
  have searches := (search_calls retrieval userId query {}).attempt
  rcases takes_andThen taken with ⟨stopped, takes, -⟩ | ⟨searching, rest, outcome, rfl, takes, later⟩
  · have embeds := (searches course stopped takes).subset plans
    simp at embeds
  · rw [providerCalls_append, List.mem_append] at plans
    have plansLater : .planning ∈ providerCalls rest := by
      refine plans.resolve_left fun early => ?_
      have embeds := (searches searching _ takes).subset early
      simp at embeds
    cases outcome with
    | error failure =>
        have calls := (searchFailed_calls session failure rest ending later).subset plansLater
        simp at calls
    | ok found =>
        obtain ⟨reason, shown, limit, answer, others, several, unclear, rfl⟩ :=
          continueSearch_plans later plansLater
        exact ⟨searching, others, found, reason, shown, limit, answer, rfl, takes_attempt_ok.mp takes,
          several, unclear⟩

/-- Answering a message about the notes plans twice only about an ambiguous search. -/
theorem reply_plansTwice
    (taken : (Dialogue.reply setting retrieval userId session question).Takes course ending)
    (twice : 2 ≤ (providerCalls course).count .planning) :
    PlansTwice retrieval userId session.candidates.length course := by
  have plans := plan_calls setting session question
  rcases takes_andThen taken with ⟨stopped, takes, -⟩ | ⟨planning, rest, plan, rfl, takes, later⟩
  · have once := (plans course stopped takes).count_le .planning
    simp at once
    omega
  · have once := (plans planning _ takes).count_le .planning
    rw [providerCalls_append, List.count_append] at twice
    simp at once
    have plansLater : .planning ∈ providerCalls rest := List.count_pos_iff.mp (by omega)
    have planned := plan_takes_done takes
    generalize plan.action = action at planned later
    cases planned with
    | initial none =>
        -- Without candidates only the search can lead to a plan, and to one at most.
        have calls := (searchAndAnswer_calls setting retrieval userId session question question
          rest ending later).count_le .planning
        simp [providerCalls] at twice calls
        omega
    | asked found answer =>
        cases action : (ActionPlan.ofAnswer session.candidates.length answer).action with
        | search sought =>
            rw [action] at later
            exact ⟨[], rest, _, _, answer, sought, rfl, rfl, action,
              searchAndAnswer_plans later plansLater⟩
        | select _ | switch _ | answerCurrent | answerAll | clarify =>
            rw [action] at later
            have calls := (act_calls setting session question _ rest ending later).subset plansLater
            simp at calls

end Dialogue

theorem PlansTwice.after_quiet {retrieval : RetrievalConfig} {userId : String} {candidates : Nat}
    {before course : Course} (twice : PlansTwice retrieval userId candidates course)
    (quiet : providerCalls before = []) :
    PlansTwice retrieval userId candidates (before ++ course) := by
  obtain ⟨early, after, shown, limit, answer, query, rfl, earlyQuiet, searches, again⟩ := twice
  refine ⟨before ++ early, after, shown, limit, answer, query, ?_, ?_, searches, again⟩
  · rw [List.append_assoc]
  · rw [providerCalls_append, quiet, earlyQuiet, List.append_nil]

namespace Turn

variable {config : Config} {request : TurnRequest} {session : Session} {course : Course}

theorem route_plansTwice {selected : StyledSelection} {references : List ResolvedReference}
    {question : String} {ending : Ending Outcome}
    (taken : (route config request selected session references question).Takes course ending)
    (twice : 2 ≤ (providerCalls course).count .planning) :
    PlansTwice config.retrieval request.userId session.candidates.length course := by
  rcases route_calls_or config request selected session references question with answers | routes
  · have never := (answers course ending taken).count_le .planning
    simp at never
    omega
  · rw [routes] at taken
    have plans : .planning ∈ providerCalls course := List.count_pos_iff.mp (by omega)
    have some := List.ne_nil_of_mem plans
    obtain ⟨loading, rest, history, rfl, quiet, -, later⟩ :=
      (history_calls _ _ _).takes_later taken some
    rw [providerCalls_append, quiet, List.nil_append] at twice
    exact (Dialogue.reply_plansTwice later twice).after_quiet quiet

/-- **A turn plans twice only when its first plan was to search and the search was ambiguous**, wherever
it ends. -/
theorem plansTwice_of_takes {ending : Ending (TurnResult × Session)}
    (taken : (Turn.run config request session).Takes course ending)
    (twice : 2 ≤ (providerCalls course).count .planning) :
    PlansTwice config.retrieval request.userId session.candidates.length course := by
  rw [run_eq_prepare] at taken
  have plans : .planning ∈ providerCalls course := List.count_pos_iff.mp (by omega)
  have some := List.ne_nil_of_mem plans
  obtain ⟨preparing, rest, ⟨selected, references⟩, rfl, quiet, -, later⟩ :=
    (prepare_calls config request session).takes_later taken some
  rw [providerCalls_append, quiet, List.nil_append] at twice
  refine PlansTwice.after_quiet ?_ quiet
  rcases takes_andThen later with
    ⟨stopped, routed, -⟩ | ⟨routing, last, ⟨reply, after⟩, rfl, routed, ends⟩
  · have replans := route_plansTwice routed twice
    exact replans
  · obtain ⟨rfl, -⟩ := takes_done.mp ends
    rw [List.append_nil] at twice ⊢
    have replans := route_plansTwice routed twice
    exact replans

end Turn

/-- A course plans first, for one of so many candidates, to search, and the search finds notes that are
ambiguous. -/
def SearchesUnclearly (retrieval : RetrievalConfig) (userId : String) (candidates : Nat)
    (course : Course) : Prop :=
  ∃ (before during rest : Course) (shown : List Message) (limit : Nat) (answer : TimedAnswer String)
    (query : String) (found : SearchResult) (reason : AmbiguityReason),
    course = before ++ planStep shown limit answer :: (during ++ rest) ∧ providerCalls before = [] ∧
    (ActionPlan.ofAnswer candidates answer).action = .search query ∧
    (search retrieval userId query {}).Takes during (.done found) ∧
    1 < found.documents.length ∧ found.ambiguity = some reason

/-- What led to a second plan was there before that plan was answered. -/
theorem PlansTwice.searchesUnclearly {retrieval : RetrievalConfig} {userId : String} {candidates : Nat}
    {course ahead : Course} (twice : PlansTwice retrieval userId candidates (course ++ ahead))
    (short : ahead.length ≤ 1) : SearchesUnclearly retrieval userId candidates course := by
  obtain ⟨before, after, shown, limit, answer, query, split, quiet, searches, searching, rest, found,
    reason, shownAgain, limitAgain, again, rfl, takes, several, unclear⟩ := twice
  have early : before ++ planStep shown limit answer :: searching <+: course := by
    have within : before ++ planStep shown limit answer :: searching <+: course ++ ahead := by
      rw [split]
      exact ⟨planStep shownAgain limitAgain again :: rest, by simp⟩
    refine List.prefix_of_prefix_length_le within (List.prefix_append course ahead) ?_
    have lengths := congrArg List.length split
    simp only [List.length_append, List.length_cons] at lengths ⊢
    omega
  obtain ⟨later, rfl⟩ := early
  exact ⟨before, searching, later, shown, limit, answer, query, found, reason, by simp, quiet, searches,
    takes, several, unclear⟩

end NoteDialogue
