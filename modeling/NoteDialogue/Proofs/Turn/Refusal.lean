import NoteDialogue.Proofs.Turn.Crash
import NoteDialogue.Proofs.Turn.Search

/-!
# Refused actions

An action may be refused by the session to which it is applied, and there are four reasons for it.  A turn
only ever meets one of them, that nothing is in focus: a plan points at candidates of the very session to
which it is applied, and is never applied to a session without candidates.

To say so without looking at runs, the turn has a gap, the way of going on after a refusal (`Refusal`), in
which the turn that is run asks back.  Whatever else is done about the three other reasons, even a crash,
gives the same turn (`runWith_eq_run`).

A refused action changes nothing, so that a turn which asks back keeps the session, but for the mode in
force and for a search that it made (`FromNotes.kept_of_clarify`).
-/

set_option autoImplicit false

namespace NoteDialogue

open Interaction Retrieval

/-! ## The turn with a gap -/

/-- When nothing is in focus, ask back; about the other reasons nothing is said. -/
structure Refusal.AsksBackUnfocused (refusal : Refusal) : Prop where
  switch : ∀ session, refusal (.missingFocus .switch) session = .done (.clarify session, session)
  answerCurrent : ∀ session,
    refusal (.missingFocus .answerCurrent) session = .done (.clarify session, session)

/-! ## Actions that are validated -/

/-- An action is no search, and points at a candidate of the session if it points anywhere. -/
structure Session.Admits (session : Session) (action : PlanAction) : Prop where
  found : session.candidates ≠ []
  noSearch : ∀ query, action ≠ .search query
  inside : ∀ index, action.targetIndex? = some index → index < session.candidates.length

/-- **What a session refuses of such actions it refuses for want of a focus.** -/
theorem Session.Admits.refused {session : Session} {action : PlanAction} {error : TransitionError}
    (admits : session.Admits action) (refused : session.apply action = .error error) :
    session.focus = none ∧
      (error = .missingFocus .switch ∨ error = .missingFocus .answerCurrent) := by
  cases action with
  | search query => exact absurd rfl (admits.noSearch query)
  | select index =>
      have fits := Session.apply_select_of_lt (admits.inside index rfl)
      rw [fits] at refused
      cases refused
  | switch index =>
      cases focus : session.focus with
      | none =>
          have missing := (Session.apply_unfocused focus index).1
          rw [missing] at refused
          cases refused
          exact ⟨rfl, .inl rfl⟩
      | some focused =>
          have same : session.apply (.switch index) = session.apply (.select index) := by
            simp [Session.apply, focus]
          rw [same, Session.apply_select_of_lt (admits.inside index rfl)] at refused
          cases refused
  | answerCurrent =>
      cases focus : session.focus with
      | none =>
          have missing := (Session.apply_unfocused focus 0).2
          rw [missing] at refused
          cases refused
          exact ⟨rfl, .inr rfl⟩
      | some focused => simp [Session.apply, focus] at refused
  | answerAll =>
      rw [Session.apply_answerAll admits.found] at refused
      cases refused
  | clarify => cases refused

/-- A plan for the candidates of a session, unless it is to search. -/
theorem Session.admits_ofAnswer {session : Session} {answer : TimedAnswer String}
    (found : session.candidates ≠ [])
    (noSearch : ∀ query, (ActionPlan.ofAnswer session.candidates.length answer).action ≠ .search query) :
    session.Admits (ActionPlan.ofAnswer session.candidates.length answer).action where
  found := found
  noSearch := noSearch
  inside := fun _ targets => ActionPlan.targetIndex_lt targets

theorem PlanAction.afterSearch_ne_search (action : PlanAction) (query : String) :
    action.afterSearch ≠ .search query := by
  cases action <;> exact nofun

theorem PlanAction.targetIndex?_afterSearch (action : PlanAction) :
    action.afterSearch.targetIndex? = action.targetIndex? := by
  cases action <;> rfl

/-- A plan for the notes that were just found; to search again is to ask back. -/
theorem Session.admits_afterSearch {session : Session} {answer : TimedAnswer String}
    (found : session.candidates ≠ []) :
    session.Admits (ActionPlan.ofAnswer session.candidates.length answer).action.afterSearch where
  found := found
  noSearch := PlanAction.afterSearch_ne_search _
  inside := fun index targets => by
    rw [PlanAction.targetIndex?_afterSearch] at targets
    exact ActionPlan.targetIndex_lt targets

/-! ## Only one refusal is ever met -/

section

variable {refusal : Refusal} (asksBack : refusal.AsksBackUnfocused)
include asksBack

namespace Dialogue

variable (setting : TurnSetting) {session : Session} (question : String)

theorem actWith_eq_act {action : PlanAction} (admits : session.Admits action) :
    actWith refusal setting session action question = act setting session action question := by
  unfold act actWith
  by_cases isClarify : (action.kind == .clarify) = true
  · rw [if_pos isClarify, if_pos isClarify]
  · rw [if_neg isClarify, if_neg isClarify]
    cases applied : session.apply action with
    | ok changed => rfl
    | error error =>
        rcases admits.refused applied with ⟨-, rfl | rfl⟩
        · exact asksBack.switch session
        · exact asksBack.answerCurrent session

theorem continueSearchWith_eq (session : Session) (query : String) (found : SearchResult) :
    continueSearchWith refusal setting session query question found =
      continueSearch setting session query question found := by
  rcases found with ⟨documents, strategy, ambiguity⟩
  rcases documents with _ | ⟨first, _ | ⟨second, others⟩⟩
  · rfl
  · have admits : (session.recordSearch query [first]).Admits (.select 0) :=
      ⟨List.cons_ne_nil _ _, nofun, fun index picked => by cases picked; exact Nat.zero_lt_one⟩
    have same := actWith_eq_act asksBack setting question admits
    simp only [continueSearchWith, continueSearch, same]
    rfl
  · cases ambiguity with
    | none => rfl
    | some reason =>
        -- The second plan is made for the notes that were just found.
        have found : (session.recordSearch query (first :: second :: others)).candidates ≠ [] :=
          List.cons_ne_nil _ _
        refine congrArg (Interaction.ask _) (funext fun answer => ?_)
        have admits := @Session.admits_afterSearch _ answer found
        have same := actWith_eq_act asksBack setting question admits
        exact congrArg (fun acting : Interaction Outcome => acting.andThen fun ending =>
          .done ({ ending.1 with strategy := some strategy }, ending.2)) same

theorem searchAndAnswerWith_eq (retrieval : RetrievalConfig) (userId : String) (session : Session)
    (query : String) :
    searchAndAnswerWith refusal setting retrieval userId session query question =
      searchAndAnswer setting retrieval userId session query question := by
  refine congrArg (Interaction.andThen _) (funext fun outcome => ?_)
  cases outcome with
  | ok found => exact continueSearchWith_eq asksBack setting question session query found
  | error failure => rfl

/-- Only what is planned is ever applied, so that nothing else is refused. -/
theorem replyWith_eq (retrieval : RetrievalConfig) (userId : String) (session : Session) :
    replyWith refusal setting retrieval userId session question =
      Dialogue.reply setting retrieval userId session question := by
  unfold Dialogue.reply replyWith Dialogue.plan
  cases candidates : session.candidates with
  | nil =>
      simp only [List.isEmpty_nil, if_true]
      exact searchAndAnswerWith_eq asksBack setting question retrieval userId session question
  | cons first rest =>
      have found : session.candidates ≠ [] := by simp [candidates]
      simp only [List.isEmpty_cons, Bool.false_eq_true, if_false]
      refine congrArg (Interaction.ask _) (funext fun answer => ?_)
      have planned := @Session.admits_ofAnswer session answer found
      simp only [pure, Interaction.andThen]
      cases action : (ActionPlan.ofAnswer session.candidates.length answer).action with
      | search query =>
          exact searchAndAnswerWith_eq asksBack setting question retrieval userId session query
      | select _ | switch _ | answerCurrent | answerAll | clarify =>
          rw [action] at planned
          have admits := planned fun query same => by cases same
          exact actWith_eq_act asksBack setting question admits

end Dialogue

namespace Turn

theorem routeWith_eq_route (config : Config) (request : TurnRequest) (selected : StyledSelection)
    (session : Session) (references : List ResolvedReference) (question : String) :
    routeWith refusal config request selected session references question =
      route config request selected session references question := by
  unfold route routeWith
  simp only [Dialogue.replyWith_eq asksBack]
  rfl

/-- **Whatever is done about the other refusals, it is the same turn.** -/
theorem runWith_eq_run (config : Config) (request : TurnRequest) (session : Session) :
    runWith refusal config request session = Turn.run config request session := by
  unfold Turn.run runWith
  simp only [routeWith_eq_route asksBack]
  rfl

end Turn

end

/-! ## Turns that ask back -/

namespace Dialogue

variable {setting : TurnSetting} {retrieval : RetrievalConfig} {userId question : String}
  {session after : Session} {action : PlanAction} {course : Course} {reply : TurnReply}

/-- A refused action leaves the session as it is, and the turn asks back. -/
theorem act_of_refused {error : TransitionError} (refused : session.apply action = .error error) :
    act setting session action question = .done (.clarify session, session) := by
  rcases act_cases setting session action question with ⟨-, acts⟩ | ⟨-, changed, applied, -⟩
  · exact acts
  · rw [refused] at applied
    cases applied

/-- Acting on a session asks back without a call, and only when it keeps the session. -/
theorem Acted.kept_of_clarify (acted : Acted setting session action question course reply after)
    (clarifies : reply.action = some .clarify) : course = [] ∧ after = session := by
  cases acted with
  | askedBack => exact ⟨rfl, rfl⟩
  | answered notAskingBack =>
      have isClarify : action.kind = .clarify := Option.some.inj clarifies
      cases action with
      | clarify => exact absurd rfl notAskingBack
      | search | select | switch | answerCurrent | answerAll => cases isClarify

/-- **A message that is answered by asking back keeps the session**, but for a search that was made. -/
theorem FromNotes.kept_of_clarify
    (answered : FromNotes setting retrieval userId session question course reply after)
    (clarifies : reply.action = some .clarify) :
    after = session ∨
      ∃ query found searching, (∀ step ∈ searching, step ∈ course) ∧
        (Retrieval.search retrieval userId query {}).Takes searching (.done found) ∧
        after = session.recordSearch query found.documents := by
  cases answered with
  | acted _ _ acted => exact .inl (acted.kept_of_clarify clarifies).2
  | unavailable => cases clarifies
  | @searched planning searching continuing query found _ _ _ searched continued =>
      cases continued with
      | nothing | one | all => cases clarifies
      | planned _ _ _ acted =>
          refine .inr ⟨query, found, searching, fun step member => ?_, searched, ?_⟩
          · exact List.mem_append_right _ (List.mem_append_left _ member)
          · exact (acted.kept_of_clarify clarifies).2

end Dialogue

namespace Turn

/-- A turn that asks back without having searched keeps its session, but for the mode in force. -/
theorem kept_of_clarify {config : Config} {request : TurnRequest} {session after : Session}
    {course : Course} {result : TurnResult}
    (taken : (Turn.run config request session).Takes course (.done (result, after)))
    (clarifies : result.action = some .clarify)
    (unsearched : ∀ step ∈ course, opensSearch step.question = false) :
    ∃ mode, after = { session with stickyMode := mode } := by
  obtain ⟨styling, referring, answering, selected, references, reply, rfl, -, -, routed, rfl⟩ :=
    run_takes_done taken
  cases routed with
  | referred | shared | past => cases clarifies
  | fixed =>
      have silent := (citations_replyWithoutQuestion selected.selection references).2
      exact absurd (silent.symm.trans clarifies) nofun
  | fromNotes _ _ _ _ answered =>
      rcases answered.kept_of_clarify clarifies with
        rfl | ⟨query, found, searching, inside, searched, -⟩
      · exact ⟨_, rfl⟩
      · obtain ⟨first, rest, rfl, opening, -⟩ := search_opens searched nofun
        have opens := unsearched first (List.mem_append_right _
          (List.mem_append_right _ (inside first List.mem_cons_self)))
        rw [opening, opensSearch_openingQuestion] at opens
        cases opens

end Turn

end NoteDialogue
