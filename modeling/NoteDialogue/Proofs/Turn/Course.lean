import NoteDialogue.Proofs.Retrieval
import NoteDialogue.Proofs.Session
import NoteDialogue.Turn

/-!
# The courses of turns that end well

For each part of a turn about the notes: which courses it can take when it ends with a result, and what
the result then is.  An action is refused, and the turn asks back, or it is answered from the notes that
are then in scope (`Acted`).  A search that found notes goes on in one of four ways (`Continued`), and a
message about the notes is searched for or acted on (`FromNotes`).

A session changes only by recording a search and by applying an action, so that what both preserve the
whole turn preserves (`FromNotes.preserves`).
-/

set_option autoImplicit false

namespace NoteDialogue

open Interaction Retrieval

/-! ## Calls of the model -/

namespace TurnSetting

variable {setting : TurnSetting} {course : Course}

/-- The question for a reply to some messages. -/
def replyQuestion (setting : TurnSetting) (messages : List Message) : Ask :=
  .generate .answering messages { model := setting.selected.model? } setting.config.generationTimeout

/-- The one call of a reply. -/
def replyCourse (setting : TurnSetting) (messages : List Message) (text : String) : Course :=
  [⟨setting.replyQuestion messages, (.inTime (.ok text) : TimedAnswer String)⟩]

/-- The one call of an answer from some notes. -/
def answerCourse (setting : TurnSetting) (documents : List Document) (question text : String) :
    Course :=
  setting.replyCourse (setting.groundedMessages documents question) text

/-- The question for a plan of a session's turn. -/
def planQuestion (setting : TurnSetting) (session : Session) (question : String)
    (hint : Option String) : Ask :=
  .generate .planning [Message.user (PlannerPrompt.render session question setting.history hint)]
    planningOptions setting.config.plannerTimeout

theorem generate_takes_done {messages : List Message} {text : String}
    (taken : (setting.generate messages).Takes course (.done text)) :
    course = setting.replyCourse messages text := by
  obtain ⟨asking, rest, answer, rfl, asked, given⟩ := takes_andThen_done.mp taken
  obtain rfl := takes_request_done.mp asked
  rcases answer with answer | _
  · obtain ⟨rfl, isText⟩ := takes_ofExcept_done.mp given
    subst isText
    rfl
  · obtain ⟨-, impossible⟩ := takes_failed.mp given
    cases impossible

theorem answer_takes_done {documents : List Document} {question : String} {reply : TurnReply}
    (taken : (setting.answer documents question).Takes course (.done reply)) :
    ∃ text, course = setting.answerCourse documents question text ∧
      reply = { text, citations := documents.map Document.citation } := by
  obtain ⟨generating, rest, text, rfl, generated, last⟩ := takes_andThen_done.mp taken
  obtain rfl := generate_takes_done generated
  obtain ⟨rfl, isReply⟩ := takes_done.mp last
  cases isReply
  exact ⟨text, rfl, rfl⟩

theorem replyDirectly_takes_done {shared : List Message} {question : String} {reply : TurnReply}
    (taken : (setting.replyDirectly shared question).Takes course (.done reply)) :
    ∃ text, course = setting.replyCourse (setting.directMessages shared question) text ∧
      reply = { text } := by
  obtain ⟨generating, rest, text, rfl, generated, last⟩ := takes_andThen_done.mp taken
  obtain rfl := generate_takes_done generated
  obtain ⟨rfl, isReply⟩ := takes_done.mp last
  cases isReply
  exact ⟨text, rfl, rfl⟩

end TurnSetting

theorem planTurn_takes_done {setting : TurnSetting} {session : Session} {question : String}
    {hint : Option String} {course : Course} {plan : ActionPlan}
    (taken : (planTurn setting.config.plannerTimeout session question setting.history hint).Takes
      course (.done plan)) :
    ∃ answer : TimedAnswer String, course = [⟨setting.planQuestion session question hint, answer⟩] ∧
      plan = ActionPlan.ofAnswer session.candidates.length answer := by
  obtain ⟨asking, rest, answer, rfl, asked, last⟩ := takes_andThen_done.mp taken
  obtain rfl := takes_request_done.mp asked
  obtain ⟨rfl, isPlan⟩ := takes_done.mp last
  cases isPlan
  exact ⟨answer, rfl, rfl⟩

namespace Dialogue

variable {setting : TurnSetting} {retrieval : RetrievalConfig} {userId query question : String}
  {session after : Session} {action : PlanAction} {found : SearchResult} {course : Course}
  {reply : TurnReply}

/-! ## Acting on a session -/

/-- Acting on a session asks back, or applies the action and answers from what is then in scope. -/
inductive Acted (setting : TurnSetting) (session : Session) (action : PlanAction)
    (question : String) : Course → TurnReply → Session → Prop where
  | askedBack (refused : action = .clarify ∨ ∃ error, session.apply action = .error error) :
      Acted setting session action question [] (.clarify session) session
  | answered (notAskingBack : action ≠ .clarify) {changed : Session}
      (applied : session.apply action = .ok changed) (text : String) :
      Acted setting session action question (setting.answerCourse changed.scope question text)
        { text, citations := changed.scope.map Document.citation, action := some action.kind }
        changed

/-- Acting on a session is asking back, or it is answering from what is then in scope. -/
theorem act_cases (setting : TurnSetting) (session : Session) (action : PlanAction) (question : String) :
    ((action = .clarify ∨ ∃ error, session.apply action = .error error) ∧
      act setting session action question = .done (.clarify session, session)) ∨
    (action ≠ .clarify ∧ ∃ changed, session.apply action = .ok changed ∧
      act setting session action question =
        (setting.answer changed.scope question).andThen fun reply =>
          .done ({ reply with action := some action.kind }, changed)) := by
  unfold act actWith
  by_cases asksBack : (action.kind == .clarify) = true
  · rw [if_pos asksBack]
    refine .inl ⟨.inl ?_, rfl⟩
    cases action <;> first | rfl | cases asksBack
  · rw [if_neg asksBack]
    cases applied : session.apply action with
    | error error => exact .inl ⟨.inr ⟨error, rfl⟩, rfl⟩
    | ok changed =>
        refine .inr ⟨?_, changed, rfl, rfl⟩
        rintro rfl
        exact asksBack rfl

theorem act_takes_done
    (taken : (act setting session action question).Takes course (.done (reply, after))) :
    Acted setting session action question course reply after := by
  rcases act_cases setting session action question with ⟨refused, acts⟩ | ⟨notAskingBack, changed, applied, acts⟩
  · rw [acts] at taken
    obtain ⟨rfl, same⟩ := takes_done.mp taken
    cases same
    exact .askedBack refused
  · rw [acts] at taken
    obtain ⟨answering, rest, answered, rfl, answer, last⟩ := takes_andThen_done.mp taken
    obtain ⟨text, rfl, rfl⟩ := TurnSetting.answer_takes_done answer
    obtain ⟨rfl, same⟩ := takes_done.mp last
    cases same
    rw [List.append_nil]
    exact .answered notAskingBack applied text

/-! ## Going on after a search -/

/-- After a search that found some notes: there are none; there is one, which is picked and answered
from; they are clear, and all are answered from; or the message is planned once more. -/
inductive Continued (setting : TurnSetting) (session : Session) (query question : String)
    (found : SearchResult) : Course → TurnReply → Session → Prop where
  | nothing (none : found.documents = []) :
      Continued setting session query question found []
        { text := noResultsReply query, action := some .search, strategy := some found.strategy }
        (session.recordSearch query found.documents)
  | one {document : Document} (single : found.documents = [document]) (text : String) :
      Continued setting session query question found (setting.answerCourse [document] question text)
        { text, citations := [document.citation], action := some .search,
          strategy := some found.strategy }
        ((session.recordSearch query found.documents).onNote document)
  | all (several : 1 < found.documents.length) (clear : found.ambiguity = none) (text : String) :
      Continued setting session query question found
        (setting.answerCourse found.documents question text)
        { text, citations := found.documents.map Document.citation, action := some .search,
          strategy := some found.strategy }
        (session.recordSearch query found.documents)
  | planned (several : 1 < found.documents.length) {reason : AmbiguityReason}
      (unclear : found.ambiguity = some reason) (answer : TimedAnswer String) {course : Course}
      {reply : TurnReply} {after : Session}
      (acted : Acted setting (session.recordSearch query found.documents)
        (ActionPlan.ofAnswer found.documents.length answer).action.afterSearch question
        course reply after) :
      Continued setting session query question found
        (⟨setting.planQuestion (session.recordSearch query found.documents) question
          (some (ambiguityHint reason)), answer⟩ :: course)
        { reply with strategy := some found.strategy } after

theorem act_select_first_takes_done {document : Document}
    (single : session.candidates = [document])
    (taken : (act setting session (.select 0) question).Takes course (.done (reply, after))) :
    ∃ text, course = setting.answerCourse [document] question text ∧
      reply = { text, citations := [document.citation], action := some .select } ∧
      after = session.onNote document := by
  have fits := Session.apply_select_single single
  cases act_takes_done taken with
  | askedBack refused =>
      rcases refused with impossible | ⟨error, impossible⟩
      · cases impossible
      · rw [fits] at impossible
        cases impossible
  | answered _ applied text =>
      rw [fits] at applied
      cases applied
      exact ⟨text, rfl, rfl, rfl⟩

theorem continueSearch_takes_done
    (taken : (continueSearch setting session query question found).Takes course
      (.done (reply, after))) :
    Continued setting session query question found course reply after := by
  rcases found with ⟨documents, strategy, ambiguity⟩
  match documents with
  | [] =>
      obtain ⟨rfl, same⟩ := takes_done.mp taken
      cases same
      exact .nothing rfl
  | [document] =>
      obtain ⟨acting, rest, ⟨acted, changed⟩, rfl, act, last⟩ := takes_andThen_done.mp taken
      obtain ⟨text, rfl, rfl, rfl⟩ := act_select_first_takes_done rfl act
      obtain ⟨rfl, same⟩ := takes_done.mp last
      cases same
      rw [List.append_nil]
      exact .one rfl text
  | first :: second :: others =>
      have several : 1 < (first :: second :: others).length := by simp
      cases ambiguity with
      | none =>
          obtain ⟨answering, rest, answered, rfl, answer, last⟩ := takes_andThen_done.mp taken
          obtain ⟨text, rfl, rfl⟩ := TurnSetting.answer_takes_done answer
          obtain ⟨rfl, same⟩ := takes_done.mp last
          cases same
          rw [List.append_nil]
          exact .all several rfl text
      | some reason =>
          obtain ⟨planning, rest, plan, rfl, planned, further⟩ := takes_andThen_done.mp taken
          obtain ⟨answer, rfl, rfl⟩ := planTurn_takes_done planned
          obtain ⟨acting, rest, ⟨acted, changed⟩, rfl, act, last⟩ := takes_andThen_done.mp further
          obtain ⟨rfl, same⟩ := takes_done.mp last
          cases same
          rw [List.append_nil]
          exact .planned several rfl answer (act_takes_done act)

/-! ## Answering from the notes -/

/-- What a message calls for: a search when there is nothing to choose from, or what the model says. -/
inductive Planned (setting : TurnSetting) (session : Session) (question : String) :
    Course → PlanAction → Prop where
  | initial (none : session.candidates = []) : Planned setting session question [] (.search question)
  | asked (found : session.candidates ≠ []) (answer : TimedAnswer String) :
      Planned setting session question [⟨setting.planQuestion session question none, answer⟩]
        (ActionPlan.ofAnswer session.candidates.length answer).action

theorem plan_takes_done {plan : ActionPlan}
    (taken : (Dialogue.plan setting session question).Takes course (.done plan)) :
    Planned setting session question course plan.action := by
  unfold Dialogue.plan at taken
  cases candidates : session.candidates with
  | nil =>
      rw [candidates] at taken
      obtain ⟨rfl, same⟩ := takes_done.mp taken
      cases same
      exact .initial candidates
  | cons first rest =>
      rw [candidates] at taken
      obtain ⟨answer, rfl, rfl⟩ := planTurn_takes_done taken
      exact .asked (by simp [candidates]) answer

/-- A message about the notes is acted on, or searched for in vain, or searched for. -/
inductive FromNotes (setting : TurnSetting) (retrieval : RetrievalConfig) (userId : String)
    (session : Session) (question : String) : Course → TurnReply → Session → Prop where
  | acted {planning course : Course} {action : PlanAction} {reply : TurnReply} {after : Session}
      (planned : Planned setting session question planning action)
      (noSearch : ∀ query, action ≠ .search query)
      (acted : Acted setting session action question course reply after) :
      FromNotes setting retrieval userId session question (planning ++ course) reply after
  | unavailable {planning searching : Course} {query : String} {failure : Failure}
      (planned : Planned setting session question planning (.search query))
      (failed : (Retrieval.search retrieval userId query {}).Takes searching (.failed failure)) :
      FromNotes setting retrieval userId session question (planning ++ searching)
        { text := searchUnavailableReply, action := some .search } session
  | searched {planning searching course : Course} {query : String} {found : SearchResult}
      {reply : TurnReply} {after : Session}
      (planned : Planned setting session question planning (.search query))
      (searched : (Retrieval.search retrieval userId query {}).Takes searching (.done found))
      (continued : Continued setting session query question found course reply after) :
      FromNotes setting retrieval userId session question (planning ++ (searching ++ course)) reply
        after

theorem reply_takes_done
    (taken : (Dialogue.reply setting retrieval userId session question).Takes course
      (.done (reply, after))) :
    FromNotes setting retrieval userId session question course reply after := by
  obtain ⟨planning, rest, plan, rfl, planned, further⟩ := takes_andThen_done.mp taken
  have calledFor := plan_takes_done planned
  cases action : plan.action with
  | search query =>
      rw [action] at further calledFor
      obtain ⟨searching, last, outcome, rfl, searched, ending⟩ := takes_andThen_done.mp further
      cases outcome with
      | ok found =>
          exact .searched calledFor (takes_attempt_ok.mp searched) (continueSearch_takes_done ending)
      | error failure =>
          unfold searchFailed at ending
          by_cases fromProvider : failure.isFromProvider = true
          · simp [fromProvider, takes_failed] at ending
          · simp only [if_neg fromProvider] at ending
            obtain ⟨rfl, same⟩ := takes_done.mp ending
            cases same
            rw [List.append_nil]
            exact .unavailable calledFor (takes_attempt_error.mp searched)
  | select _ | switch _ | answerCurrent | answerAll | clarify =>
      rw [action] at further calledFor
      exact .acted calledFor nofun (act_takes_done further)

/-- **What applying an action and recording a search preserve, a turn about the notes preserves.** -/
theorem FromNotes.preserves (property : Session → Prop)
    (answered : FromNotes setting retrieval userId session question course reply after)
    (start : property session)
    (applied : ∀ {current changed : Session} {action : PlanAction}, property current →
      current.apply action = .ok changed → property changed)
    (recorded : ∀ {query : String} {found : SearchResult} {searching : Course},
      (∀ step ∈ searching, step ∈ course) →
      (Retrieval.search retrieval userId query {}).Takes searching (.done found) →
      property (session.recordSearch query found.documents)) : property after := by
  have afterActing : ∀ {current last : Session} {action : PlanAction} {acting : Course}
      {acted : TurnReply}, property current →
      Acted setting current action question acting acted last → property last := by
    intro current last action acting acted holds acts
    cases acts with
    | askedBack => exact holds
    | answered _ fits => exact applied holds fits
  cases answered with
  | acted _ _ acts => exact afterActing start acts
  | unavailable => exact start
  | @searched planning searching continuing query found _ _ _ searched continued =>
      have inside : ∀ step ∈ searching, step ∈ planning ++ (searching ++ continuing) :=
        fun step member => List.mem_append_right _ (List.mem_append_left _ member)
      have afterSearch := recorded inside searched
      cases continued with
      | nothing | all => exact afterSearch
      | one single => exact applied afterSearch (Session.apply_select_single single)
      | planned _ _ _ acts => exact afterActing afterSearch acts

end Dialogue

end NoteDialogue
