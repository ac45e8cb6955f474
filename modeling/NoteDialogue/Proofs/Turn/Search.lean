import NoteDialogue.Proofs.Plan
import NoteDialogue.Proofs.Turn.Grounding

/-!
# What comes of a search

A turn in which a search finds notes commits to one of a few outcomes, which the notes, the verdict about
their ambiguity and the second plan decide between them (`SearchOutcome`).  An ambiguous result is
answered from one note only when the second plan picks that note.

A search can be told from the course of a turn: it begins with the only question of its kind, so that any
stretch of the course that is a search at all is the search of the turn (`run_searchOutcome`).
-/

set_option autoImplicit false

namespace NoteDialogue

open Interaction Retrieval

/-! ## The outcomes -/

/-- A course is one question for a reply that shows the model these notes, and the answer to it. -/
def AnsweredFrom (documents : List Document) (course : Course) : Prop :=
  ∃ call, course = [call] ∧ GroundedIn documents call.question

/-- What comes of an ambiguous search, given the second plan: a note is picked, or all are taken together;
otherwise the turn asks back, whatever the plan is. -/
def PlannedOutcome (documents : List Document) (action : PlanAction) (acting : Course)
    (result : TurnResult) (after : Session) : Prop :=
  match action with
  | .select index =>
      ∃ document, documents[index]? = some document ∧ after.focus = some (.note document) ∧
        after.state = .focused ∧ AnsweredFrom [document] acting ∧
        result.citations = [document.citation] ∧ result.action = some .select
  | .answerAll =>
      after.focus = some .aggregated ∧ after.state = .answered ∧ AnsweredFrom documents acting ∧
        result.citations = documents.map Document.citation ∧ result.action = some .answerAll
  | .search _ | .switch _ | .answerCurrent | .clarify =>
      after.focus = none ∧ after.state = .hasCandidates ∧ acting = [] ∧ result.citations = [] ∧
        result.action = some .clarify ∧ result.reply = clarifyReply documents

/-- What comes of a search that found these notes; `rest` is what the turn asked after it. -/
structure SearchOutcome (found : SearchResult) (rest : Course) (result : TurnResult)
    (after : Session) : Prop where
  candidates : after.candidates = found.documents
  strategy : result.strategy = some found.strategy
  nothing : found.documents = [] →
    after.state = .initial ∧ after.focus = none ∧ rest = [] ∧ result.citations = [] ∧
      result.action = some .search
  one : ∀ document, found.documents = [document] →
    after.focus = some (.note document) ∧ after.state = .focused ∧ AnsweredFrom [document] rest ∧
      result.citations = [document.citation] ∧ result.action = some .search
  clear : 1 < found.documents.length → found.ambiguity = none →
    after.focus = none ∧ after.state = .hasCandidates ∧ AnsweredFrom found.documents rest ∧
      result.citations = found.documents.map Document.citation ∧ result.action = some .search
  /-- The planner is asked once more, about these notes and with the reason why they are ambiguous. -/
  ambiguous : ∀ reason, 1 < found.documents.length → found.ambiguity = some reason →
    ∃ shown asked history limit, ∃ answer : TimedAnswer String, ∃ acting : Course,
      shown.candidates = found.documents ∧
      rest = ⟨.generate .planning
        [Message.user (PlannerPrompt.render shown asked history (some (ambiguityHint reason)))]
        planningOptions limit, answer⟩ :: acting ∧
      PlannedOutcome found.documents (ActionPlan.ofAnswer found.documents.length answer).action
        acting result after

theorem answeredFrom_answerCourse (setting : TurnSetting) (documents : List Document)
    (question text : String) : AnsweredFrom documents (setting.answerCourse documents question text) :=
  ⟨_, rfl, groundedIn_replyQuestion setting documents question⟩

theorem Session.state_recordSearch {session : Session} {query : String} {documents : List Document}
    (some : documents ≠ []) : (session.recordSearch query documents).state = .hasCandidates := by
  cases documents with
  | nil => exact absurd rfl some
  | cons first rest => rfl

theorem Session.apply_unfocused {session : Session} (unfocused : session.focus = none) (index : Nat) :
    session.apply (.switch index) = .error (.missingFocus .switch) ∧
      session.apply .answerCurrent = .error (.missingFocus .answerCurrent) := by
  simp [Session.apply, unfocused]

theorem Session.apply_select_of_lt {session : Session} {index : Nat}
    (inside : index < session.candidates.length) :
    session.apply (.select index) = .ok (session.onNote session.candidates[index]) := by
  simp [Session.apply, Session.focusOn, Session.candidate, Session.onNote, inside]

theorem Session.apply_answerAll {session : Session} (some : session.candidates ≠ []) :
    session.apply .answerAll = .ok session.onAll := by
  simp [Session.apply, Session.onAll, some]

namespace Dialogue

variable {setting : TurnSetting} {retrieval : RetrievalConfig} {userId query question : String}
  {session after : Session} {action : PlanAction} {found : SearchResult} {course : Course}
  {reply : TurnReply}

/-- Acting as a plan says that asks back, or that does not fit. -/
theorem Acted.of_refused (acted : Acted setting session action question course reply after)
    (refused : action = .clarify ∨ ∃ error, session.apply action = .error error) :
    course = [] ∧ reply = .clarify session ∧ after = session := by
  cases acted with
  | askedBack => exact ⟨rfl, rfl, rfl⟩
  | answered notAskingBack applied =>
      rcases refused with asksBack | ⟨error, refused⟩
      · exact absurd asksBack notAskingBack
      · rw [refused] at applied
        cases applied

/-- Acting as a plan says that fits and does not ask back. -/
theorem Acted.of_applied {changed : Session}
    (acted : Acted setting session action question course reply after)
    (notAskingBack : action ≠ .clarify) (applied : session.apply action = .ok changed) :
    ∃ text, course = setting.answerCourse changed.scope question text ∧
      reply = { text, citations := changed.scope.map Document.citation, action := some action.kind } ∧
      after = changed := by
  cases acted with
  | askedBack refused =>
      rcases refused with asksBack | ⟨error, refused⟩
      · exact absurd asksBack notAskingBack
      · rw [applied] at refused
        cases refused
  | answered _ fits text =>
      rw [applied] at fits
      cases fits
      exact ⟨text, rfl, rfl, rfl⟩

/-- Acting on a session in which some notes were just found. -/
theorem Acted.plannedOutcome {documents : List Document} (some : documents ≠ [])
    (inside : ∀ index, action = .select index → index < documents.length)
    (acted : Acted setting (session.recordSearch query documents) action.afterSearch question course
      reply after) (mode : ModeSelection) (references : List ResolvedReference) :
    after.candidates = documents ∧
      PlannedOutcome documents action course (TurnResult.ofReply reply mode references after)
        after := by
  have unfocused : (session.recordSearch query documents).focus = none := rfl
  have asksBack : ∀ {taken : PlanAction},
      (taken = .clarify ∨ ∃ error, (session.recordSearch query documents).apply taken = .error error) →
      Acted setting (session.recordSearch query documents) taken question course reply after →
      after.candidates = documents ∧ after.focus = none ∧ after.state = .hasCandidates ∧
        course = [] ∧ reply = .clarify (session.recordSearch query documents) := by
    intro taken refused acted
    obtain ⟨rfl, rfl, rfl⟩ := acted.of_refused refused
    exact ⟨rfl, rfl, Session.state_recordSearch some, rfl, rfl⟩
  cases action with
  | search _ | clarify =>
      obtain ⟨same, noFocus, state, rfl, rfl⟩ := asksBack (.inl rfl) acted
      exact ⟨same, noFocus, state, rfl, rfl, rfl, rfl⟩
  | switch index =>
      have refused := (Session.apply_unfocused unfocused index).1
      obtain ⟨same, noFocus, state, rfl, rfl⟩ := asksBack (.inr ⟨_, refused⟩) acted
      exact ⟨same, noFocus, state, rfl, rfl, rfl, rfl⟩
  | answerCurrent =>
      have refused := (Session.apply_unfocused unfocused 0).2
      obtain ⟨same, noFocus, state, rfl, rfl⟩ := asksBack (.inr ⟨_, refused⟩) acted
      exact ⟨same, noFocus, state, rfl, rfl, rfl, rfl⟩
  | select index =>
      have there : index < documents.length := inside index rfl
      obtain ⟨text, rfl, rfl, rfl⟩ := acted.of_applied nofun (Session.apply_select_of_lt there)
      exact ⟨rfl, documents[index], List.getElem?_eq_getElem there, rfl, rfl,
        answeredFrom_answerCourse setting [documents[index]] question text, rfl, rfl⟩
  | answerAll =>
      obtain ⟨text, rfl, rfl, rfl⟩ := acted.of_applied nofun (Session.apply_answerAll some)
      exact ⟨rfl, rfl, rfl, answeredFrom_answerCourse setting documents question text, rfl, rfl⟩

/-- **What comes of a search.** -/
theorem Continued.searchOutcome
    (continued : Continued setting session query question found course reply after)
    (mode : ModeSelection) (references : List ResolvedReference) :
    SearchOutcome found course (TurnResult.ofReply reply mode references after) after := by
  cases continued with
  | nothing none =>
      refine ⟨rfl, rfl, fun _ => ⟨?_, rfl, rfl, rfl, rfl⟩, fun document single => ?_, fun several => ?_,
        fun reason several => ?_⟩
      · rw [none]
        rfl
      · exact absurd (none.symm.trans single) nofun
      · simp [none] at several
      · simp [none] at several
  | @one document single text =>
      refine ⟨rfl, rfl, fun none => ?_, fun other same => ?_, fun several => ?_,
        fun reason several => ?_⟩
      · exact absurd (single.symm.trans none) nofun
      · obtain rfl : document = other := (List.cons.inj (single.symm.trans same)).1
        exact ⟨rfl, rfl, answeredFrom_answerCourse setting [document] question text, rfl, rfl⟩
      · simp [single] at several
      · simp [single] at several
  | all several clear text =>
      have some : found.documents ≠ [] := List.ne_nil_of_length_pos (by omega)
      refine ⟨rfl, rfl, fun none => absurd none some, fun document single => ?_, fun _ _ => ?_,
        fun reason _ unclear => ?_⟩
      · simp [single] at several
      · exact ⟨rfl, Session.state_recordSearch some,
          answeredFrom_answerCourse setting found.documents question text, rfl, rfl⟩
      · exact absurd (clear.symm.trans unclear) nofun
  | @planned several reason unclear answer acting acted _ acts =>
      have some : found.documents ≠ [] := List.ne_nil_of_length_pos (by omega)
      have inside : ∀ index, (ActionPlan.ofAnswer found.documents.length answer).action =
          .select index → index < found.documents.length := fun index selects =>
        ActionPlan.targetIndex_lt (by rw [selects]; rfl)
      obtain ⟨same, outcome⟩ := acts.plannedOutcome some inside mode references
      refine ⟨same, rfl, fun none => absurd none some, fun document single => ?_, fun _ clear => ?_,
        fun other _ given => ?_⟩
      · simp [single] at several
      · exact absurd (unclear.symm.trans clear) nofun
      · obtain rfl : reason = other := Option.some.inj (unclear.symm.trans given)
        exact ⟨session.recordSearch query found.documents, question, setting.history, _, answer,
          acting, rfl, rfl, outcome⟩

/-! ## The search in the course of a turn -/

theorem Session.lastQuery_of_apply {session changed : Session} {action : PlanAction}
    (applied : session.apply action = .ok changed) : changed.lastQuery = session.lastQuery := by
  rcases Session.apply_cases applied with ⟨_, _, -, -, rfl⟩ | ⟨-, -, rfl⟩ | ⟨-, -, rfl⟩ | ⟨-, rfl⟩ <;>
    rfl

/-- The session keeps the query that was searched for. -/
theorem Continued.lastQuery
    (continued : Continued setting session query question found course reply after) :
    after.lastQuery = some query := by
  cases continued with
  | nothing | one | all => rfl
  | planned _ _ _ acted =>
      cases acted with
      | askedBack => rfl
      | answered _ applied => exact Session.lastQuery_of_apply applied

theorem Planned.notOpening (planned : Planned setting session question course action) :
    ∀ step ∈ course, opensSearch step.question = false := by
  cases planned with
  | initial => exact List.forall_mem_nil _
  | asked => exact List.forall_mem_singleton.mpr rfl

theorem notOpening_replyCourse (setting : TurnSetting) (messages : List Message) (text : String) :
    ∀ step ∈ setting.replyCourse messages text, opensSearch step.question = false :=
  List.forall_mem_singleton.mpr rfl

theorem Acted.notOpening (acted : Acted setting session action question course reply after) :
    ∀ step ∈ course, opensSearch step.question = false := by
  cases acted with
  | askedBack => exact List.forall_mem_nil _
  | answered _ _ text => exact notOpening_replyCourse setting _ text

theorem Continued.notOpening
    (continued : Continued setting session query question found course reply after) :
    ∀ step ∈ course, opensSearch step.question = false := by
  cases continued with
  | nothing => exact List.forall_mem_nil _
  | one _ text | all _ _ text => exact notOpening_replyCourse setting _ text
  | planned _ _ _ acted => exact List.forall_mem_cons.mpr ⟨rfl, acted.notOpening⟩

end Dialogue

/-- In a list with one marked item, whatever begins with a marked item begins with that one. -/
theorem eq_of_only_marked {α : Type} (marked : α → Bool) {before quiet last tail : List α}
    {head first : α} (same : before ++ head :: last = quiet ++ first :: tail)
    (quietUnmarked : ∀ item ∈ quiet, marked item = false)
    (tailUnmarked : ∀ item ∈ tail, marked item = false) (headMarked : marked head = true) :
    before = quiet ∧ head :: last = first :: tail := by
  induction quiet generalizing before with
  | nil =>
      cases before with
      | nil => exact ⟨rfl, same⟩
      | cons item items =>
          obtain ⟨-, later⟩ := List.cons.inj same
          have inside : head ∈ tail := later ▸ List.mem_append_right items List.mem_cons_self
          exact absurd (headMarked.symm.trans (tailUnmarked head inside)) (by decide)
  | cons item items ih =>
      cases before with
      | nil =>
          obtain ⟨rfl, -⟩ := List.cons.inj same
          exact absurd (headMarked.symm.trans (quietUnmarked head List.mem_cons_self)) (by decide)
      | cons other others =>
          obtain ⟨rfl, later⟩ := List.cons.inj same
          obtain ⟨rfl, split⟩ := ih later fun item member =>
            quietUnmarked item (List.mem_cons_of_mem _ member)
          exact ⟨rfl, split⟩

namespace Turn

variable {config : Config} {request : TurnRequest} {session after : Session}
  {result : TurnResult} {query : String} {found : SearchResult}
  {course before during rest quiet searching continuing : Course}

/-- A search begins with a question of its own kind. -/
theorem exists_opening {ownerId : String} {filter : NoteFilter} {ending : Ending SearchResult}
    (searched : (search config.retrieval ownerId query filter).Takes during ending)
    (finished : ending ≠ .brokenOff) :
    ∃ first tail, during = first :: tail ∧ opensSearch first.question = true ∧
      ∀ step ∈ tail, opensSearch step.question = false := by
  obtain ⟨first, tail, rfl, opening, plain⟩ := search_opens searched finished
  exact ⟨first, tail, rfl, opening ▸ opensSearch_openingQuestion,
    fun step member => (plain step member).2⟩

/-- A course without a question that opens a search has no search in it. -/
theorem no_search_of_notOpening {ending : Ending SearchResult}
    (quiet : ∀ step ∈ course, opensSearch step.question = false)
    (split : course = before ++ (during ++ rest))
    (searched : (search config.retrieval request.userId query {}).Takes during ending)
    (finished : ending ≠ .brokenOff) : False := by
  obtain ⟨first, tail, rfl, opens, -⟩ := exists_opening searched finished
  have inside : first ∈ course := by
    rw [split]
    exact List.mem_append_right _ (List.mem_append_left _ List.mem_cons_self)
  exact absurd (opens.symm.trans (quiet first inside)) (by decide)

/-- A search that stands in a course with one search begins where that one does. -/
theorem search_aligned {other : String} {ending otherEnding : Ending SearchResult}
    (quietBefore : ∀ step ∈ quiet, opensSearch step.question = false)
    (quietAfter : ∀ step ∈ continuing, opensSearch step.question = false)
    (split : quiet ++ (searching ++ continuing) = before ++ (during ++ rest))
    (theSearch : (search config.retrieval request.userId other {}).Takes searching ending)
    (finished : ending ≠ .brokenOff)
    (searched : (search config.retrieval request.userId query {}).Takes during otherEnding)
    (otherFinished : otherEnding ≠ .brokenOff) :
    before = quiet ∧ during ++ rest = searching ++ continuing := by
  obtain ⟨first, tail, isDuring, opens, -⟩ := exists_opening searched otherFinished
  obtain ⟨otherFirst, otherTail, isSearching, -, plain⟩ := exists_opening theSearch finished
  have tailQuiet := List.forall_mem_append.mpr ⟨plain, quietAfter⟩
  have aligned : before ++ first :: (tail ++ rest) =
      quiet ++ otherFirst :: (otherTail ++ continuing) := by
    rw [isDuring, isSearching] at split
    exact split.symm
  obtain ⟨sameBefore, agree⟩ := eq_of_only_marked (fun step => opensSearch step.question) aligned
    quietBefore tailQuiet opens
  rw [isDuring, isSearching]
  exact ⟨sameBefore, agree⟩

/-- A search that stands in a course with one search is that search. -/
theorem search_unique {other : String} {ending : Ending SearchResult}
    (quietBefore : ∀ step ∈ quiet, opensSearch step.question = false)
    (quietAfter : ∀ step ∈ continuing, opensSearch step.question = false)
    (split : quiet ++ (searching ++ continuing) = before ++ (during ++ rest))
    (theSearch : (search config.retrieval request.userId other {}).Takes searching ending)
    (finished : ending ≠ .brokenOff)
    (searched : (search config.retrieval request.userId query {}).Takes during (.done found)) :
    before = quiet ∧ during = searching ∧ rest = continuing ∧
      ∃ alike, ending = .done alike ∧ alike.documents = found.documents := by
  obtain ⟨sameBefore, agree⟩ :=
    search_aligned quietBefore quietAfter split theSearch finished searched nofun
  exact ⟨sameBefore, documents_unique searched theSearch finished agree⟩

/-- A search that found notes while a message about the notes was answered. -/
theorem searchOutcome_of_fromNotes {setting : TurnSetting} {current : Session} {question : String}
    {reply : TurnReply}
    (answered : Dialogue.FromNotes setting config.retrieval request.userId current question course
      reply after)
    (prepared : ∀ step ∈ quiet, IsPlain step.question)
    (split : quiet ++ course = before ++ (during ++ rest))
    (searched : (search config.retrieval request.userId query {}).Takes during (.done found))
    (mode : ModeSelection) (references : List ResolvedReference) :
    ∃ kept alike, after.lastQuery = some kept ∧
      (search config.retrieval request.userId kept {}).Takes during (.done alike) ∧
      alike.documents = found.documents ∧ (kept = query → alike = found) ∧
      answeringCalls (before ++ during) = [] ∧
      SearchOutcome alike rest (TurnResult.ofReply reply mode references after) after := by
  have notOpening : ∀ step ∈ quiet, opensSearch step.question = false :=
    fun step member => (prepared step member).2
  cases answered with
  | acted planned _ acted =>
      have silent := List.forall_mem_append.mpr
        ⟨notOpening, List.forall_mem_append.mpr ⟨planned.notOpening, acted.notOpening⟩⟩
      exact (no_search_of_notOpening silent split searched nofun).elim
  | @unavailable planning searching _ _ planned failed =>
      have aligned : (quiet ++ planning) ++ (searching ++ []) = before ++ (during ++ rest) := by
        rw [← split, List.append_nil, List.append_assoc]
      obtain ⟨-, -, -, alike, impossible, -⟩ := search_unique
        (List.forall_mem_append.mpr ⟨notOpening, planned.notOpening⟩) (List.forall_mem_nil _) aligned
        failed nofun searched
      cases impossible
  | @searched planning searching continuing other actual _ _ planned theSearch continued =>
      have aligned : (quiet ++ planning) ++ (searching ++ continuing) = before ++ (during ++ rest) := by
        rw [← split, List.append_assoc]
      obtain ⟨rfl, rfl, rfl, alike, isDone, sameDocuments⟩ := search_unique
        (List.forall_mem_append.mpr ⟨notOpening, planned.notOpening⟩) continued.notOpening aligned
        theSearch nofun searched
      cases isDone
      refine ⟨other, actual, continued.lastQuery, theSearch, sameDocuments, ?_, ?_,
        continued.searchOutcome mode references⟩
      · rintro rfl
        have agree : during ++ ([] : Course) = during ++ [] := rfl
        obtain ⟨-, sameEnding, -⟩ := theSearch.unique searched nofun nofun agree
        exact Ending.done.inj sameEnding
      · rw [answeringCalls_append, answeringCalls_append, answeringCalls_of_plain prepared,
          planned.quiet, answeringCalls_of_search theSearch nofun]
        rfl

/-- **What comes of a search in a turn that ends well.**  If some stretch of the course is a search that
found notes, then it is the search of the turn, for the query that the session keeps, and the turn
commits to the outcome that the search calls for. -/
theorem run_searchOutcome
    (taken : (Turn.run config request session).Takes course (.done (result, after)))
    (split : course = before ++ (during ++ rest))
    (searched : (search config.retrieval request.userId query {}).Takes during (.done found)) :
    ∃ kept alike, after.lastQuery = some kept ∧
      (search config.retrieval request.userId kept {}).Takes during (.done alike) ∧
      alike.documents = found.documents ∧ (kept = query → alike = found) ∧
      answeringCalls (before ++ during) = [] ∧ SearchOutcome alike rest result after := by
  obtain ⟨styling, referring, answering, selected, references, reply, rfl, styled, referred, routed,
    rfl⟩ := run_takes_done taken
  have prepared := preparation_isPlain styled referred
  have notOpening : ∀ step ∈ styling ++ referring, opensSearch step.question = false :=
    fun step member => (prepared step member).2
  rw [← List.append_assoc] at split
  cases routed with
  | referred _ _ _ text | shared _ _ _ text | past _ _ _ _ text =>
      exact (no_search_of_notOpening (List.forall_mem_append.mpr
        ⟨notOpening, Dialogue.notOpening_replyCourse _ _ text⟩) split searched nofun).elim
  | fixed =>
      rw [List.append_nil] at split
      exact (no_search_of_notOpening notOpening split searched nofun).elim
  | fromNotes _ _ _ _ answered =>
      exact searchOutcome_of_fromNotes answered prepared split searched _ _

/-- A turn that reports how notes were searched has a search that found them in its course. -/
theorem exists_search_of_strategy
    (taken : (Turn.run config request session).Takes course (.done (result, after)))
    (reported : result.strategy ≠ none) :
    ∃ before during rest query found, course = before ++ (during ++ rest) ∧
      (search config.retrieval request.userId query {}).Takes during (.done found) ∧
      after.lastQuery = some query := by
  obtain ⟨styling, referring, answering, selected, references, reply, rfl, -, -, routed, rfl⟩ :=
    run_takes_done taken
  cases routed with
  | referred | shared | past => exact absurd rfl reported
  | fixed =>
      refine absurd ?_ reported
      simp only [TurnResult.ofReply, replyWithoutQuestion]
      split <;> rfl
  | fromNotes _ _ _ _ answered =>
      cases answered with
      | acted _ _ acted => cases acted <;> exact absurd rfl reported
      | unavailable => exact absurd rfl reported
      | @searched planning searching continuing query found _ _ _ theSearch continued =>
          exact ⟨styling ++ (referring ++ planning), searching, continuing, query, found, by simp,
            theSearch, continued.lastQuery⟩

end Turn

end NoteDialogue
