import NoteDialogue.Proofs.Turn.Calls

/-!
# What turns that end well do

The reply of a turn is what the model wrote, if it was called for a reply (`Turn.writesOnly_of_run`).  It is
not called for one when the turn asks back, or searches in vain (`Turn.no_reply_of_run`).

A turn that leaves the notes of the conversation alone calls a model for a reply at most, and changes
nothing but the mode in force (`Turn.kept_of_no_action`).  Every other turn reports an action
(`Turn.action_eq_none_iff`).
-/

set_option autoImplicit false

namespace NoteDialogue

open Interaction Retrieval

/-! ## Replies that were written -/

/-- The answer that was given, if one came in time. -/
def TimedAnswer.given? {α : Type} : TimedAnswer α → Option α
  | .inTime (.ok value) => some value
  | .inTime (.error _) | .late => none

/-- The text that a model gave. -/
def Answered.text? : Answered → Option String
  | ⟨.generate _ _ _ _, answer⟩ => TimedAnswer.given? (α := String) answer
  | _ => none

/-- Whatever a course has a model write for a reply is this text. -/
def WritesOnly (text : String) (course : Course) : Prop :=
  ∀ step ∈ course, step.question.providerCall? = some .answering → step.text? = some text

theorem WritesOnly.append {text : String} {before after : Course} (early : WritesOnly text before)
    (late : WritesOnly text after) : WritesOnly text (before ++ after) :=
  List.forall_mem_append.mpr ⟨early, late⟩

/-- A course without a call for a reply. -/
theorem writesOnly_of_noReply {course : Course} (noReply : .answering ∉ providerCalls course)
    (text : String) : WritesOnly text course := by
  intro step member calls
  exact absurd (List.mem_filterMap.mpr ⟨step, member, calls⟩) noReply

theorem writesOnly_replyCourse (setting : TurnSetting) (messages : List Message) (text : String) :
    WritesOnly text (setting.replyCourse messages text) := by
  intro step member _
  rw [List.mem_singleton.mp member]
  rfl

/-- No search has a reply written. -/
theorem noReply_of_search {retrieval : RetrievalConfig} {userId query : String} {course : Course}
    {ending : Ending SearchResult} (taken : (search retrieval userId query {}).Takes course ending) :
    .answering ∉ providerCalls course := by
  intro replies
  have embeds := (search_calls retrieval userId query {} course ending taken).subset replies
  simp at embeds

namespace Dialogue

variable {setting : TurnSetting} {retrieval : RetrievalConfig} {userId query question : String}
  {session after : Session} {action : PlanAction} {found : SearchResult} {course : Course}
  {reply : TurnReply}

theorem Planned.noReply (planned : Planned setting session question course action) :
    .answering ∉ providerCalls course := by
  cases planned with
  | initial => simp [providerCalls]
  | asked => simp [providerCalls, TurnSetting.planQuestion, Ask.providerCall?]

theorem Acted.writesOnly (acted : Acted setting session action question course reply after) :
    WritesOnly reply.text course := by
  cases acted with
  | askedBack => exact List.forall_mem_nil _
  | answered _ _ text => exact writesOnly_replyCourse setting _ text

theorem Continued.writesOnly
    (continued : Continued setting session query question found course reply after) :
    WritesOnly reply.text course := by
  cases continued with
  | nothing => exact List.forall_mem_nil _
  | one _ text | all _ _ text => exact writesOnly_replyCourse setting _ text
  | planned _ _ _ acted =>
      refine List.forall_mem_cons.mpr ⟨fun replies => ?_, acted.writesOnly⟩
      cases replies

theorem FromNotes.writesOnly
    (answered : FromNotes setting retrieval userId session question course reply after) :
    WritesOnly reply.text course := by
  cases answered with
  | acted planned _ acted =>
      exact (writesOnly_of_noReply planned.noReply _).append acted.writesOnly
  | unavailable planned failed =>
      exact (writesOnly_of_noReply planned.noReply _).append
        (writesOnly_of_noReply (noReply_of_search failed) _)
  | searched planned searched continued =>
      exact (writesOnly_of_noReply planned.noReply _).append
        ((writesOnly_of_noReply (noReply_of_search searched) _).append continued.writesOnly)

/-- A message that is answered by asking back has no reply written. -/
theorem FromNotes.noReply_of_clarify
    (answered : FromNotes setting retrieval userId session question course reply after)
    (clarifies : reply.action = some .clarify) : .answering ∉ providerCalls course := by
  cases answered with
  | acted planned _ acted =>
      obtain ⟨rfl, -⟩ := acted.kept_of_clarify clarifies
      rw [List.append_nil]
      exact planned.noReply
  | unavailable => cases clarifies
  | searched planned searched continued =>
      cases continued with
      | nothing | one | all => cases clarifies
      | planned _ _ _ acted =>
          obtain ⟨rfl, -⟩ := acted.kept_of_clarify clarifies
          rw [providerCalls_append, providerCalls_append, List.mem_append, List.mem_append]
          rintro (early | during | late)
          · exact planned.noReply early
          · exact noReply_of_search searched during
          · cases List.mem_singleton.mp late

end Dialogue

/-- A search that found nothing, or failed. -/
def IsVain : Ending SearchResult → Prop
  | .done found => found.documents = []
  | .failed _ => True
  | .crashed | .brokenOff => False

/-- Some stretch of a course is a search that found nothing, or failed. -/
def SearchesInVain (retrieval : RetrievalConfig) (userId : String) (course : Course) : Prop :=
  ∃ before during rest query outcome, course = before ++ (during ++ rest) ∧
    (search retrieval userId query {}).Takes during outcome ∧ IsVain outcome

theorem IsVain.finished {outcome : Ending SearchResult} (vain : IsVain outcome) :
    outcome ≠ .brokenOff := by
  rintro rfl
  exact vain

namespace Turn

variable {config : Config} {request : TurnRequest} {session after : Session} {course quiet : Course}
  {result : TurnResult}

/-- A message that is searched for in vain has no reply written. -/
theorem noReply_of_vain {setting : TurnSetting} {question : String} {reply : TurnReply}
    (answered : Dialogue.FromNotes setting config.retrieval request.userId session question course
      reply after)
    (notOpening : ∀ step ∈ quiet, opensSearch step.question = false)
    (vain : SearchesInVain config.retrieval request.userId (quiet ++ course)) :
    .answering ∉ providerCalls course := by
  obtain ⟨before, during, rest, query, outcome, split, searched, inVain⟩ := vain
  cases answered with
  | acted planned _ acted =>
      have silent := List.forall_mem_append.mpr
        ⟨notOpening, List.forall_mem_append.mpr ⟨planned.notOpening, acted.notOpening⟩⟩
      exact (no_search_of_notOpening silent split searched inVain.finished).elim
  | unavailable planned failed =>
      rw [providerCalls_append, List.mem_append]
      exact not_or.mpr ⟨planned.noReply, noReply_of_search failed⟩
  | @searched planning searching continuing _ found _ _ planned theSearch continued =>
      have aligned : (quiet ++ planning) ++ (searching ++ continuing) = before ++ (during ++ rest) := by
        rw [← split, List.append_assoc]
      obtain ⟨-, agree⟩ := search_aligned
        (List.forall_mem_append.mpr ⟨notOpening, planned.notOpening⟩) continued.notOpening aligned
        theSearch nofun searched inVain.finished
      obtain ⟨-, -, alike, rfl, sameDocuments⟩ :=
        documents_unique theSearch searched inVain.finished agree.symm
      have none : found.documents = [] := sameDocuments.symm.trans inVain
      cases continued with
      | nothing =>
          rw [List.append_nil, providerCalls_append, List.mem_append]
          exact not_or.mpr ⟨planned.noReply, noReply_of_search theSearch⟩
      | one single => exact absurd (none.symm.trans single) nofun
      | all several | planned several => simp [none] at several

theorem providerCalls_of_preparation {styling referring : Course} {selection : ModeSelection}
    {selected : StyledSelection} {references : List ResolvedReference}
    (styled : (StyledSelection.resolve selection).Takes styling (.done selected))
    (referred : (Turn.references config.turn request request.mentions).Takes referring
      (.done references)) : providerCalls (styling ++ referring) = [] := by
  have stylingQuiet := (StyledSelection.resolve_asksOnly request.userId selection).mono
    fun _ prepares => prepares.needsNoCall
  have referringQuiet := (references_asksOnly config.turn request request.mentions).mono
    fun _ prepares => prepares.needsNoCall
  rw [providerCalls_append, providerCalls_eq_nil (styled.asked stylingQuiet),
    providerCalls_eq_nil (referred.asked referringQuiet)]
  rfl

theorem noReply_of_preparation {styling referring : Course} {selection : ModeSelection}
    {selected : StyledSelection} {references : List ResolvedReference}
    (styled : (StyledSelection.resolve selection).Takes styling (.done selected))
    (referred : (Turn.references config.turn request request.mentions).Takes referring
      (.done references)) : .answering ∉ providerCalls (styling ++ referring) := by
  rw [providerCalls_of_preparation styled referred]
  exact List.not_mem_nil

/-- **The reply of a turn is what a model wrote**, if it was called for one. -/
theorem writesOnly_of_run
    (taken : (Turn.run config request session).Takes course (.done (result, after))) :
    WritesOnly result.reply course := by
  obtain ⟨styling, referring, answering, selected, references, reply, rfl, styled, referred, routed,
    rfl⟩ := run_takes_done taken
  rw [← List.append_assoc]
  refine (writesOnly_of_noReply (noReply_of_preparation styled referred) _).append ?_
  cases routed with
  | referred _ _ _ text | shared _ _ _ text | past _ _ _ _ text =>
      exact writesOnly_replyCourse _ _ text
  | fixed => exact List.forall_mem_nil _
  | fromNotes _ _ _ _ answered => exact answered.writesOnly

/-- **A turn that asks back, or searches in vain, has no reply written.** -/
theorem no_reply_of_run
    (taken : (Turn.run config request session).Takes course (.done (result, after)))
    (unanswered : result.action = some .clarify ∨
      SearchesInVain config.retrieval request.userId course) :
    .answering ∉ providerCalls course := by
  obtain ⟨styling, referring, answering, selected, references, reply, rfl, styled, referred, routed,
    rfl⟩ := run_takes_done taken
  have notOpening : ∀ step ∈ styling ++ referring, opensSearch step.question = false :=
    fun step member => (preparation_isPlain styled referred step member).2
  rw [← List.append_assoc] at unanswered ⊢
  rw [providerCalls_append, List.mem_append]
  refine not_or.mpr ⟨noReply_of_preparation styled referred, ?_⟩
  have searchless : ∀ {routing : Course}, (∀ step ∈ routing, opensSearch step.question = false) →
      ¬ SearchesInVain config.retrieval request.userId ((styling ++ referring) ++ routing) := by
    rintro routing quiet ⟨before, during, rest, query, outcome, split, searched, vain⟩
    exact no_search_of_notOpening (List.forall_mem_append.mpr ⟨notOpening, quiet⟩) split searched
      vain.finished
  cases routed with
  | referred _ _ _ text | shared _ _ _ text | past _ _ _ _ text =>
      rcases unanswered with clarifies | vain
      · cases clarifies
      · exact absurd vain (searchless (Dialogue.notOpening_replyCourse _ _ text))
  | fixed => exact List.not_mem_nil
  | fromNotes _ _ _ _ answered =>
      rcases unanswered with clarifies | vain
      · exact answered.noReply_of_clarify clarifies
      · exact noReply_of_vain answered notOpening vain

/-! ## Turns that report no action -/

/-- Whether a turn leaves the notes of the conversation alone: it brings notes along, asks nothing, or goes
past the notes. -/
def LeavesNotesAlone (request : TurnRequest) (result : TurnResult) : Prop :=
  result.references.any (·.found) = true ∨ request.question.isEmpty = true ∨
    result.mode.mode.isBypass = true

/-- **A turn reports what it did about the notes exactly if it does not leave them alone.** -/
theorem action_eq_none_iff
    (taken : (Turn.run config request session).Takes course (.done (result, after))) :
    result.action = none ↔ LeavesNotesAlone request result := by
  obtain ⟨styling, referring, answering, selected, references, reply, rfl, -, -, routed, rfl⟩ :=
    run_takes_done taken
  cases routed with
  | referred found => exact iff_of_true rfl (.inl found)
  | shared found => exact iff_of_true rfl (.inl found)
  | fixed _ noQuestion =>
      exact iff_of_true (citations_replyWithoutQuestion _ _).2 (.inr (.inl noQuestion))
  | past _ _ bypass => exact iff_of_true rfl (.inr (.inr bypass))
  | fromNotes notFound asks asksNotes _ answered =>
      refine iff_of_false answered.action_ne_none ?_
      simp [LeavesNotesAlone, TurnResult.ofReply, notFound, asks, asksNotes]

/-- **A turn that leaves the notes alone changes nothing but the mode in force**, and it calls a model for a
reply if there is something to reply to, and for nothing else. -/
theorem kept_of_no_action
    (taken : (Turn.run config request session).Takes course (.done (result, after)))
    (unreported : result.action = none) :
    after = { session with
      stickyMode := modeInForce config.turn result.mode (request.requested session).byTurn
        session.stickyMode } ∧
    providerCalls course =
      if result.references.any (·.found) || !request.question.isEmpty then [.answering] else [] := by
  obtain ⟨styling, referring, answering, selected, references, reply, rfl, styled, referred, routed,
    rfl⟩ := run_takes_done taken
  rw [← List.append_assoc, providerCalls_append, providerCalls_of_preparation styled referred,
    List.nil_append]
  cases routed with
  | referred found =>
      refine ⟨rfl, ?_⟩
      simp only [TurnResult.ofReply, found, Bool.true_or, if_true]
      rfl
  | shared found =>
      refine ⟨rfl, ?_⟩
      simp only [TurnResult.ofReply, found, Bool.true_or, if_true]
      rfl
  | fixed notFound noQuestion =>
      refine ⟨rfl, ?_⟩
      simp only [TurnResult.ofReply, notFound, noQuestion, Bool.not_true, Bool.or_self]
      rfl
  | past notFound asks =>
      refine ⟨rfl, ?_⟩
      simp only [TurnResult.ofReply, notFound, asks, Bool.not_false, Bool.or_true, if_true]
      rfl
  | fromNotes _ _ _ _ answered => exact absurd unreported answered.action_ne_none

end Turn

end NoteDialogue
