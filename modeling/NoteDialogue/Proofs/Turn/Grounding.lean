import NoteDialogue.Proofs.Turn.Route

/-!
# What a reply is grounded in

The notes that a reply cites are the notes that the model was shown for it.  A turn about the notes
cites something exactly when it asked the model for a reply, and then both the citations and the notes
in the question are the scope of the session that the turn leaves (`FromNotes.grounded`).  A turn that
refers to notes cites those that were found, and nothing else cites anything (`run_citesItsSources`).
-/

set_option autoImplicit false

namespace NoteDialogue

open Interaction Retrieval

/-! ## Questions for a reply -/

/-- The questions of a course that ask the model for a reply. -/
def answeringCalls (course : Course) : List Ask :=
  (course.map (·.question)).filter (fun question => question.purpose? == some .answering)

/-- A question shows the model these notes, in this order, right before the message of the user. -/
def GroundedIn (documents : List Document) (question : Ask) : Prop :=
  ∃ opening asked options limit,
    question = .generate .answering
      (opening ++ [Message.system (contextBlock documents), Message.user asked]) options limit

theorem answeringCalls_append (before after : Course) :
    answeringCalls (before ++ after) = answeringCalls before ++ answeringCalls after := by
  simp [answeringCalls]

theorem answeringCalls_eq_nil {course : Course}
    (none : ∀ step ∈ course, step.question.purpose? ≠ some .answering) :
    answeringCalls course = [] := by
  simp only [answeringCalls, List.filter_eq_nil_iff, List.mem_map, beq_iff_eq]
  rintro _ ⟨step, member, rfl⟩
  exact none step member

theorem answeringCalls_of_plain {course : Course} (plain : ∀ step ∈ course, IsPlain step.question) :
    answeringCalls course = [] := by
  refine answeringCalls_eq_nil fun step member asks => ?_
  rw [(plain step member).1] at asks
  cases asks

theorem answeringCalls_replyCourse (setting : TurnSetting) (messages : List Message) (text : String) :
    answeringCalls (setting.replyCourse messages text) = [setting.replyQuestion messages] := rfl

theorem groundedIn_replyQuestion (setting : TurnSetting) (documents : List Document)
    (question : String) :
    GroundedIn documents (setting.replyQuestion (setting.groundedMessages documents question)) :=
  ⟨[Message.system systemSeed] ++ setting.selected.instruction ++ setting.history, question, _, _, rfl⟩

/-- No search asks the model for anything. -/
theorem answeringCalls_of_search {config : RetrievalConfig} {ownerId query : String}
    {filter : NoteFilter} {course : Course} {ending : Ending SearchResult}
    (taken : (search config ownerId query filter).Takes course ending) (finished : ending ≠ .brokenOff) :
    answeringCalls course = [] := by
  obtain ⟨first, rest, rfl, opening, plain⟩ := search_opens taken finished
  have firstAsks : first.question.purpose? ≠ some .answering := by
    rw [opening, openingQuestion]
    cases wordSearch? query filter <;> exact nofun
  have restAsk : ∀ step ∈ rest, step.question.purpose? ≠ some .answering := by
    intro step member asks
    rw [(plain step member).1] at asks
    cases asks
  exact answeringCalls_eq_nil (List.forall_mem_cons.mpr ⟨firstAsks, restAsk⟩)

/-! ## Scopes -/

/-- An action that fits a consistent session, and does not ask back, leaves something in scope. -/
theorem Session.Consistent.scope_ne_nil {session changed : Session} {action : PlanAction}
    (consistent : session.Consistent) (applied : session.apply action = .ok changed)
    (notAskingBack : action ≠ .clarify) : changed.scope ≠ [] := by
  rcases Session.apply_cases applied with
    ⟨_, document, -, -, rfl⟩ | ⟨-, focused, rfl⟩ | ⟨-, found, rfl⟩ | ⟨asksBack, -⟩
  · exact List.cons_ne_nil document []
  · have found := consistent.candidates_ne_nil focused
    unfold Session.scope Session.afterAnswer
    cases session.focus with
    | none => exact found
    | some focus =>
        cases focus with
        | note document => exact List.cons_ne_nil document []
        | aggregated => exact found
  · exact found
  · exact absurd asksBack notAskingBack

namespace Dialogue

variable {setting : TurnSetting} {retrieval : RetrievalConfig} {userId query question : String}
  {session after : Session} {action : PlanAction} {found : SearchResult} {course : Course}
  {reply : TurnReply}

/-- A reply that cites nothing, without a call for it, or one that cites the scope of a session, with one
call that shows the model this scope. -/
inductive Grounded (course : Course) (reply : TurnReply) (after : Session) : Prop where
  | silent (none : reply.citations = []) (noCall : answeringCalls course = [])
  | spoken (some : after.scope ≠ []) (cites : reply.citations = after.scope.map Document.citation)
      {call : Ask} (oneCall : answeringCalls course = [call])
      (grounded : GroundedIn after.scope call)

/-- What comes before without a call for a reply changes nothing. -/
theorem Grounded.after_quiet {before : Course} (grounded : Grounded course reply after)
    (quiet : answeringCalls before = []) : Grounded (before ++ course) reply after := by
  have same : answeringCalls (before ++ course) = answeringCalls course := by
    rw [answeringCalls_append, quiet, List.nil_append]
  cases grounded with
  | silent none noCall => exact .silent none (same.trans noCall)
  | spoken some cites oneCall grounded => exact .spoken some cites (same.trans oneCall) grounded

theorem Grounded.withStrategy (grounded : Grounded course reply after)
    (strategy : Option SearchStrategy) : Grounded course { reply with strategy } after := by
  cases grounded with
  | silent none noCall => exact .silent none noCall
  | spoken some cites oneCall grounded => exact .spoken some cites oneCall grounded

theorem Acted.grounded (consistent : session.Consistent)
    (acted : Acted setting session action question course reply after) :
    Grounded course reply after := by
  cases acted with
  | askedBack => exact .silent rfl rfl
  | answered notAskingBack applied text =>
      exact .spoken (consistent.scope_ne_nil applied notAskingBack) rfl
        (answeringCalls_replyCourse setting _ text) (groundedIn_replyQuestion setting _ question)

theorem Continued.grounded
    (continued : Continued setting session query question found course reply after) :
    Grounded course reply after := by
  cases continued with
  | nothing => exact .silent rfl rfl
  | @one document single text =>
      exact .spoken (List.cons_ne_nil document []) rfl (answeringCalls_replyCourse setting _ text)
        (groundedIn_replyQuestion setting [document] question)
  | all several clear text =>
      have some : found.documents ≠ [] := List.ne_nil_of_length_pos (by omega)
      exact .spoken some rfl (answeringCalls_replyCourse setting _ text)
        (groundedIn_replyQuestion setting found.documents question)
  | @planned _ reason _ answer _ _ _ acted =>
      have recorded := Session.consistent_recordSearch session query found.documents
      have quiet : answeringCalls
          [⟨setting.planQuestion (session.recordSearch query found.documents) question
            (some (ambiguityHint reason)), answer⟩] = [] := rfl
      exact ((acted.grounded recorded).after_quiet quiet).withStrategy _

theorem Planned.quiet (planned : Planned setting session question course action) :
    answeringCalls course = [] := by
  cases planned <;> rfl

/-- **A reply to a message about the notes is grounded in the scope of the session that it leaves.** -/
theorem FromNotes.grounded (consistent : session.Consistent)
    (answered : FromNotes setting retrieval userId session question course reply after) :
    Grounded course reply after := by
  cases answered with
  | acted planned _ acted => exact (acted.grounded consistent).after_quiet planned.quiet
  | unavailable planned failed =>
      refine .silent rfl ?_
      rw [answeringCalls_append, planned.quiet, answeringCalls_of_search failed nofun]
      rfl
  | searched planned searched continued =>
      exact (continued.grounded.after_quiet (answeringCalls_of_search searched nofun)).after_quiet
        planned.quiet

/-- A reply to a message about the notes says what was done about them. -/
theorem FromNotes.action_ne_none
    (answered : FromNotes setting retrieval userId session question course reply after) :
    reply.action ≠ none := by
  have acts : ∀ {current last : Session} {action : PlanAction} {acting : Course} {acted : TurnReply},
      Acted setting current action question acting acted last → acted.action ≠ none := by
    intro current last action acting acted taken
    cases taken <;> exact nofun
  cases answered with
  | acted _ _ acted => exact acts acted
  | unavailable => exact nofun
  | searched _ _ continued =>
      cases continued with
      | nothing | one | all => exact nofun
      | planned _ _ _ acted =>
          have said := acts acted
          exact said

end Dialogue

/-! ## Whole turns -/

/-- The citation of a reference that was found and has a note. -/
def ResolvedReference.citation? (reference : ResolvedReference) : Option Citation :=
  if reference.found then
    reference.noteId.map (fun noteId => { noteId, title := reference.title, relevance := none })
  else none

theorem ResolvedReference.citation?_eq (reference : ResolvedReference) :
    reference.citation? = reference.document?.map Document.citation := by
  unfold ResolvedReference.citation? ResolvedReference.document?
  by_cases found : reference.found = true
  · rw [if_pos found, if_pos found, Option.map_map]
    rfl
  · rw [if_neg found, if_neg found]
    rfl

namespace Turn

variable {config : Config} {request : TurnRequest} {session after : Session} {course : Course}
  {result : TurnResult}

theorem citations_documentsOf (references : List ResolvedReference) :
    (documentsOf references).map Document.citation =
      references.filterMap ResolvedReference.citation? := by
  rw [documentsOf, List.map_filterMap]
  exact List.filterMap_congr fun reference _ => reference.citation?_eq.symm

/-- The citations of a turn, given the session that it leaves and what it asked. -/
structure CitesItsSources (request : TurnRequest) (result : TurnResult) (after : Session)
    (course : Course) : Prop where
  bypass : result.mode.mode.isBypass = true → result.citations = []
  /-- An action is reported exactly by the turns that are answered from the notes. -/
  action_iff : result.action ≠ none ↔
    result.mode.mode.isBypass = false ∧ result.references.any (·.found) = false ∧
      request.question.isEmpty = false
  cites_iff : result.action ≠ none → (result.citations ≠ [] ↔ answeringCalls course ≠ [])
  scope : result.action ≠ none → result.citations ≠ [] →
    result.citations = after.scope.map Document.citation ∧
      ∃ call, answeringCalls course = [call] ∧ GroundedIn after.scope call
  referred : result.mode.mode.isBypass = false → result.references.any (·.found) = true →
    result.citations = result.references.filterMap ResolvedReference.citation?
  nothingElse : result.action = none → result.references.any (·.found) = false →
    result.citations = []

theorem citations_replyWithoutQuestion (selection : ModeSelection)
    (references : List ResolvedReference) :
    (replyWithoutQuestion selection references).citations = [] ∧
      (replyWithoutQuestion selection references).action = none := by
  unfold replyWithoutQuestion
  split <;> exact ⟨rfl, rfl⟩

namespace CitesItsSources

/-- A turn that reports no action cites the references, or nothing. -/
theorem of_silent (silent : result.action = none)
    (notFromNotes : ¬(result.mode.mode.isBypass = false ∧ result.references.any (·.found) = false ∧
      request.question.isEmpty = false))
    (bypass : result.mode.mode.isBypass = true → result.citations = [])
    (referred : result.mode.mode.isBypass = false → result.references.any (·.found) = true →
      result.citations = result.references.filterMap ResolvedReference.citation?)
    (nothingElse : result.references.any (·.found) = false → result.citations = []) :
    CitesItsSources request result after course where
  bypass := bypass
  action_iff := ⟨fun acts => absurd silent acts, fun fromNotes => absurd fromNotes notFromNotes⟩
  cites_iff := fun acts => absurd silent acts
  scope := fun acts => absurd silent acts
  referred := referred
  nothingElse := fun _ => nothingElse

/-- A turn that is answered from the notes cites what it is grounded in. -/
theorem of_grounded {reply : TurnReply} {mode : ModeSelection} {references : List ResolvedReference}
    (acts : reply.action ≠ none) (asksNotes : mode.mode.isBypass = false)
    (notFound : references.any (·.found) = false) (asks : request.question.isEmpty = false)
    (grounded : Dialogue.Grounded course reply after) :
    CitesItsSources request (TurnResult.ofReply reply mode references after) after course where
  bypass := fun bypass => absurd (bypass.symm.trans asksNotes) (by decide)
  action_iff := ⟨fun _ => ⟨asksNotes, notFound, asks⟩, fun _ => acts⟩
  cites_iff := by
    intro _
    cases grounded with
    | silent none noCall => exact ⟨fun cites => absurd none cites, fun calls => absurd noCall calls⟩
    | spoken some cites oneCall _ =>
        refine ⟨fun _ => ?_, fun _ none => ?_⟩
        · rw [oneCall]
          exact List.cons_ne_nil _ _
        · exact some (List.map_eq_nil_iff.mp (cites.symm.trans none))
  scope := by
    intro _ cites
    cases grounded with
    | silent none => exact absurd none cites
    | spoken _ shown oneCall shows => exact ⟨shown, _, oneCall, shows⟩
  referred := fun _ found => absurd (found.symm.trans notFound) (by decide)
  nothingElse := fun silent => absurd silent acts

end CitesItsSources

/-- **Every turn on a consistent session cites its sources**: the scope of the session that it leaves,
the notes that it refers to, or nothing. -/
theorem run_citesItsSources (consistent : session.Consistent)
    (taken : (Turn.run config request session).Takes course (.done (result, after))) :
    CitesItsSources request result after course := by
  obtain ⟨styling, referring, answering, selected, references, reply, rfl, styled, referred, routed,
    rfl⟩ := run_takes_done taken
  cases routed with
  | referred found asksNotes =>
      refine .of_silent rfl (fun fromNotes => ?_) (fun bypass => ?_)
        (fun _ _ => citations_documentsOf references) fun notFound => ?_
      · exact absurd (found.symm.trans fromNotes.2.1) (by decide)
      · exact absurd (bypass.symm.trans asksNotes) (by decide)
      · exact absurd (found.symm.trans notFound) (by decide)
  | shared _ bypass | past _ _ bypass =>
      refine .of_silent rfl (fun fromNotes => ?_) (fun _ => rfl) (fun asksNotes => ?_) fun _ => rfl
      · exact absurd (bypass.symm.trans fromNotes.1) (by decide)
      · exact absurd (bypass.symm.trans asksNotes) (by decide)
  | fixed notFound noQuestion =>
      obtain ⟨cites, silent⟩ := citations_replyWithoutQuestion selected.selection references
      refine .of_silent silent (fun fromNotes => ?_) (fun _ => cites) (fun _ found => ?_)
        fun _ => cites
      · exact absurd (noQuestion.symm.trans fromNotes.2.2) (by decide)
      · exact absurd (found.symm.trans notFound) (by decide)
  | fromNotes notFound asks asksNotes _ answered =>
      -- Nothing is generated while the style and the references are looked up.
      have quiet : answeringCalls (styling ++ referring) = [] :=
        answeringCalls_of_plain (preparation_isPlain styled referred)
      have grounded := (answered.grounded (consistent.keepMode _ _ _)).after_quiet quiet
      rw [List.append_assoc] at grounded
      exact .of_grounded answered.action_ne_none asksNotes notFound asks grounded

end Turn

end NoteDialogue
