import NoteDialogue.Proofs.Turn.Course

/-!
# The courses of whole turns

A turn settles its mode and its references without a model and without a search, and is then answered in
one of five ways (`Routed`): from the notes that it refers to, past the notes but with those that it
refers to at hand, with a fixed reply, past the notes, or from the notes.  Only the last of them changes
anything but the mode in force.
-/

set_option autoImplicit false

namespace NoteDialogue

open Interaction Retrieval

/-- What a turn asks, without the directive and the references in its text. -/
def TurnRequest.question (request : TurnRequest) : String :=
  (MentionReading.ofText (Directive.ofUtterance request.text).cleanText).cleanText

/-- The references in the text of a turn. -/
def TurnRequest.mentions (request : TurnRequest) : List Mention :=
  (MentionReading.ofText (Directive.ofUtterance request.text).cleanText).mentions

/-- The mode that a turn of a session asks for. -/
def TurnRequest.requested (request : TurnRequest) (session : Session) : RequestedMode :=
  requestedMode (Directive.ofUtterance request.text) request.sessionMode session.stickyMode

/-! ## What precedes the answer -/

/-- The questions that precede the answer: for a style, and for the notes of an owner that a turn refers
to. -/
def Ask.Prepares (ownerId : String) : Ask → Prop
  | .lookUp (.style _) => True
  | .lookUp (.noteById owner _) | .lookUp (.notesByTitle owner _)
  | .lookUp (.notesByText owner _ _) => owner = ownerId
  | _ => False

theorem Ask.Prepares.isPlain {ownerId : String} {question : Ask} (prepares : question.Prepares ownerId) :
    IsPlain question := by
  match question with
  | .generate _ _ _ _ | .embedQuery _ _ | .embedPassages _ => exact prepares.elim
  | .lookUp lookup =>
      cases lookup with
      | style | noteById | notesByTitle | notesByText => exact ⟨rfl, rfl⟩
      | setting | recollect | remember | notesByTerms | similarChunks => exact prepares.elim

section Preparing

variable {ownerId : String}

theorem StyledSelection.resolve_asksOnly (ownerId : String) (selection : ModeSelection) :
    (StyledSelection.resolve selection).AsksOnly (Ask.Prepares ownerId) := by
  unfold StyledSelection.resolve
  cases selection.styleKey with
  | none => trivial
  | some key => exact AsksOnly.andThen (.lookUp trivial) fun _ => trivial

theorem Mention.lookUpText_asksOnly (text : String) :
    (Mention.lookUpText ownerId text).AsksOnly (Ask.Prepares ownerId) := by
  refine AsksOnly.andThen (.lookUp rfl) fun answer => ?_
  cases answer <;> trivial

theorem Mention.lookUp_asksOnly (mention : Mention) :
    (Mention.lookUp ownerId mention).AsksOnly (Ask.Prepares ownerId) := by
  unfold Mention.lookUp
  cases mention.kind with
  | exactId => exact .lookUp rfl
  | freeText => exact lookUpText_asksOnly mention.value
  | quotedTitle =>
      refine AsksOnly.andThen (.lookUp rfl) fun answer => ?_
      rcases answer with failure | _ | ⟨note, others⟩
      · trivial
      · exact lookUpText_asksOnly mention.value
      · trivial

theorem Mention.resolveAll_asksOnly (mentions : List Mention) :
    (Mention.resolveAll ownerId mentions).AsksOnly (Ask.Prepares ownerId) := by
  refine AsksOnly.andThen (.forEach (fun mention => ?_) mentions) fun _ => trivial
  exact AsksOnly.andThen (lookUp_asksOnly mention) fun _ => trivial

end Preparing

namespace Turn

variable {config : Config} {request : TurnRequest} {selected : StyledSelection}
  {session after : Session} {references : List ResolvedReference} {question : String}
  {course : Course} {reply : TurnReply} {result : TurnResult}

theorem references_asksOnly (config : TurnConfig) (request : TurnRequest) (mentions : List Mention) :
    (Turn.references config request mentions).AsksOnly (Ask.Prepares request.userId) := by
  unfold Turn.references
  by_cases attached : request.attached.isEmpty = true
  · rw [if_pos attached]
    exact AsksOnly.andThen (.ofExcept _) fun _ => Mention.resolveAll_asksOnly mentions
  · rw [if_neg attached]
    exact AsksOnly.andThen (.ofExcept _) fun _ => trivial

/-! ## The ways of answering -/

/-- The question that is put to the notes that a turn refers to. -/
def attachedQuestion (question : String) : String :=
  if question.isEmpty then attachedNotesQuestion else question

/-- The notes of the references that were found. -/
def documentsOf (references : List ResolvedReference) : List Document :=
  references.filterMap ResolvedReference.document?

/-- The earlier messages that a model is shown in a turn. -/
def windowOf (config : Config) (request : TurnRequest) (selected : StyledSelection) :
    Option (List Message) :=
  historyWindow? config.turn.historyTurns selected.selection.mode request.history

/-- A turn is answered from the notes that it refers to, past them with these at hand, with a fixed
reply, past the notes, or from the notes. -/
inductive Routed (config : Config) (request : TurnRequest) (selected : StyledSelection)
    (session : Session) (references : List ResolvedReference) (question : String) :
    Course → TurnReply → Session → Prop where
  | referred (found : references.any (·.found) = true)
      (asksNotes : selected.selection.mode.isBypass = false) {history : List Message}
      (window : windowOf config request selected = some history) (text : String) :
      Routed config request selected session references question
        (TurnSetting.answerCourse ⟨config.turn, selected, history⟩ (documentsOf references)
          (attachedQuestion question) text)
        { text, citations := (documentsOf references).map Document.citation } session
  | shared (found : references.any (·.found) = true)
      (bypass : selected.selection.mode.isBypass = true) {history : List Message}
      (window : windowOf config request selected = some history) (text : String) :
      Routed config request selected session references question
        (TurnSetting.replyCourse ⟨config.turn, selected, history⟩
          (TurnSetting.directMessages ⟨config.turn, selected, history⟩
            [Message.system (sharedNotes (documentsOf references))] (attachedQuestion question)) text)
        { text } session
  | fixed (notFound : references.any (·.found) = false) (noQuestion : question.isEmpty = true) :
      Routed config request selected session references question []
        (replyWithoutQuestion selected.selection references) session
  | past (notFound : references.any (·.found) = false) (asks : question.isEmpty = false)
      (bypass : selected.selection.mode.isBypass = true) {history : List Message}
      (window : windowOf config request selected = some history) (text : String) :
      Routed config request selected session references question
        (TurnSetting.replyCourse ⟨config.turn, selected, history⟩
          (TurnSetting.directMessages ⟨config.turn, selected, history⟩ [] question) text)
        { text } session
  | fromNotes (notFound : references.any (·.found) = false) (asks : question.isEmpty = false)
      (asksNotes : selected.selection.mode.isBypass = false) {history : List Message}
      (window : windowOf config request selected = some history) {course : Course} {reply : TurnReply}
      {after : Session}
      (answered : Dialogue.FromNotes ⟨config.turn, selected, history⟩ config.retrieval
        request.userId session question course reply after) :
      Routed config request selected session references question course reply after

/-- What applying an action and recording a search preserve, answering a turn preserves. -/
theorem Routed.preserves (property : Session → Prop)
    (routed : Routed config request selected session references question course reply after)
    (start : property session)
    (applied : ∀ {current changed : Session} {action : PlanAction}, property current →
      current.apply action = .ok changed → property changed)
    (recorded : ∀ {query : String} {found : SearchResult} {searching : Course},
      (∀ step ∈ searching, step ∈ course) →
      (Retrieval.search config.retrieval request.userId query {}).Takes searching (.done found) →
      property (session.recordSearch query found.documents)) : property after := by
  cases routed with
  | referred | shared | fixed | past => exact start
  | fromNotes _ _ _ _ answered => exact answered.preserves property start applied recorded

theorem history_takes_done {turnConfig : TurnConfig} {mode : ChatMode} {messages window : List Message}
    (taken : (Turn.history turnConfig mode messages).Takes course (.done window)) :
    course = [] ∧ historyWindow? turnConfig.historyTurns mode messages = some window := by
  unfold Turn.history at taken
  cases kept : historyWindow? turnConfig.historyTurns mode messages with
  | none => simp [kept, takes_crashed] at taken
  | some given =>
      rw [kept] at taken
      obtain ⟨rfl, same⟩ := takes_done.mp taken
      cases same
      exact ⟨rfl, rfl⟩

/-- Answering a turn is answering from the notes that it refers to, a fixed reply, a reply past the notes or an
answer from the notes. -/
theorem route_cases (config : Config) (request : TurnRequest) (selected : StyledSelection) (session : Session)
    (references : List ResolvedReference) (question : String) :
    (references.any (·.found) = true ∧
      route config request selected session references question =
        (Turn.history config.turn selected.selection.mode request.history).andThen fun history =>
          (replyFromReferences ⟨config.turn, selected, history⟩ references question).andThen fun reply =>
            .done (reply, session)) ∨
    (references.any (·.found) = false ∧ question.isEmpty = true ∧
      route config request selected session references question =
        .done (replyWithoutQuestion selected.selection references, session)) ∨
    (references.any (·.found) = false ∧ question.isEmpty = false ∧ selected.selection.mode.isBypass = true ∧
      route config request selected session references question =
        (Turn.history config.turn selected.selection.mode request.history).andThen fun history =>
          (TurnSetting.replyDirectly ⟨config.turn, selected, history⟩ [] question).andThen fun reply =>
            .done (reply, session)) ∨
    (references.any (·.found) = false ∧ question.isEmpty = false ∧ selected.selection.mode.isBypass = false ∧
      route config request selected session references question =
        (Turn.history config.turn selected.selection.mode request.history).andThen fun history =>
          Dialogue.reply ⟨config.turn, selected, history⟩ config.retrieval request.userId session question) := by
  unfold route routeWith
  cases found : references.any (·.found) with
  | true =>
      rw [if_pos rfl]
      exact .inl ⟨rfl, rfl⟩
  | false =>
      rw [if_neg Bool.false_ne_true]
      cases noQuestion : question.isEmpty with
      | true =>
          rw [if_pos rfl]
          exact .inr (.inl ⟨rfl, rfl, rfl⟩)
      | false =>
          rw [if_neg Bool.false_ne_true]
          cases bypass : selected.selection.mode.isBypass with
          | true => exact .inr (.inr (.inl ⟨rfl, rfl, rfl, rfl⟩))
          | false => exact .inr (.inr (.inr ⟨rfl, rfl, rfl, rfl⟩))

theorem route_takes_done
    (taken : (Turn.route config request selected session references question).Takes course
      (.done (reply, after))) :
    Routed config request selected session references question course reply after := by
  rcases route_cases config request selected session references question with
    ⟨found, routes⟩ | ⟨notFound, noQuestion, routes⟩ | ⟨notFound, asks, bypass, routes⟩ |
      ⟨notFound, asks, asksNotes, routes⟩
  · rw [routes] at taken
    obtain ⟨loading, rest, history, rfl, loaded, further⟩ := takes_andThen_done.mp taken
    obtain ⟨rfl, window⟩ := history_takes_done loaded
    obtain ⟨replying, last, answered, rfl, replies, ending⟩ := takes_andThen_done.mp further
    obtain ⟨rfl, same⟩ := takes_done.mp ending
    cases same
    unfold Turn.replyFromReferences at replies
    rw [List.append_nil, List.nil_append]
    cases bypass : selected.selection.mode.isBypass with
    | true =>
        simp only [bypass, if_true] at replies
        obtain ⟨text, rfl, rfl⟩ := TurnSetting.replyDirectly_takes_done replies
        exact .shared found bypass window text
    | false =>
        simp only [bypass, Bool.false_eq_true, if_false] at replies
        obtain ⟨text, rfl, rfl⟩ := TurnSetting.answer_takes_done replies
        exact .referred found bypass window text
  · rw [routes] at taken
    obtain ⟨rfl, same⟩ := takes_done.mp taken
    cases same
    exact .fixed notFound noQuestion
  · rw [routes] at taken
    obtain ⟨loading, rest, history, rfl, loaded, further⟩ := takes_andThen_done.mp taken
    obtain ⟨rfl, window⟩ := history_takes_done loaded
    obtain ⟨replying, last, answered, rfl, replies, ending⟩ := takes_andThen_done.mp further
    obtain ⟨text, rfl, rfl⟩ := TurnSetting.replyDirectly_takes_done replies
    obtain ⟨rfl, same⟩ := takes_done.mp ending
    cases same
    rw [List.append_nil, List.nil_append]
    exact .past notFound asks bypass window text
  · rw [routes] at taken
    obtain ⟨loading, rest, history, rfl, loaded, further⟩ := takes_andThen_done.mp taken
    obtain ⟨rfl, window⟩ := history_takes_done loaded
    exact .fromNotes notFound asks asksNotes window (Dialogue.reply_takes_done further)

/-- **The course of a turn that ends well**: its style and its references are looked up, and then it is
answered in one of the ways, which the mode in force goes into. -/
theorem run_takes_done
    (taken : (Turn.run config request session).Takes course (.done (result, after))) :
    ∃ (styling referring answering : Course) (selected : StyledSelection)
      (references : List ResolvedReference) (reply : TurnReply),
      course = styling ++ (referring ++ answering) ∧
      (StyledSelection.resolve (request.requested session).selection).Takes styling
        (.done selected) ∧
      (Turn.references config.turn request request.mentions).Takes referring (.done references) ∧
      Routed config request selected
        (session.keepMode config.turn selected.selection (request.requested session).byTurn)
        references request.question answering reply after ∧
      result = TurnResult.ofReply reply selected.selection references after := by
  obtain ⟨styling, rest, selected, rfl, styled, further⟩ := takes_andThen_done.mp taken
  obtain ⟨referring, rest, references, rfl, referred, further⟩ := takes_andThen_done.mp further
  obtain ⟨routing, rest, ⟨reply, changed⟩, rfl, routed, ending⟩ := takes_andThen_done.mp further
  obtain ⟨rfl, same⟩ := takes_done.mp ending
  cases same
  rw [List.append_nil]
  exact ⟨styling, referring, routing, selected, references, reply, rfl, styled, referred,
    route_takes_done routed, rfl⟩

/-- A turn that ends well leaves a session of the same conversation of the same user. -/
theorem sameOwner_of_run
    (taken : (Turn.run config request session).Takes course (.done (result, after))) :
    session.SameOwner after := by
  obtain ⟨_, _, _, _, _, _, -, -, -, routed, -⟩ := run_takes_done taken
  exact routed.preserves session.SameOwner ⟨rfl, rfl⟩
    (fun same applied => same.trans (Session.sameOwner_of_apply applied)) fun _ _ => ⟨rfl, rfl⟩

/-- What is looked up before a turn is answered. -/
theorem preparation_isPlain {styling referring : Course} {selection : ModeSelection}
    (styled : (StyledSelection.resolve selection).Takes styling (.done selected))
    (referred : (Turn.references config.turn request request.mentions).Takes referring
      (.done references)) :
    ∀ step ∈ styling ++ referring, IsPlain step.question := by
  intro step member
  have prepares : step.question.Prepares request.userId := by
    rcases List.mem_append.mp member with early | late
    · exact styled.asked (StyledSelection.resolve_asksOnly _ _) step early
    · exact referred.asked (references_asksOnly _ _ _) step late
  exact prepares.isPlain

end Turn

end NoteDialogue
