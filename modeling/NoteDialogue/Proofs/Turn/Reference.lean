import NoteDialogue.Proofs.Turn.Containment

/-!
# Turns that refer to notes

A turn with a reference that was found asks a model once, with the notes of its references right before its
question (`Turn.run_referred`).  These are the notes of the references that were found and have one
(`documentsOf_ne_nil_iff`).

A reference that was looked up has a note if it was found (`Mention.resolveAll_hasNotes`).  One that the
caller attached may be marked as found and have none, and when that is true of all that are marked so, no
note is shown to the model although the turn is answered as one that refers to notes
(`Turn.documentsOf_ne_nil_of_found`).
-/

set_option autoImplicit false

namespace NoteDialogue

open Interaction

/-! ## References with a note -/

namespace ResolvedReference

theorem document?_ne_none_iff (reference : ResolvedReference) :
    reference.document? ≠ none ↔ reference.HasNote := by
  unfold document? HasNote
  by_cases found : reference.found = true
  · rw [if_pos found, ne_eq, Option.map_eq_none_iff]
    exact (and_iff_right found).symm
  · rw [if_neg found]
    exact iff_of_false (fun some => some rfl) fun both => found both.1

end ResolvedReference

namespace Turn

variable {σ : Type} {config : Config} {request : TurnRequest} {selected : StyledSelection}
  {session : Session} {references : List ResolvedReference} {history : List Message}
  {course : Course}

/-- There are notes of references exactly if some reference has a note. -/
theorem documentsOf_ne_nil_iff (references : List ResolvedReference) :
    documentsOf references ≠ [] ↔ ∃ reference ∈ references, reference.HasNote := by
  rw [documentsOf, ne_eq, List.filterMap_eq_nil_iff]
  push Not
  simp only [ResolvedReference.document?_ne_none_iff]

/-- The references of a turn are those that the caller attached, or else those in its text. -/
theorem references_takes_done {turnConfig : TurnConfig} {mentions : List Mention}
    (taken : (Turn.references turnConfig request mentions).Takes course (.done references)) :
    (request.attached = [] ∧ (Mention.resolveAll request.userId mentions).Takes course
        (.done references)) ∨
      (request.attached ≠ [] ∧ references = ResolvedReference.dedupe request.attached) := by
  unfold Turn.references at taken
  cases attached : request.attached with
  | nil =>
      rw [attached] at taken
      obtain ⟨checking, rest, _, rfl, checked, resolved⟩ := takes_andThen_done.mp taken
      obtain ⟨rfl, -⟩ := takes_ofExcept_done.mp checked
      exact .inl ⟨rfl, resolved⟩
  | cons first others =>
      rw [attached] at taken
      obtain ⟨checking, rest, _, rfl, checked, given⟩ := takes_andThen_done.mp taken
      obtain ⟨-, same⟩ := takes_done.mp given
      cases same
      exact .inr ⟨nofun, rfl⟩

/-- **A turn with a reference that was found has a note to answer from**, unless the caller attached
references and none of those that are marked as found has a note. -/
theorem documentsOf_ne_nil_of_found {turnConfig : TurnConfig} {mentions : List Mention}
    (taken : (Turn.references turnConfig request mentions).Takes course (.done references))
    (found : references.any (·.found) = true) :
    documentsOf references ≠ [] ↔
      request.attached = [] ∨ ∃ reference ∈ request.attached, reference.HasNote := by
  rw [documentsOf_ne_nil_iff]
  rcases references_takes_done taken with ⟨none, resolved⟩ | ⟨some, rfl⟩
  · have haveNotes : ∀ reference ∈ references, reference.found = true → reference.HasNote :=
      (Mention.resolveAll_hasNotes request.userId mentions).of_takes resolved fun _ _ => trivial
    obtain ⟨reference, member, isFound⟩ := List.any_eq_true.mp found
    exact iff_of_true ⟨reference, member, haveNotes reference member isFound⟩ (.inl none)
  · rw [ResolvedReference.exists_hasNote_dedupe]
    exact (or_iff_right some).symm

/-- A reference that is attached as found, but has no note. -/
example : documentsOf (ResolvedReference.dedupe [{
    noteId := none, title := "Rent", plainContent := "1200", found := true, errorReason := none,
    requested := "Rent" }]) = [] := rfl

/-! ## Answering from them -/

/-- The message with the notes that a turn refers to: the block of notes, or in a bypass mode the notes as
the user shared them. -/
def groundingMessage (selected : StyledSelection) (documents : List Document) : Message :=
  if selected.selection.mode.isBypass then .system (sharedNotes documents)
  else .system (contextBlock documents)

/-- The messages with which a turn asks a model about the notes that it refers to. -/
def referredMessages (request : TurnRequest) (selected : StyledSelection)
    (references : List ResolvedReference) (history : List Message) : List Message :=
  (if selected.selection.mode.isBypass then [] else [Message.system systemSeed]) ++
    selected.instruction ++ history ++
    [groundingMessage selected (documentsOf references),
      Message.user (attachedQuestion request.question)]

/-- What a turn that refers to notes cites: these notes, or nothing in a bypass mode. -/
def referredCitations (selected : StyledSelection) (references : List ResolvedReference) :
    List Citation :=
  if selected.selection.mode.isBypass then [] else (documentsOf references).map Document.citation

/-- Answering a turn that refers to notes is one call of a model. -/
theorem route_referred (found : references.any (·.found) = true)
    (window : windowOf config request selected = some history) :
    route config request selected session references request.question =
      (TurnSetting.generate ⟨config.turn, selected, history⟩
        (referredMessages request selected references history)).andThen fun text =>
          .done ({ text, citations := referredCitations selected references }, session) := by
  rcases route_cases config request selected session references request.question with
    ⟨-, routes⟩ | ⟨notFound, -⟩ | ⟨notFound, -⟩ | ⟨notFound, -⟩
  · rw [routes, history_of_window window]
    cases bypass : selected.selection.mode.isBypass with
    | true =>
        simp only [bind_eq_andThen, andThen, replyFromReferences, bypass, if_true,
          TurnSetting.replyDirectly, TurnSetting.directMessages, andThen_assoc, referredMessages,
          groundingMessage, referredCitations, List.nil_append, List.append_assoc]
        rfl
    | false =>
        simp only [bind_eq_andThen, andThen, replyFromReferences, bypass, Bool.false_eq_true, if_false,
          TurnSetting.answer, TurnSetting.groundedMessages, andThen_assoc, referredMessages,
          groundingMessage, referredCitations]
        rfl
  all_goals rw [notFound] at found; cases found

/-- The result of a turn that refers to notes. -/
def referredResult (config : Config) (request : TurnRequest) (selected : StyledSelection)
    (session : Session) (references : List ResolvedReference) (text : String) : TurnResult × Session :=
  let kept := session.keepMode config.turn selected.selection (request.requested session).byTurn
  (TurnResult.ofReply { text, citations := referredCitations selected references }
    selected.selection references kept, kept)

/-- **A turn with a reference that was found asks a model once, after its style and its references were
looked up**, and ends as that call does. -/
theorem run_referred {world : World σ} {state prepared : σ}
    (prepares : (prepare config request session).run world state =
      (.done (selected, references), prepared))
    (found : references.any (·.found) = true)
    (window : windowOf config request selected = some history) :
    (Turn.run config request session).run world state =
      ((TurnSetting.generate ⟨config.turn, selected, history⟩
          (referredMessages request selected references history)).andThen fun text =>
        .done (referredResult config request selected session references text)).run world
        prepared := by
  rw [run_eq_prepare, run_andThen_of_done prepares]
  simp only [route_referred found window, andThen_assoc, andThen]
  rfl

end Turn

end NoteDialogue
