import NoteDialogue.Proofs.History
import NoteDialogue.Proofs.Turn.Mode
import NoteDialogue.Proofs.Turn.Reference

/-!
# Turns past the notes

A turn in a bypass mode that has something to answer asks a model once, with the instruction of its style,
the window of earlier messages, the notes that it refers to and its question (`Turn.pastMessages`).  How
the turn then ends depends on nothing but the answer to that call (`Turn.run_past`).

None of these messages is taken for a priming text, unless the style, the question or the notes bring one
along (`Turn.pastMessages_unprimed`).
-/

set_option autoImplicit false

namespace NoteDialogue

open Interaction

/-! ## One call of a model -/

namespace TurnSetting

variable {β σ : Type}

/-- What the one call of a turn comes to, given its answer, if there is one. -/
def endingOfCall (made : String → β) : Option (TimedAnswer String) → Ending β
  | some (.inTime (.ok text)) => .done (made text)
  | some (.inTime (.error failure)) => .failed failure
  | some .late => .failed (.timeout "Generation")
  | none => .brokenOff

/-- A call that is answered is written down and ends the course, and one that is not is left out. -/
theorem run_generate (setting : TurnSetting) (messages : List Message) (world : World σ)
    (made : String → β) (state : σ) (record : Course) :
    let asked := setting.replyQuestion messages
    let answered := world.answer asked state
    ((setting.generate messages).andThen fun text => .done (made text)).run world.recorded
        (state, record) =
      (endingOfCall made answered.1, answered.2,
        record ++ answered.1.toList.map fun answer => ⟨asked, answer⟩) := by
  intro asked answered
  refine (run_ask_recorded world asked _ state record).trans ?_
  unfold answered
  rcases world.answer asked state with ⟨_ | answer, last⟩
  · exact congrArg (fun course => (Ending.brokenOff, last, course)) (List.append_nil record).symm
  · rcases answer with (failure | text) | _ <;> rfl

end TurnSetting

/-- A selection has a style exactly if its mode is styled, and then it is what was found for its key. -/
def StyledSelection.HasItsStyle (selected : StyledSelection) (preparing : Course) : Prop :=
  selected.selection.mode.isStyled = selected.style.isSome ∧
    ∀ style, selected.style = some style → ∃ key, selected.selection.styleKey = some key ∧
      ⟨.lookUp (.style key), (.ok (some style) : Except Failure (Option Style))⟩ ∈ preparing

theorem StyledSelection.Resolved.hasItsStyle {selection : ModeSelection} {styling : Course}
    {selected : StyledSelection} (resolved : StyledSelection.Resolved selection styling selected)
    (canonical : selection.Canonical) (later : Course) : selected.HasItsStyle (styling ++ later) := by
  refine ⟨(resolved.canonical canonical).2, fun style given => ?_⟩
  cases resolved with
  | plain => cases given
  | lost => cases given
  | @found key _ named =>
      cases given
      exact ⟨key, named, List.mem_cons_self⟩

namespace Turn

variable {σ : Type} {config : Config} {request : TurnRequest} {selected : StyledSelection}
  {session : Session} {references : List ResolvedReference} {history : List Message}

/-! ## The messages of a turn past the notes -/

/-- The messages with which a turn past the notes asks a model: the instruction of its style, the earlier
messages, the notes that it refers to, and its question or the one that stands in for it. -/
def pastMessages (request : TurnRequest) (selected : StyledSelection)
    (references : List ResolvedReference) (history : List Message) : List Message :=
  selected.style.toList.map (fun style => Message.system style.systemPrompt) ++ history ++
    (if references.any (·.found) then [Message.system (sharedNotes (documentsOf references))] else []) ++
    [Message.user (attachedQuestion request.question)]

/-- Answering a turn past the notes is one call of a model with these messages. -/
theorem route_past (bypass : selected.selection.mode.isBypass = true)
    (answerable : references.any (·.found) = true ∨ request.question.isEmpty = false)
    (window : windowOf config request selected = some history) :
    route config request selected session references request.question =
      (TurnSetting.generate ⟨config.turn, selected, history⟩
        (pastMessages request selected references history)).andThen fun text =>
          .done ({ text }, session) := by
  by_cases found : references.any (·.found) = true
  · rw [route_referred found window]
    simp only [referredMessages, groundingMessage, referredCitations, pastMessages, bypass, found, if_true,
      List.nil_append, List.append_assoc]
    rfl
  · have asks : request.question.isEmpty = false := answerable.resolve_left found
    have question : attachedQuestion request.question = request.question :=
      if_neg (Bool.eq_false_iff.mp asks)
    rcases route_cases config request selected session references request.question with
      ⟨some, -⟩ | ⟨-, noQuestion, -⟩ | ⟨-, -, -, routes⟩ | ⟨-, -, asksNotes, -⟩
    · exact absurd some found
    · rw [asks] at noQuestion
      cases noQuestion
    · rw [routes, history_of_window window]
      simp only [bind_eq_andThen, andThen, TurnSetting.replyDirectly, andThen_assoc, pastMessages, found,
        question]
      rfl
    · rw [bypass] at asksNotes
      cases asksNotes

/-- The question about notes alone stands in only for a question that was left out. -/
theorem freeOfPriming_attachedQuestion {question : String} (free : FreeOfPriming question) :
    FreeOfPriming (attachedQuestion question) := by
  unfold attachedQuestion
  by_cases left_out : question.isEmpty = true
  · rw [if_pos left_out]
    exact freeOfPriming_attachedNotesQuestion
  · rw [if_neg left_out]
    exact free

/-- **None of the messages of a turn past the notes primes a model**, unless the style, the question or the
notes do. -/
theorem pastMessages_unprimed (bypass : selected.selection.mode.isBypass = true)
    (window : windowOf config request selected = some history)
    (style : ∀ style, selected.style = some style → FreeOfPriming style.systemPrompt)
    (question : FreeOfPriming request.question)
    (notes : ∀ document ∈ documentsOf references,
      FreeOfPriming document.title ∧ FreeOfPriming document.plainContent) :
    ∀ message ∈ pastMessages request selected references history,
      isPriming message.content = false := by
  intro message member
  simp only [pastMessages, List.mem_append, or_assoc] at member
  rcases member with instruction | earlier | shared | asked
  · obtain ⟨given, isGiven, rfl⟩ := List.mem_map.mp instruction
    exact isPriming_eq_false_iff.mpr (style given (Option.mem_toList.mp isGiven))
  · exact window_unprimed bypass window earlier
  · obtain ⟨-, isShared⟩ := List.mem_ite_nil_right.mp shared
    rw [List.mem_singleton.mp isShared]
    exact isPriming_eq_false_iff.mpr (freeOfPriming_sharedNotes notes)
  · have free : FreeOfPriming (attachedQuestion request.question) :=
      freeOfPriming_attachedQuestion question
    simp only [List.mem_singleton.mp asked, Message.user]
    exact isPriming_eq_false_iff.mpr free

/-! ## Whole turns -/

/-- A turn of a session with a canonical mode in force has the style that it asks for. -/
theorem hasItsStyle_of_prepare {preparing : Course} (canonical : session.ModeCanonical)
    (taken : (prepare config request session).Takes preparing (.done (selected, references))) :
    selected.HasItsStyle preparing := by
  obtain ⟨styling, rest, given, rfl, styled, further⟩ := takes_andThen_done.mp taken
  obtain ⟨referring, last, referred, rfl, -, ending⟩ := takes_andThen_done.mp further
  obtain ⟨-, same⟩ := takes_done.mp ending
  cases same
  exact (StyledSelection.resolve_takes_done styled).hasItsStyle
    (request.canonical_requested canonical) _

/-- The result of a turn past the notes. -/
def pastResult (config : Config) (request : TurnRequest) (selected : StyledSelection)
    (session : Session) (references : List ResolvedReference) (text : String) : TurnResult × Session :=
  let kept := session.keepMode config.turn selected.selection (request.requested session).byTurn
  (TurnResult.ofReply { text } selected.selection references kept, kept)

/-- **A turn past the notes that has something to answer asks a model once, after its style and its
references were looked up**, and ends as that call does. -/
theorem run_past {world : World σ} {state prepared : σ}
    (prepares : (prepare config request session).run world state =
      (.done (selected, references), prepared))
    (bypass : selected.selection.mode.isBypass = true)
    (answerable : references.any (·.found) = true ∨ request.question.isEmpty = false)
    (window : windowOf config request selected = some history) :
    (Turn.run config request session).run world state =
      ((TurnSetting.generate ⟨config.turn, selected, history⟩
          (pastMessages request selected references history)).andThen fun text =>
        .done (pastResult config request selected session references text)).run world
        prepared := by
  rw [run_eq_prepare, run_andThen_of_done prepares]
  simp only [route_past bypass answerable window, andThen_assoc, andThen]
  rfl

/-- Without a window such a turn crashes, and asks nothing more. -/
theorem run_past_of_no_window {world : World σ} {state after : σ}
    (prepares : (prepare config request session).run world state = (.done (selected, references), after))
    (answerable : references.any (·.found) = true ∨ request.question.isEmpty = false)
    (window : windowOf config request selected = none) :
    (Turn.run config request session).run world state = (.crashed, after) := by
  rw [run_eq_prepare, run_andThen_of_done prepares]
  change ((route config request selected _ references request.question).andThen _).run world after = _
  rw [route_of_no_window window answerable]
  rfl

end Turn

end NoteDialogue
