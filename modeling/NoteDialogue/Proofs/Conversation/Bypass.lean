import NoteDialogue.Proofs.Conversation.Answer
import NoteDialogue.Proofs.Turn.Bypass

/-!
# Requests past the notes

A request in a bypass mode that has something to answer has a model asked once: after its style and its
references were looked up, and with nothing else in between or afterwards.  It ends as that call does, and
its result has nothing of the notes: no citations, no action and no search (`Conversation.EndsPast`).

The model is shown nothing of what earlier answers from notes were primed with
(`Conversation.past_asks_once`).  The one exception is a service that is configured to show it no earlier
turns at all: it crashes when there is one to leave out.
-/

set_option autoImplicit false

namespace NoteDialogue

open Interaction

namespace Conversation

variable {σ : Type} {config : Config} {world : World σ} {between : σ → σ → Prop}
  {start state prepared : σ} {cancelled : Bool} {request : TurnRequest} {store : SessionStore}
  {session : Session} {selected : StyledSelection} {references : List ResolvedReference}
  {history : List Message} {preparing : Course}

/-! ## The mode in force -/

/-- A turn leaves a canonical mode in force. -/
theorem modeCanonical_preserved (config : Config) :
    PreservedByTurns config (fun _ => True) Session.ModeCanonical := by
  intro request session after course result canonical taken _
  obtain ⟨styling, _, _, selected, _, _, -, styled, -, routed, -⟩ := Turn.run_takes_done taken
  have asked := (StyledSelection.resolve_takes_done styled).canonical
    (request.canonical_requested canonical)
  refine routed.preserves Session.ModeCanonical (canonical.keepMode asked.1 _ _) ?_ ?_
  · intro current changed action inForce applied selection given
    exact inForce selection (Session.stickyMode_of_apply applied ▸ given)
  · intro query found _ _ _
    exact canonical.keepMode asked.1 _ _

/-- In every world the modes in force are canonical at all times. -/
theorem Reachable.modeCanonical (reached : Reachable config world between start store state) :
    store.Holds Session.ModeCanonical :=
  (reached.holds (fun _ => True) (fun _ _ _ => ⟨trivial, fun _ _ => trivial⟩)
    (fun _ _ _ _ => trivial) Session.modeCanonical_start (modeCanonical_preserved config) trivial).2

/-! ## One call of a model -/

/-- How a request past the notes ends, given the answer to its one call: it is called off, it fails as the
call does, or it is answered and reports its mode, its references and nothing of the notes. -/
inductive EndsPast (selected : StyledSelection) (references : List ResolvedReference) :
    Option (TimedAnswer String) → TurnEnding → Prop where
  | calledOff : EndsPast selected references none (.failed .cancelled)
  | failed (failure : Failure) :
      EndsPast selected references (some (.inTime (.error failure))) (.failed failure)
  | late : EndsPast selected references (some .late) (.failed (.timeout "Generation"))
  | answered {result : TurnResult} (mode : result.mode = selected.selection)
      (resolved : result.references = references) (uncited : result.citations = [])
      (inactive : result.action = none) (unsearched : result.strategy = none) :
      EndsPast selected references (some (.inTime (.ok result.reply))) (.answered result)

theorem endsPast_of_call (config : Config) (request : TurnRequest) (selected : StyledSelection)
    (session : Session) (references : List ResolvedReference) (answer : Option (TimedAnswer String)) :
    EndsPast selected references answer
      (endingOf (TurnSetting.endingOfCall
        (Turn.pastResult config request selected session references) answer)) := by
  rcases answer with _ | (failure | text) | _
  · exact .calledOff
  · exact .failed failure
  · exact @EndsPast.answered _ _ (Turn.pastResult config request selected session references text).1
      rfl rfl rfl rfl rfl
  · exact .late

/-- A request whose turn comes to one call of a model ends as that call does. -/
theorem execute_of_one_call {setting : TurnSetting} {messages : List Message}
    {made : String → TurnResult × Session}
    (starts : startingSession? request cancelled store = some session)
    (runs : (Turn.run config request session).run world.recorded (state, []) =
      ((setting.generate messages).andThen fun text => .done (made text)).run world.recorded
        (prepared, preparing)) :
    let asked := setting.replyQuestion messages
    let answer := (world.answer asked prepared).1
    ∃ after, execute config world.recorded cancelled request store (state, []) =
      (endingOf (TurnSetting.endingOfCall made answer), after, (world.answer asked prepared).2,
        preparing ++ answer.toList.map fun given => ⟨asked, given⟩) := by
  intro asked answer
  obtain ⟨guard, locked, enters⟩ := entered_of_starts starts
  rw [execute_of_entered enters, runs, TurnSetting.run_generate]
  exact ⟨_, rfl⟩

/-- A request past the notes with a window of earlier messages ends as its one call does. -/
theorem execute_past (starts : startingSession? request cancelled store = some session)
    (prepares : (Turn.prepare config request session).run world.recorded (state, []) =
      (.done (selected, references), prepared, preparing))
    (bypass : selected.selection.mode.isBypass = true)
    (answerable : references.any (·.found) = true ∨ request.question.isEmpty = false)
    (window : Turn.windowOf config request selected = some history) :
    let asked := TurnSetting.replyQuestion ⟨config.turn, selected, history⟩
      (Turn.pastMessages request selected references history)
    let answer := (world.answer asked prepared).1
    ∃ ending after, EndsPast selected references answer ending ∧
      execute config world.recorded cancelled request store (state, []) =
        (ending, after, (world.answer asked prepared).2,
          preparing ++ answer.toList.map fun given => ⟨asked, given⟩) := by
  intro asked answer
  obtain ⟨after, executes⟩ :=
    execute_of_one_call starts (Turn.run_past prepares bypass answerable window)
  exact ⟨_, after, endsPast_of_call config request selected session references answer, executes⟩

/-- A request past the notes that lacks the window crashes after it has looked up its style and its
references. -/
theorem execute_past_crashes (starts : startingSession? request cancelled store = some session)
    (prepares : (Turn.prepare config request session).run world.recorded (state, []) =
      (.done (selected, references), prepared, preparing))
    (answerable : references.any (·.found) = true ∨ request.question.isEmpty = false)
    (window : Turn.windowOf config request selected = none) :
    ∃ after, execute config world.recorded cancelled request store (state, []) =
      (.crashed, after, prepared, preparing) := by
  obtain ⟨guard, locked, enters⟩ := entered_of_starts starts
  rw [execute_of_entered enters, Turn.run_past_of_no_window prepares answerable window]
  exact ⟨_, rfl⟩

/-- **A request in a bypass mode asks a model once, past the notes.**  Once its style and its references are
looked up, and there is something to answer, it crashes for lack of a window or it makes exactly one call.
The call has the instruction of its style, if the mode is styled, the window, the notes that were found, if
any were, and the question; and the request ends as the call does.  The window has nothing of what earlier
answers from notes were primed with, and nor has the whole call, unless the style, the question or the notes
bring a priming text along. -/
theorem past_asks_once (reached : Reachable config world between start store state)
    (starts : startingSession? request cancelled store = some session)
    (prepares : (Turn.prepare config request session).run world.recorded (state, []) =
      (.done (selected, references), prepared, preparing))
    (bypass : selected.selection.mode.isBypass = true)
    (answerable : references.any (·.found) = true ∨ request.question.isEmpty = false) :
    (∀ step ∈ preparing, step.question.Prepares request.userId) ∧
      selected.HasItsStyle preparing ∧
      ((Turn.LacksWindow config request selected references ∧
          ∃ after, execute config world.recorded cancelled request store (state, []) =
            (.crashed, after, prepared, preparing)) ∨
        ∃ history, Turn.windowOf config request selected = some history ∧ LacksPriming history ∧
          let messages := Turn.pastMessages request selected references history
          let asked := TurnSetting.replyQuestion ⟨config.turn, selected, history⟩ messages
          let answer := (world.answer asked prepared).1
          (∃ ending after, EndsPast selected references answer ending ∧
            execute config world.recorded cancelled request store (state, []) =
              (ending, after, (world.answer asked prepared).2,
                preparing ++ answer.toList.map fun given => ⟨asked, given⟩)) ∧
          ((∀ style, selected.style = some style → FreeOfPriming style.systemPrompt) →
            FreeOfPriming request.question →
            (∀ document ∈ Turn.documentsOf references,
              FreeOfPriming document.title ∧ FreeOfPriming document.plainContent) →
            ∀ message ∈ messages, isPriming message.content = false)) := by
  obtain ⟨course, taken, recorded⟩ :=
    run_recorded world (Turn.prepare config request session) state []
  rw [prepares, List.nil_append] at recorded
  obtain ⟨isDone, isLast⟩ := Prod.mk.inj recorded
  obtain ⟨-, rfl⟩ := Prod.mk.inj isLast
  rw [← isDone] at taken
  have canonical := holds_startingSession reached.modeCanonical Session.modeCanonical_start starts
  refine ⟨taken.asked (Turn.prepare_asksOnly config request session),
    Turn.hasItsStyle_of_prepare canonical taken, ?_⟩
  cases window : Turn.windowOf config request selected with
  | none =>
      exact .inl ⟨⟨answerable, Turn.windowOf_eq_none_iff.mp window⟩,
        execute_past_crashes starts prepares answerable window⟩
  | some history =>
      exact .inr ⟨history, rfl, lacksPriming_of_window bypass window,
        execute_past starts prepares bypass answerable window,
        Turn.pastMessages_unprimed bypass window⟩

/-- A rehearsed model that has run out of lines and is not called off says its stock phrase. -/
theorem answer_of_no_lines {rehearsal : Rehearsal} (silent : rehearsal.lines = [])
    (unlimited : rehearsal.cancelAfter = none) (purpose : GenerationPurpose) (messages : List Message)
    (options : GenerationOptions) (limit : Nat) :
    (Rehearsal.world.answer (.generate purpose messages options limit) rehearsal).1 =
      some (.inTime (.ok Rehearsal.stockPhrase)) := by
  simp [Rehearsal.world, Rehearsal.answer, Rehearsal.generate, Rehearsal.nextLine, Rehearsal.within,
    Rehearsal.isOver, silent, unlimited]

/-- A question past the notes that refers to a note, after a message with a mark of a block of notes. -/
def askedPastOneNote : TurnRequest :=
  { userId := "u", sessionId := "s", text := "/bypass [[a]] c",
    history := [.system contextHeader, .user "d"] }

/-- The note is looked up and shared, and of the earlier messages only that of the user is shown. -/
theorem past_asks_once_of_one_note :
    ∃ selected references prepared preparing history ending after last,
      (Turn.prepare {} askedPastOneNote (Session.start "s" "u")).run Rehearsal.world.recorded
          (Rehearsal.withOneNote, []) = (.done (selected, references), prepared, preparing) ∧
        selected = ⟨⟨.bypass, none⟩, none⟩ ∧ references.map (·.found) = [true] ∧
        history.map (·.content) = ["d"] ∧ LacksPriming history ∧
        EndsPast selected references (some (.inTime (.ok "scripted reply"))) ending ∧
        let messages := Turn.pastMessages askedPastOneNote selected references history
        (∀ message ∈ messages, isPriming message.content = false) ∧
        execute {} Rehearsal.world.recorded false askedPastOneNote {} (Rehearsal.withOneNote, []) =
          (ending, after, last, preparing ++
            TurnSetting.replyCourse ⟨{}, selected, history⟩ messages "scripted reply") := by
  have checked : (match (Turn.prepare {} askedPastOneNote (Session.start "s" "u")).run
      Rehearsal.world.recorded (Rehearsal.withOneNote, []) with
      | (.done (selected, references), prepared, _) =>
          selected.selection == ⟨.bypass, none⟩ && selected.style.isNone &&
            references.map (·.found) == [true] && prepared.lines.isEmpty && prepared.cancelAfter.isNone &&
            (Turn.documentsOf references).all (fun document =>
              !isPriming document.title && !isPriming document.plainContent)
      | _ => false) = true := by
    decide +kernel
  rcases prepares : (Turn.prepare {} askedPastOneNote (Session.start "s" "u")).run
      Rehearsal.world.recorded (Rehearsal.withOneNote, []) with
    ⟨⟨⟨selection, style⟩, references⟩ | _ | _ | _, prepared, preparing⟩ <;> rw [prepares] at checked
  case done =>
    simp only [Bool.and_eq_true, beq_iff_eq, Option.isNone_iff_eq_none, List.isEmpty_iff,
      List.all_eq_true, Bool.not_eq_true'] at checked
    obtain ⟨⟨⟨⟨⟨rfl, rfl⟩, found⟩, noLines⟩, unlimited⟩, unprimed⟩ := checked
    have anyFound : references.any (·.found) = true := by
      obtain ⟨reference, rfl, isFound⟩ := List.map_eq_singleton_iff.mp found
      simp [isFound]
    have reached : Reachable {} Rehearsal.world (fun _ _ => True) Rehearsal.withOneNote {}
      Rehearsal.withOneNote := .start
    have starts : startingSession? askedPastOneNote false {} = some (Session.start "s" "u") := rfl
    obtain ⟨-, -, ⟨⟨-, noTurns, -⟩, -⟩ |
        ⟨history, window, lacks, ⟨ending, after, ends, executes⟩, free⟩⟩ :=
      past_asks_once reached starts prepares rfl (.inl anyFound)
    · cases noTurns
    · have onlyQuestion : Turn.windowOf {} askedPastOneNote ⟨⟨.bypass, none⟩, none⟩ =
          some [.user "d"] := by
        decide +kernel
      have isHistory : history = [.user "d"] :=
        Option.some.inj (window.symm.trans onlyQuestion)
      have stock : (Rehearsal.world.answer (TurnSetting.replyQuestion ⟨{}, ⟨⟨.bypass, none⟩, none⟩, history⟩
          (Turn.pastMessages askedPastOneNote ⟨⟨.bypass, none⟩, none⟩ references history)) prepared).1 =
            some (.inTime (.ok "scripted reply")) :=
        answer_of_no_lines noLines unlimited _ _ _ _
      have question : FreeOfPriming askedPastOneNote.question :=
        isPriming_eq_false_iff.mp (by decide +kernel)
      have notes : ∀ document ∈ Turn.documentsOf references,
          FreeOfPriming document.title ∧ FreeOfPriming document.plainContent := fun document member =>
        (unprimed document member).imp isPriming_eq_false_iff.mp isPriming_eq_false_iff.mp
      rw [stock] at ends executes
      exact ⟨_, references, prepared, preparing, history, ending, after, _, rfl, rfl, found,
        by rw [isHistory]; rfl, lacks, ends, free nofun question notes, executes⟩
  all_goals cases checked

end Conversation

end NoteDialogue
