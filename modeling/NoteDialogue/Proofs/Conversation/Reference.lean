import NoteDialogue.Proofs.Conversation.Bypass
import NoteDialogue.Proofs.Turn.Reference

/-!
# Requests that refer to notes

A request with a reference that was found is answered from the notes of its references.  It asks a model
once, with these notes right before the question, and cites them unless its mode is a bypass mode
(`Conversation.referred_notes_ground_answers`).

There are such notes whenever the references were looked up.  Of references that the caller attached, one
that is marked as found may have no note, and when no other has one, the model is shown an empty list of
notes and nothing is cited.
-/

set_option autoImplicit false

namespace NoteDialogue

open Interaction

namespace Conversation

variable {σ : Type} {config : Config} {world : World σ} {state prepared : σ} {cancelled : Bool}
  {request : TurnRequest} {store : SessionStore} {session : Session} {selected : StyledSelection}
  {references : List ResolvedReference} {preparing : Course}

/-- How a request about the notes that it refers to ends, given the answer to its one call: it is called
off, it fails as the call does, or it is answered and reports its mode, its references and what it cites of
them. -/
inductive EndsReferred (selected : StyledSelection) (references : List ResolvedReference) :
    Option (TimedAnswer String) → TurnEnding → Prop where
  | calledOff : EndsReferred selected references none (.failed .cancelled)
  | failed (failure : Failure) :
      EndsReferred selected references (some (.inTime (.error failure))) (.failed failure)
  | late : EndsReferred selected references (some .late) (.failed (.timeout "Generation"))
  | answered {result : TurnResult} (mode : result.mode = selected.selection)
      (resolved : result.references = references)
      (cites : result.citations = Turn.referredCitations selected references) :
      EndsReferred selected references (some (.inTime (.ok result.reply))) (.answered result)

theorem endsReferred_of_call (config : Config) (request : TurnRequest) (selected : StyledSelection)
    (session : Session) (references : List ResolvedReference) (answer : Option (TimedAnswer String)) :
    EndsReferred selected references answer
      (endingOf (TurnSetting.endingOfCall
        (Turn.referredResult config request selected session references) answer)) := by
  rcases answer with _ | (failure | text) | _
  · exact .calledOff
  · exact .failed failure
  · exact @EndsReferred.answered _ _
      (Turn.referredResult config request selected session references text).1 rfl rfl rfl
  · exact .late

/-- **The notes that a request refers to ground its answer.**  Once the style and the references are looked
up, and some reference counts as found, the request crashes for lack of a window, or it makes exactly one
call, which shows the notes of the references right before the question.  It cites these notes, unless its
mode is a bypass mode.

There is a note among them exactly if the references were looked up, or one that the caller attached is
marked as found and has a note. -/
theorem referred_notes_ground_answers
    (starts : startingSession? request cancelled store = some session)
    (prepares : (Turn.prepare config request session).run world.recorded (state, []) =
      (.done (selected, references), prepared, preparing))
    (found : references.any (·.found) = true) :
    (Turn.documentsOf references ≠ [] ↔
        request.attached = [] ∨ ∃ reference ∈ request.attached, reference.HasNote) ∧
      (Turn.referredCitations selected references ≠ [] ↔
        selected.selection.mode.isBypass = false ∧ Turn.documentsOf references ≠ []) ∧
      ((Turn.LacksWindow config request selected references ∧
          ∃ after, execute config world.recorded cancelled request store (state, []) =
            (.crashed, after, prepared, preparing)) ∨
        ∃ history, Turn.windowOf config request selected = some history ∧
          let messages := Turn.referredMessages request selected references history
          let asked := TurnSetting.replyQuestion ⟨config.turn, selected, history⟩ messages
          let answer := (world.answer asked prepared).1
          (∃ opening, messages = opening ++
            [Turn.groundingMessage selected (Turn.documentsOf references),
              Message.user (Turn.attachedQuestion request.question)]) ∧
          ∃ ending after, EndsReferred selected references answer ending ∧
            execute config world.recorded cancelled request store (state, []) =
              (ending, after, (world.answer asked prepared).2,
                preparing ++ answer.toList.map fun given => ⟨asked, given⟩)) := by
  obtain ⟨course, taken, recorded⟩ :=
    run_recorded world (Turn.prepare config request session) state []
  rw [prepares] at recorded
  obtain ⟨isDone, -⟩ := Prod.mk.inj recorded
  rw [← isDone] at taken
  obtain ⟨styling, rest, given, rfl, -, further⟩ := takes_andThen_done.mp taken
  obtain ⟨referring, last, referred, rfl, refers, ending⟩ := takes_andThen_done.mp further
  obtain ⟨-, same⟩ := takes_done.mp ending
  cases same
  refine ⟨Turn.documentsOf_ne_nil_of_found refers found, ?_, ?_⟩
  · unfold Turn.referredCitations
    cases selected.selection.mode.isBypass <;> simp
  · cases window : Turn.windowOf config request selected with
    | none =>
        exact .inl ⟨⟨.inl found, Turn.windowOf_eq_none_iff.mp window⟩,
          execute_past_crashes starts prepares (.inl found) window⟩
    | some history =>
        obtain ⟨after, executes⟩ :=
          execute_of_one_call starts (Turn.run_referred prepares found window)
        exact .inr ⟨history, rfl, ⟨_, rfl⟩, _, after,
          endsReferred_of_call config request selected session references _, executes⟩

/-- A question about a note that the caller attached. -/
def askedAboutAttached : TurnRequest :=
  { userId := "u", sessionId := "s", text := "c", attached := [.present "n" "a" "b" "a"] }

/-- The note that was attached is shown and cited. -/
theorem referred_notes_ground_answers_of_attached :
    ∃ selected references prepared preparing history result after last,
      (Turn.prepare {} askedAboutAttached (Session.start "s" "u")).run Rehearsal.world.recorded
          (Rehearsal.withOneNote, []) = (.done (selected, references), prepared, preparing) ∧
        references.any (·.found) = true ∧ Turn.documentsOf references ≠ [] ∧
        execute {} Rehearsal.world.recorded false askedAboutAttached {} (Rehearsal.withOneNote, []) =
          (.answered result, after, last, preparing ++
            TurnSetting.replyCourse ⟨{}, selected, history⟩
              (Turn.referredMessages askedAboutAttached selected references history)
              "scripted reply") ∧
        result.citations ≠ [] := by
  have checked : (match (Turn.prepare {} askedAboutAttached (Session.start "s" "u")).run
      Rehearsal.world.recorded (Rehearsal.withOneNote, []) with
      | (.done (selected, references), prepared, _) =>
          !selected.selection.mode.isBypass && references.any (·.found) && prepared.lines.isEmpty &&
            prepared.cancelAfter.isNone
      | _ => false) = true := by
    decide +kernel
  rcases prepares : (Turn.prepare {} askedAboutAttached (Session.start "s" "u")).run
      Rehearsal.world.recorded (Rehearsal.withOneNote, []) with
    ⟨⟨selected, references⟩ | _ | _ | _, prepared, preparing⟩ <;> rw [prepares] at checked
  case done =>
    simp only [Bool.and_eq_true, Bool.not_eq_true', List.isEmpty_iff, Option.isNone_iff_eq_none]
      at checked
    obtain ⟨⟨⟨asksNotes, found⟩, noLines⟩, unlimited⟩ := checked
    have starts : startingSession? askedAboutAttached false {} = some (Session.start "s" "u") := rfl
    obtain ⟨grounded, cites, ⟨⟨-, noTurns, -⟩, -⟩ |
        ⟨history, -, -, ending, after, ends, executes⟩⟩ :=
      referred_notes_ground_answers starts prepares found
    · cases noTurns
    · have stock : (Rehearsal.world.answer (TurnSetting.replyQuestion ⟨{}, selected, history⟩
          (Turn.referredMessages askedAboutAttached selected references history)) prepared).1 =
            some (.inTime (.ok "scripted reply")) :=
        answer_of_no_lines noLines unlimited _ _ _ _
      have some : Turn.documentsOf references ≠ [] :=
        grounded.mpr (.inr ⟨_, List.mem_cons_self, rfl, nofun⟩)
      rw [stock] at ends executes
      generalize "scripted reply" = text at ends executes ⊢
      cases ends with
      | @answered result _ _ citations =>
          exact ⟨selected, references, prepared, preparing, history, result, after, _, rfl, found, some,
            executes, citations ▸ cites.mpr ⟨asksNotes, some⟩⟩
  all_goals cases checked

end Conversation

end NoteDialogue
