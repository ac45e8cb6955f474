import NoteDialogue.Proofs.Conversation
import NoteDialogue.Proofs.Notes.World
import NoteDialogue.Proofs.Turn.Containment

/-!
# Failures that a request survives

A request in good order, to a session that is open to its user, runs its turn (`enter_of_open`).  Unless the
turn is called off, the request is then answered, whatever fails on the way, as long as the reply is written
and the query is embedded (`answered_despite_failures`).
-/

set_option autoImplicit false

namespace NoteDialogue

open Interaction

/-- A user may use the session under an identifier: it is his own and nobody has its lock, or there is
none yet. -/
def SessionStore.IsOpenTo (store : SessionStore) (id userId : String) : Prop :=
  match store.get id with
  | .absent => True
  | .blocked => False
  | .present session => session.userId = userId

namespace Conversation

variable {σ : Type} {config : Config} {world : World σ} {request : TurnRequest}
  {store after : SessionStore} {state last : σ} {course : Course} {ending : TurnEnding}

/-- The slot to which an identifier leads is free and of the user. -/
theorem slot_of_open {id userId : String} (isOpen : store.IsOpenTo id userId) {place : Nat}
    {slot : SessionSlot} (leads : store.place? id = some place)
    (there : store.slots[place]? = some slot) :
    slot.held = false ∧ slot.session.userId = userId := by
  have found : store.slots.find? (·.isAt id) = some slot := by
    rw [SessionStore.place?_eq] at leads
    rw [List.find?_eq_bind_findIdx?_getElem?, leads]
    exact there
  unfold SessionStore.IsOpenTo SessionStore.get at isOpen
  simp only [SessionSlot.isAt] at found
  simp only [found] at isOpen
  cases held : slot.held with
  | true => simp [held] at isOpen
  | false => exact ⟨rfl, by simpa [held] using isOpen⟩

/-- A request in good order enters a session that is open to its user. -/
theorem enter_of_open (valid : request.problems = [])
    (isOpen : store.IsOpenTo request.sessionId request.userId) :
    ∃ guard session locked, enter request false store = (.entered guard session, locked) := by
  obtain ⟨place, slot, leads, there, -, origin⟩ :=
    SessionStore.place?_ensure store request.sessionId request.userId
  have usable : slot.held = false ∧ slot.session.userId = request.userId := by
    rcases origin with same | ⟨-, rfl⟩
    · rw [same] at leads there
      exact slot_of_open isOpen leads there
    · exact ⟨rfl, rfl⟩
  obtain ⟨free, own⟩ := usable
  unfold enter objection? SessionStore.acquire
  simp [valid, leads, there, free, own]

/-- **Failures are contained.**  A request in good order, to a session that is open to its user, that
refers to no more notes than it may and has a window of earlier messages, is answered in every world that
leaves nothing unanswered, as long as after the preparation of its turn the reply is written, the query is
embedded and no provider fails to look notes up. -/
theorem answered_despite_failures (valid : request.problems = [])
    (isOpen : store.IsOpenTo request.sessionId request.userId)
    (few : request.referenceCount ≤ config.turn.maxReferences)
    (window : 1 ≤ config.turn.historyTurns)
    (answers : ∀ question state, (world.answer question state).1.isSome = true)
    (executes : execute config world.recorded false request store (state, []) =
      (ending, after, last, course))
    (contained : FailuresContained course) : ∃ result, ending = .answered result := by
  obtain ⟨guard, session, locked, enters⟩ := enter_of_open valid isOpen
  rw [execute_of_entered enters, run_recorded_eq_trace, List.nil_append] at executes
  have taken := takes_trace world (Turn.run config request session) state
  have finished := trace_ne_brokenOff answers (Turn.run config request session) state
  rcases traced : (Turn.run config request session).trace world state with ⟨run, final, steps⟩
  rw [traced] at executes taken finished
  cases executes
  obtain ⟨⟨result, committed⟩, rfl⟩ := Turn.run_succeeds few window taken finished contained
  exact ⟨result, rfl⟩

/-- The world of a rehearsal that is given all the time it takes. -/
def unhurried : World Rehearsal where
  answer question rehearsal :=
    let (answer, after) := rehearsal.answer question
    (some answer, after)

/-- A rehearsal in which every lookup of a style or of notes fails, and a provider is to blame where it
may be. -/
def allLookupsFail : Rehearsal :=
  { Rehearsal.withOneNote with
    failures :=
      { byId := some (.http "down"), byTitle := some (.http "down"), byText := some (.http "down"),
        byTerms := some (.noteStore "locked"), bySimilarity := some (.noteStore "locked"),
        style := some (.http "down") } }

/-- A question in a style and with a reference is answered when neither the style nor the reference nor any
notes can be looked up. -/
theorem answered_when_lookups_fail :
    let request : TurnRequest := { userId := "u", sessionId := "s", text := "/style:x [[a]] b" }
    let outcome := execute {} unhurried.recorded false request {} (allLookupsFail, [])
    outcome.2.2.2.length = 3 ∧ FailuresContained outcome.2.2.2 ∧
      ∃ result, outcome.1 = .answered result := by
  intro request outcome
  have asked : outcome.2.2.2.length = 3 := by decide +kernel
  have contained : FailuresContained outcome.2.2.2 := by
    unfold FailuresContained
    decide +kernel
  have isOpen : SessionStore.IsOpenTo {} "s" "u" := trivial
  have few : request.referenceCount ≤ ({} : Config).turn.maxReferences := by decide +kernel
  have answers (question : Ask) (rehearsal : Rehearsal) :
      (unhurried.answer question rehearsal).1.isSome = true := rfl
  have window : 1 ≤ ({} : Config).turn.historyTurns := by decide
  exact ⟨asked, contained,
    answered_despite_failures (by decide) isOpen few window answers rfl contained⟩

end Conversation

end NoteDialogue
