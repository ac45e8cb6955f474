import NoteDialogue.Proofs.Conversation.Reachable
import NoteDialogue.Proofs.Turn.Refusal

/-!
# Answered requests

An answered request leaves a record of what its turn asked, and the session that the turn gave can be read
back under its identifier (`takes_of_answered`).  What holds of turns that end well so holds of requests:
what comes of a search (`search_decides_outcome`), what is cited on the sessions that conversations
reach (`citations_match_sources`), and what is kept when an action is refused (`refusals_lack_focus`).
-/

set_option autoImplicit false

namespace NoteDialogue

open Interaction Retrieval

namespace Conversation

variable {σ : Type} {config : Config} {world : World σ} {between : σ → σ → Prop} {start state last : σ}
  {cancelled : Bool} {request : TurnRequest} {store after : SessionStore} {course : Course}
  {result : TurnResult}

theorem holds_startingSession {property : Session → Prop} {session : Session}
    (holds : store.Holds property) (new : ∀ id userId, property (Session.start id userId))
    (starts : startingSession? request cancelled store = some session) : property session := by
  obtain ⟨guard, locked, came⟩ := entered_of_starts starts
  have admitted := enter_admitted request cancelled store
  simp only [came] at admitted
  cases admitted with
  | entered _ _ there _ _ _ =>
      have opensWith : (opened request store).Holds property := holds.ensure (new _ _)
      exact opensWith _ (List.mem_of_getElem? there)

/-- The record of an answered request is the course of the turn that was run. -/
theorem takes_of_answered
    (ran : execute config world.recorded cancelled request store (state, []) =
      (.answered result, after, last, course)) :
    ∃ session committed, startingSession? request cancelled store = some session ∧
      after.session? request.sessionId = some committed ∧
      (Turn.run config request session).Takes course (.done (result, committed)) := by
  obtain ⟨session, committed, starts, runs, -, replaced⟩ := replaced_of_answered ran
  obtain ⟨taken, takes, recorded⟩ := run_recorded world (Turn.run config request session) state []
  rw [recorded] at runs
  obtain ⟨isDone, isLast⟩ := Prod.mk.inj runs
  obtain ⟨-, isCourse⟩ := Prod.mk.inj isLast
  rw [isDone] at takes
  rw [← isCourse]
  exact ⟨session, committed, starts, replaced.there, takes⟩

/-- A request whose result reports how notes were searched was answered. -/
theorem exists_answered {outcome : TurnEnding × SessionStore × σ × Course} {strategy : SearchStrategy}
    (reports : outcome.1.result?.bind (·.strategy) = some strategy) :
    ∃ result after last course, outcome = (.answered result, after, last, course) ∧
      result.strategy = some strategy := by
  obtain ⟨ending, after, last, course⟩ := outcome
  cases ending with
  | answered result => exact ⟨result, after, last, course, rfl, reports⟩
  | failed | crashed | waiting => cases reports

/-- A turn that asks for the one note of a rehearsal finds it by its words. -/
theorem search_of_one_note :
    (execute {} Rehearsal.world.recorded false { userId := "u", sessionId := "s", text := "a" } {}
      (Rehearsal.withOneNote, [])).1.result?.bind (·.strategy) = some .literal := by
  decide +kernel

/-- **What a search finds decides what comes of the turn.**  In an answered request some stretch of the
course may be a search that succeeded.  Then it is the search for the query that the session keeps, nothing
is generated up to its end, and the session, the citations and what else is asked are what the notes, the
verdict about them and, when they are ambiguous, the second plan call for. -/
theorem search_decides_outcome {query : String} {found : SearchResult}
    {before during rest : Course}
    (ran : execute config world.recorded cancelled request store (state, []) =
      (.answered result, after, last, course))
    (split : course = before ++ (during ++ rest))
    (searched : (search config.retrieval request.userId query {}).Takes during (.done found)) :
    ∃ committed kept alike, after.session? request.sessionId = some committed ∧
      committed.lastQuery = some kept ∧
      (search config.retrieval request.userId kept {}).Takes during (.done alike) ∧
      alike.documents = found.documents ∧ (kept = query → alike = found) ∧
      answeringCalls (before ++ during) = [] ∧ SearchOutcome alike rest result committed := by
  obtain ⟨session, committed, -, there, taken⟩ := takes_of_answered ran
  obtain ⟨kept, alike, isKept, theSearch, sameDocuments, sameResult, quiet, outcome⟩ :=
    Turn.run_searchOutcome taken split searched
  exact ⟨committed, kept, alike, there, isKept, theSearch, sameDocuments, sameResult, quiet, outcome⟩

/-- A turn about a store with one note searches for it. -/
theorem search_decides_outcome_of_one_note :
    ∃ result after last course before during rest query found,
      execute {} Rehearsal.world.recorded false { userId := "u", sessionId := "s", text := "a" } {}
        (Rehearsal.withOneNote, []) = (.answered result, after, last, course) ∧
      course = before ++ (during ++ rest) ∧
      (search {} "u" query {}).Takes during (.done found) ∧
      ∃ committed kept alike, after.session? "s" = some committed ∧
        committed.lastQuery = some kept ∧ (search {} "u" kept {}).Takes during (.done alike) ∧
        alike.documents = found.documents ∧ (kept = query → alike = found) ∧
        answeringCalls (before ++ during) = [] ∧ SearchOutcome alike rest result committed := by
  obtain ⟨result, after, last, course, ran, reported⟩ := exists_answered search_of_one_note
  obtain ⟨session, committed, -, -, taken⟩ := takes_of_answered ran
  have searches : result.strategy ≠ none := by
    rw [reported]
    exact nofun
  obtain ⟨before, during, rest, query, found, split, searched, -⟩ :=
    Turn.exists_search_of_strategy taken searches
  exact ⟨result, after, last, course, before, during, rest, query, found, ran, split, searched,
    search_decides_outcome ran split searched⟩

/-- **Every answer on a session that conversations reach cites its sources.** -/
theorem citations_match_sources (reached : Reachable config world between start store state)
    (ran : execute config world.recorded cancelled request store (state, []) =
      (.answered result, after, last, course)) :
    ∃ committed, after.session? request.sessionId = some committed ∧
      Turn.CitesItsSources request result committed course := by
  obtain ⟨session, committed, starts, there, taken⟩ := takes_of_answered ran
  have consistent := holds_startingSession reached.consistent Session.consistent_start starts
  exact ⟨committed, there, Turn.run_citesItsSources consistent taken⟩

/-- So does the first answer about a store with one note. -/
theorem citations_match_sources_of_one_note :
    ∃ result after last course,
      execute {} Rehearsal.world.recorded false { userId := "u", sessionId := "s", text := "a" } {}
        (Rehearsal.withOneNote, []) = (.answered result, after, last, course) ∧
      ∃ committed, after.session? "s" = some committed ∧
        Turn.CitesItsSources { userId := "u", sessionId := "s", text := "a" } result committed course := by
  obtain ⟨result, after, last, course, ran, -⟩ := exists_answered search_of_one_note
  have begun : Reachable {} Rehearsal.world (fun _ _ => True) Rehearsal.withOneNote {}
      Rehearsal.withOneNote := .start
  exact ⟨result, after, last, course, ran, citations_match_sources begun ran⟩

/-- **Only for want of a focus is an action ever refused in a turn.**  Whatever is done about the other
refusals, the turn is the same.  A refused action leaves the session as it is, and an answered request that
asks back without having searched keeps the session, but for the mode in force. -/
theorem refusals_lack_focus {session : Session}
    (starts : startingSession? request cancelled store = some session) :
    (∀ refusal : Refusal, refusal.AsksBackUnfocused →
      Turn.runWith refusal config request session = Turn.run config request session) ∧
    (∀ setting current action question error, current.apply action = .error error →
      Dialogue.act setting current action question = .done (.clarify current, current)) ∧
    ∀ result after last course,
      execute config world.recorded cancelled request store (state, []) =
        (.answered result, after, last, course) →
      result.action = some .clarify → (∀ step ∈ course, opensSearch step.question = false) →
      ∃ mode, after.session? request.sessionId = some { session with stickyMode := mode } := by
  refine ⟨fun refusal asksBack => Turn.runWith_eq_run asksBack config request session,
    fun _ _ _ _ _ refused => Dialogue.act_of_refused refused, ?_⟩
  intro result after last course ran clarifies unsearched
  obtain ⟨entered, committed, starting, there, taken⟩ := takes_of_answered ran
  obtain rfl : entered = session := Option.some.inj (starting.symm.trans starts)
  obtain ⟨mode, rfl⟩ := Turn.kept_of_clarify taken clarifies unsearched
  exact ⟨mode, there⟩

/-- A session in which one note was found and none is in focus. -/
def foundOne : Session :=
  (Session.start "s" "u").recordSearch "a" [{ id := "n", title := "a", plainContent := "b" }]

/-- The model takes the next message for a follow-up about the note in focus. -/
def takenForFollowUp : Rehearsal :=
  { Rehearsal.withOneNote with
    lines := [{ outcome := .ok "\x7b\"action\": \"ANSWER_CURRENT\"\x7d" }] }

/-- A message that is taken for a follow-up when nothing is in focus is answered by asking back. -/
theorem refusals_lack_focus_of_followUp :
    foundOne.apply .answerCurrent = .error (.missingFocus .answerCurrent) ∧
      (execute {} Rehearsal.world.recorded false { userId := "u", sessionId := "s", text := "a" }
        { slots := [{ key := "s", session := foundOne }] }
        (takenForFollowUp, [])).1.result?.bind (·.action) = some .clarify ∧
      ∃ mode, (execute {} Rehearsal.world.recorded false
        { userId := "u", sessionId := "s", text := "a" }
        { slots := [{ key := "s", session := foundOne }] }
        (takenForFollowUp, [])).2.1.session? "s" = some { foundOne with stickyMode := mode } := by
  have reports : (execute {} Rehearsal.world.recorded false
      { userId := "u", sessionId := "s", text := "a" } { slots := [{ key := "s", session := foundOne }] }
      (takenForFollowUp, [])).1.result?.bind (·.action) = some .clarify := by
    decide +kernel
  have unsearched : ∀ step ∈ (execute {} Rehearsal.world.recorded false
      { userId := "u", sessionId := "s", text := "a" } { slots := [{ key := "s", session := foundOne }] }
      (takenForFollowUp, [])).2.2.2, opensSearch step.question = false := by
    decide +kernel
  refine ⟨rfl, reports, ?_⟩
  have starts : startingSession? { userId := "u", sessionId := "s", text := "a" } false
      { slots := [{ key := "s", session := foundOne }] } = some foundOne := rfl
  rcases ran : execute {} Rehearsal.world.recorded false
      { userId := "u", sessionId := "s", text := "a" } { slots := [{ key := "s", session := foundOne }] }
      (takenForFollowUp, []) with ⟨ending, after, last, course⟩
  rw [ran] at reports unsearched
  cases ending with
  | answered result =>
      exact (refusals_lack_focus starts).2.2 result after last course ran reports unsearched
  | failed | crashed | waiting => cases reports

end Conversation

end NoteDialogue
