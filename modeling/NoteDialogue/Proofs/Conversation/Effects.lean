import NoteDialogue.Proofs.Conversation.Answer
import NoteDialogue.Proofs.Conversation.Visit
import NoteDialogue.Proofs.Turn.Effects

/-!
# What requests cost and what they change

A request calls the embedder once at most, the model for a plan twice at most and for a reply once at most,
the reply last; it plans twice only for a search that was ambiguous, and has no reply written for nothing
(`few_calls_in_order`).  This holds of everything that is asked, a call that is never answered included,
and whatever the collaborators do.

An answered request that reports no action changes nothing about its session but the mode in force
(`unreported_turns_keep_sessions`).
-/

set_option autoImplicit false

namespace NoteDialogue

open Interaction Retrieval

/-! ## How much is asked of providers -/

/-- What is asked holds at most one call for an embedding, two for a plan and one for a reply, which is the
last of them. -/
structure FewCalls (asked : List Ask) : Prop where
  embeddings : (callsAmong asked).count .embedding ≤ 1
  plans : (callsAmong asked).count .planning ≤ 2
  replies : (callsAmong asked).count .answering ≤ 1
  replyLast : ∀ before question later, asked = before ++ question :: later →
    question.providerCall? = some .answering → callsAmong later = []

/-- After the reply nothing of the plan of a turn is left. -/
theorem nil_of_reply_sublist {later : List ProviderCall}
    (within : (ProviderCall.answering :: later).Sublist turnCalls) : later = [] := by
  cases within with
  | cons _ within =>
      cases within with
      | cons _ within =>
          cases within with
          | cons _ within =>
              cases within with
              | cons _ within => cases within
              | cons_cons _ within => exact List.sublist_nil.mp within

theorem fewCalls_of_sublist {asked : List Ask} (within : (callsAmong asked).Sublist turnCalls) :
    FewCalls asked where
  embeddings := within.count_le .embedding
  plans := within.count_le .planning
  replies := within.count_le .answering
  replyLast := by
    rintro before question later rfl replies
    have split : callsAmong (before ++ question :: later) =
        callsAmong before ++ .answering :: callsAmong later := by
      rw [callsAmong, List.filterMap_append, List.filterMap_cons_some replies]
      rfl
    rw [split] at within
    exact nil_of_reply_sublist ((List.sublist_append_right _ _).trans within)

namespace Conversation

variable {σ : Type} {config : Config} {world : World σ} {between : σ → σ → Prop} {start state last : σ}
  {cancelled : Bool} {request : TurnRequest} {store after : SessionStore} {course : Course}
  {asked : List Ask} {ending : TurnEnding} {result : TurnResult}

/-- What is asked in a request is nothing, or what is asked in a course of its turn that goes further than
the one that is taken by a single answer at most. -/
theorem asked_of_execute
    (ran : execute config world.recorded.overheard cancelled request store ((state, []), []) =
      (ending, after, (last, course), asked)) :
    (course = [] ∧ asked = [] ∧ ∀ result, ending ≠ .answered result) ∨
      ∃ session run ahead further, startingSession? request cancelled store = some session ∧
        (Turn.run config request session).Takes course run ∧
        (Turn.run config request session).Takes (course ++ ahead) further ∧ ahead.length ≤ 1 ∧
        (ahead ≠ [] → run = .brokenOff) ∧ asked = (course ++ ahead).map (·.question) ∧
        ending = endingOf run := by
  cases executed_of_execute ran with
  | turnedAway admitted _ same =>
      cases same
      refine .inl ⟨rfl, rfl, ?_⟩
      rintro result rfl
      cases admitted
  | @ran _ slot starts _ _ _ run runs ends =>
      obtain ⟨taken, ahead, further, takes, goesOn, short, unfinished, recorded⟩ :=
        run_overheard world (Turn.run config request slot.session) state [] []
      rw [recorded] at runs
      cases runs
      exact .inr ⟨slot.session, _, ahead, further, starts, takes, goesOn, short, unfinished, rfl, ends⟩

/-- **A request calls providers a few times, in order, and not in vain.**  What it asks of them is bounded,
whether or not it is answered (`FewCalls`).  A second plan is asked for only when the first one was to
search, and that search was ambiguous.  In an answered request nothing was left unanswered; when it asks
back, or searches in vain, no reply was written, and what was written for a reply is the reply. -/
theorem few_calls_in_order
    (ran : execute config world.recorded.overheard cancelled request store ((state, []), []) =
      (ending, after, (last, course), asked)) :
    FewCalls asked ∧
      (2 ≤ (callsAmong asked).count .planning →
        ∃ session, startingSession? request cancelled store = some session ∧
          SearchesUnclearly config.retrieval request.userId session.candidates.length course) ∧
      ∀ result, ending = .answered result →
        asked = course.map (·.question) ∧
        (result.action = some .clarify ∨ SearchesInVain config.retrieval request.userId course →
          .answering ∉ callsAmong asked) ∧
        WritesOnly result.reply course := by
  rcases asked_of_execute ran with
    ⟨rfl, rfl, unanswered⟩ | ⟨session, run, ahead, further, starts, taken, goesOn, short, unfinished,
      rfl, ends⟩
  · refine ⟨fewCalls_of_sublist (List.nil_sublist _), fun twice => ?_, fun result isAnswered => ?_⟩
    · exact absurd twice (by decide)
    · exact absurd isAnswered (unanswered result)
  · rw [callsAmong_questions]
    refine ⟨fewCalls_of_sublist ?_, fun twice => ?_, ?_⟩
    · rw [callsAmong_questions]
      exact Turn.run_calls config request session _ _ goesOn
    · exact ⟨session, starts, (Turn.plansTwice_of_takes goesOn twice).searchesUnclearly short⟩
    · rintro result rfl
      cases run with
      | failed | crashed | brokenOff => cases ends
      | done given =>
          obtain ⟨_, committed⟩ := given
          cases ends
          obtain rfl : ahead = [] := by
            by_contra some
            cases unfinished some
          rw [List.append_nil]
          exact ⟨rfl, Turn.no_reply_of_run taken, Turn.writesOnly_of_run taken⟩

/-- The rehearsal in which every search by words finds two notes of one title. -/
def findingTwo : World Rehearsal where
  answer question state :=
    match question with
    | .lookUp (.notesByTerms _ _ _ _) =>
        (some (.ok [Rehearsal.oneNote, { Rehearsal.oneNote with id := "m" }] :
          Except Failure (List Note)), state)
    | question => Rehearsal.world.answer question state

/-- The model plans to search, and then picks the second note that was found. -/
def searchingThenPicking : Rehearsal :=
  { Rehearsal.withOneNote with
    lines := [
      { outcome := .ok "\x7b\"action\": \"SEARCH\", \"search_query\": \"a\"\x7d" },
      { outcome := .ok "\x7b\"action\": \"SELECT\", \"target_index\": 1\x7d" }] }

/-- Two notes are enough to be ambiguous. -/
def strict : Config :=
  { retrieval := { multiDocThreshold := 2 } }

/-- A request that plans twice, for an ambiguous search, and then has its reply written. -/
theorem few_calls_in_order_of_two_plans :
    ∃ result after last course asked,
      execute strict findingTwo.recorded.overheard false
        { userId := "u", sessionId := "s", text := "a" }
        { slots := [{ key := "s", session := foundOne }] } ((searchingThenPicking, []), []) =
          (.answered result, after, (last, course), asked) ∧
      callsAmong asked = [.planning, .planning, .answering] ∧ FewCalls asked ∧
      SearchesUnclearly strict.retrieval "u" 1 course ∧ WritesOnly result.reply course := by
  have answers : (execute strict findingTwo.recorded.overheard false
      { userId := "u", sessionId := "s", text := "a" }
      { slots := [{ key := "s", session := foundOne }] }
      ((searchingThenPicking, []), [])).1.result?.isSome = true := by
    decide +kernel
  have calls : callsAmong (execute strict findingTwo.recorded.overheard false
      { userId := "u", sessionId := "s", text := "a" }
      { slots := [{ key := "s", session := foundOne }] }
      ((searchingThenPicking, []), [])).2.2.2 = [.planning, .planning, .answering] := by
    decide +kernel
  rcases ran : execute strict findingTwo.recorded.overheard false
      { userId := "u", sessionId := "s", text := "a" }
      { slots := [{ key := "s", session := foundOne }] } ((searchingThenPicking, []), []) with
    ⟨ending, after, ⟨last, course⟩, asked⟩
  rw [ran] at answers calls
  cases ending with
  | failed | crashed | waiting => cases answers
  | answered result =>
      obtain ⟨few, twice, answered⟩ := few_calls_in_order ran
      have starts : startingSession? { userId := "u", sessionId := "s", text := "a" } false
          { slots := [{ key := "s", session := foundOne }] } = some foundOne := rfl
      obtain ⟨session, begun, unclear⟩ := twice (by simp [calls])
      obtain rfl : foundOne = session := Option.some.inj (starts.symm.trans begun)
      exact ⟨result, after, last, course, asked, rfl, calls, few, unclear, (answered result rfl).2.2⟩

/-! ## What is changed -/

/-- Conversations leave their sessions at rest. -/
theorem Reachable.atRest (reached : Reachable config world between start store state) :
    store.AtRest := by
  induction reached with
  | start => exact SessionStore.atRest_empty
  | turn _ _ _ rest => exact (execute_visits rest rfl).2.1
  | ended id _ rest => exact rest.delete id
  | changed _ _ rest => exact rest

/-- **An answered request that reports no action changes nothing about its session but the mode in force.**
It does so exactly if it leaves the notes of the conversation alone, and it then calls a model once, for a
reply, or not at all when there is nothing to reply to. -/
theorem unreported_turns_keep_sessions (reached : Reachable config world between start store state)
    (ran : execute config world.recorded cancelled request store (state, []) =
      (.answered result, after, last, course)) :
    let previous := (store.session? request.sessionId).getD
      (Session.start request.sessionId request.userId)
    ∃ committed, after.session? request.sessionId = some committed ∧
      (result.action = none ↔ Turn.LeavesNotesAlone request result) ∧
      (result.action = none →
        committed = { previous with
          stickyMode := modeInForce config.turn result.mode (request.requested previous).byTurn
            previous.stickyMode } ∧
        providerCalls course =
          if result.references.any (·.found) || !request.question.isEmpty then [.answering] else []) := by
  intro previous
  obtain ⟨session, committed, starts, there, taken⟩ := takes_of_answered ran
  obtain rfl : previous = session := startingSession?_of_rest reached.atRest starts
  exact ⟨committed, there, Turn.action_eq_none_iff taken, Turn.kept_of_no_action taken⟩

/-- After a search, a question past the notes leaves what was found as it was. -/
theorem unreported_turns_keep_sessions_after_search :
    ∃ store state previous result after last course committed,
      Reachable {} Rehearsal.world (fun _ _ => True) Rehearsal.withOneNote store state ∧
      execute {} Rehearsal.world.recorded false
        { userId := "u", sessionId := "s", text := "/bypass b" } store (state, []) =
          (.answered result, after, last, course) ∧
      store.session? "s" = some previous ∧ previous.candidates ≠ [] ∧ result.action = none ∧
      after.session? "s" = some committed ∧
      committed = { previous with stickyMode := some ⟨.bypass, none⟩ } ∧
      providerCalls course = [.answering] := by
  have searched : Reachable {} Rehearsal.world (fun _ _ => True) Rehearsal.withOneNote _ _ :=
    .turn false { userId := "u", sessionId := "s", text := "a" } .start
  have keeps : ((execute {} Rehearsal.world false { userId := "u", sessionId := "s", text := "a" } {}
      Rehearsal.withOneNote).2.1.session? "s").any (!·.candidates.isEmpty) = true := by
    decide +kernel
  have replies : (execute {} Rehearsal.world.recorded false
      { userId := "u", sessionId := "s", text := "/bypass b" }
      (execute {} Rehearsal.world false { userId := "u", sessionId := "s", text := "a" } {}
        Rehearsal.withOneNote).2.1
      ((execute {} Rehearsal.world false { userId := "u", sessionId := "s", text := "a" } {}
        Rehearsal.withOneNote).2.2, [])).1.result?.any
      (fun result => result.action.isNone && result.mode == ⟨.bypass, none⟩) = true := by
    decide +kernel
  revert searched keeps replies
  generalize execute {} Rehearsal.world false { userId := "u", sessionId := "s", text := "a" } {}
    Rehearsal.withOneNote = first
  obtain ⟨-, store, state⟩ := first
  intro searched keeps replies
  obtain ⟨previous, found, some⟩ := (Option.any_eq_true _ _).mp keeps
  rcases ran : execute {} Rehearsal.world.recorded false
      { userId := "u", sessionId := "s", text := "/bypass b" } store (state, []) with
    ⟨ending, after, last, course⟩
  rw [ran] at replies
  cases ending with
  | failed | crashed | waiting => cases replies
  | answered result =>
      simp only [TurnEnding.result?, Option.any_some, Bool.and_eq_true, Option.isNone_iff_eq_none,
        beq_iff_eq] at replies
      obtain ⟨unreported, bypass⟩ := replies
      obtain ⟨committed, there, -, kept⟩ := unreported_turns_keep_sessions searched ran
      obtain ⟨same, calls⟩ := kept unreported
      have sticky : TurnConfig.isSticky {} .bypass = true := rfl
      simp only [found, Option.getD_some, bypass, modeInForce, sticky, if_true] at same
      have asks : TurnRequest.question { userId := "u", sessionId := "s", text := "/bypass b" } ≠ "" := by
        decide +kernel
      refine ⟨store, state, previous, result, after, last, course, committed, searched, ran, found,
        by simpa using some, unreported, there, same, ?_⟩
      rw [calls]
      simp [asks]

end Conversation

end NoteDialogue
