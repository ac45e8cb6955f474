import NoteDialogue.Proofs.Conversation
import NoteDialogue.Proofs.Notes.World

/-!
# The sessions that conversations reach

Conversations begin with no sessions.  Turns are run on them one after the other, by whoever and whether
or not they are called off, sessions are forgotten, and in between the world may change
(`Conversation.Reachable`).

What a new session has, and every turn that ends well preserves, all sessions have at all times
(`Reachable.holds`).  So all sessions are consistent, whatever the world answers.  When notes are
looked up in a store in memory, to which notes are only added (`World.KeepsNotes`), their candidates
are also different notes and no more than a search may return (`sessions_in_order`).
-/

set_option autoImplicit false

namespace NoteDialogue

open Interaction

namespace Conversation

variable {σ : Type} {config : Config} {world : World σ} {between : σ → σ → Prop} {start state : σ}
  {store : SessionStore} {property : Session → Prop} {inOrder : σ → Prop}
  {allowed : Answered → Prop}

/-- The sessions that conversations reach, and the state of the world with them. -/
inductive Reachable (config : Config) (world : World σ) (between : σ → σ → Prop) (start : σ) :
    SessionStore → σ → Prop where
  | start : Reachable config world between start {} start
  | turn {store : SessionStore} {state : σ} (cancelled : Bool) (request : TurnRequest) :
      Reachable config world between start store state →
        Reachable config world between start
          (execute config world cancelled request store state).2.1
          (execute config world cancelled request store state).2.2
  | ended {store : SessionStore} {state : σ} (id : String) :
      Reachable config world between start store state →
        Reachable config world between start (store.delete id).2 state
  | changed {store : SessionStore} {state after : σ} :
      Reachable config world between start store state → between state after →
        Reachable config world between start store after

/-- What a turn that ends well preserves: the property, as long as the answers are allowed. -/
def PreservedByTurns (config : Config) (allowed : Answered → Prop) (property : Session → Prop) : Prop :=
  ∀ (request : TurnRequest) (session after : Session) (course : Course) (result : TurnResult),
    property session → (Turn.run config request session).Takes course (.done (result, after)) →
    (∀ step ∈ course, allowed step) → property after

/-- One request. -/
theorem holds_execute
    (keeps : ∀ question state, inOrder state →
      inOrder (world.answer question state).2 ∧
        ∀ answer, (world.answer question state).1 = some answer → allowed ⟨question, answer⟩)
    (new : ∀ id userId, property (Session.start id userId))
    (turns : PreservedByTurns config allowed property) {cancelled : Bool} {request : TurnRequest}
    (good : inOrder state) (holds : store.Holds property) {ending : TurnEnding}
    {after : SessionStore} {last : σ}
    (executes : execute config world cancelled request store state = (ending, after, last)) :
    inOrder last ∧ after.Holds property := by
  cases executed_of_execute executes with
  | turnedAway _ unchanged same =>
      rw [unchanged, same]
      exact ⟨good, holds⟩
  | @ran place slot _ _ there _ run runs _ kept =>
      have openedHolds : (opened request store).Holds property := holds.ensure (new _ _)
      obtain ⟨goodLast, course, taken, allAllowed⟩ :=
        exists_takes_run keeps (Turn.run config request slot.session) good
      rw [runs] at goodLast taken
      refine ⟨goodLast, ?_⟩
      rw [kept]
      cases run with
      | failed | crashed | brokenOff => exact openedHolds
      | done given =>
          have before := openedHolds slot (List.mem_of_getElem? there)
          exact openedHolds.write (turns request _ _ course _ before taken allAllowed)

/-- **What a new session has and turns preserve, all sessions have at all times.** -/
theorem Reachable.holds (inOrder : σ → Prop)
    (keeps : ∀ question state, inOrder state →
      inOrder (world.answer question state).2 ∧
        ∀ answer, (world.answer question state).1 = some answer → allowed ⟨question, answer⟩)
    (keepsBetween : ∀ state after, inOrder state → between state after → inOrder after)
    (new : ∀ id userId, property (Session.start id userId))
    (turns : PreservedByTurns config allowed property) (good : inOrder start)
    (reached : Reachable config world between start store state) :
    inOrder state ∧ store.Holds property := by
  induction reached with
  | start => exact ⟨good, SessionStore.holds_empty⟩
  | turn cancelled request _ ih => exact holds_execute keeps new turns ih.1 ih.2 rfl
  | ended id _ ih => exact ⟨ih.1, ih.2.delete id⟩
  | changed _ change ih => exact ⟨keepsBetween _ _ ih.1 change, ih.2⟩

/-! ## Consistent sessions -/

theorem consistent_preserved (config : Config) :
    PreservedByTurns config (fun _ => True) Session.Consistent := by
  intro request session after course result consistent taken _
  obtain ⟨_, _, _, _, _, _, -, -, -, routed, -⟩ := Turn.run_takes_done taken
  exact routed.preserves Session.Consistent (consistent.keepMode _ _ _)
    (fun current applied => current.apply applied)
    fun _ _ => Session.consistent_recordSearch _ _ _

/-- In every world all sessions are consistent at all times. -/
theorem Reachable.consistent (reached : Reachable config world between start store state) :
    store.Holds Session.Consistent :=
  (reached.holds (fun _ => True) (fun _ _ _ => ⟨trivial, fun _ _ => trivial⟩)
    (fun _ _ _ _ => trivial) Session.consistent_start (consistent_preserved config) trivial).2

theorem bounded_preserved (config : Config) :
    PreservedByTurns config Retrieval.OfDistinctNotes
      (fun session => session.Bounded config.retrieval.topK) := by
  intro request session after course result bounded taken distinct
  obtain ⟨styling, referring, answering, selected, _, _, rfl, -, -, routed, -⟩ :=
    Turn.run_takes_done taken
  refine routed.preserves (fun session => session.Bounded config.retrieval.topK)
    (bounded.of_candidates rfl)
    (fun current applied => current.of_candidates (Session.candidates_of_apply applied)) ?_
  intro query found searching inside searched
  have ofDistinct : ∀ step ∈ searching, Retrieval.OfDistinctNotes step := fun step member =>
    distinct step (List.mem_append_right _ (List.mem_append_right _ (inside step member)))
  obtain ⟨nodup, few⟩ := Retrieval.search_distinct searched ofDistinct
  exact ⟨nodup, few⟩

/-- **All sessions are in order at all times.**  Whatever the model and the embedder answer, whatever
fails and whatever is called off: the state, the focus and the candidates of every session agree, and
the candidates are different notes, no more than a search may return. -/
theorem sessions_in_order {notes : σ → NoteStore} (keeps : world.KeepsNotes notes)
    (filled : NoteStore.Grows {} (notes start))
    (reached : Reachable config world (fun state after => (notes state).Grows (notes after)) start
      store state) :
    store.Holds (fun session =>
      session.Consistent ∧ session.Bounded config.retrieval.topK) := by
  have bounded := (reached.holds (fun state => (notes state).Distinct) keeps.distinct
    (fun _ _ distinct grows => distinct.of_grows grows)
    (fun id userId => Session.bounded_start id userId config.retrieval.topK)
    (bounded_preserved config) (NoteStore.distinct_of_grows filled)).2
  exact fun slot member => ⟨reached.consistent slot member, bounded slot member⟩

/-- After a turn about a store with one note the session has that note for its only candidate. -/
theorem sessions_in_order_after_search :
    let outcome := execute {} Rehearsal.world false { userId := "u", sessionId := "s", text := "a" } {}
      Rehearsal.withOneNote
    outcome.2.1.slots.map (fun slot => slot.session.candidates.map (·.id)) = [["n"]] ∧
      outcome.2.1.Holds (fun session => session.Consistent ∧ session.Bounded 10) :=
  ⟨by decide +kernel,
    sessions_in_order Rehearsal.world_keepsNotes ⟨[⟨Rehearsal.oneNote, []⟩], rfl⟩
      (.turn false _ .start)⟩

end Conversation

end NoteDialogue
