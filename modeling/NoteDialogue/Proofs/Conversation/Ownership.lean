import NoteDialogue.Proofs.Conversation.Calls
import NoteDialogue.Proofs.Notes.Isolation
import NoteDialogue.Proofs.Turn.Recall

/-!
# Notes of others

Two stores of notes may differ in whatever belongs to others.  As long as the notes of one owner, with
their chunks, are the same and in the same order, every lookup among his notes has the same answer
(`answer?_congr`).  His turns look nowhere else, so all that he sees, all that a model or an embedder is
asked on the way, and all that is kept is the same (`unaware_of_others`).
-/

set_option autoImplicit false

namespace NoteDialogue

open Interaction

/-- Whether something is looked up among the notes. -/
def Lookup.isOfNotes : Lookup → Bool
  | .noteById _ _ | .notesByTitle _ _ | .notesByText _ _ _ | .notesByTerms _ _ _ _
  | .similarChunks _ _ _ _ => true
  | .style _ | .setting _ | .recollect _ | .remember _ _ => false

/-- What a store says to a question, if it is one about notes. -/
def NoteStore.answer? (notes : NoteStore) : (question : Ask) → Option question.Answer
  | .lookUp lookup =>
      if lookup.isOfNotes then some (({ Archive.empty 0 with notes } : Archive).answer lookup).1
      else none
  | .generate _ _ _ _ | .embedQuery _ _ | .embedPassages _ => none

/-- The world that looks notes up in a store and otherwise is as it was. -/
def World.withNotes {σ : Type} (world : World σ) (notes : NoteStore) : World σ where
  answer question state :=
    let (answer, after) := world.answer question state
    (answer.map fun given => (notes.answer? question).getD given, after)

section Lookups

variable {σ : Type} {left right : NoteStore} {owner : String}

/-- **Every lookup among the notes of an owner depends on these alone.** -/
theorem answer?_congr (same : left.owned owner = right.owned owner) {question : Ask}
    (concerns : question.Concerns owner) : left.answer? question = right.answer? question := by
  match question with
  | .generate _ _ _ _ | .embedQuery _ _ | .embedPassages _ => rfl
  | .lookUp lookup =>
      have sameNotes := ownedNotes_congr same
      cases lookup with
      | style | setting | recollect | remember => rfl
      | noteById =>
          cases concerns
          simp only [NoteStore.answer?, Archive.answer, NoteStore.find?, sameNotes]
      | notesByTitle =>
          cases concerns
          simp only [NoteStore.answer?, Archive.answer, NoteStore.withTitle, sameNotes]
      | notesByText =>
          cases concerns
          simp only [NoteStore.answer?, Archive.answer, NoteStore.searchFuzzy,
            searchLiteral_congr same]
      | notesByTerms =>
          cases concerns
          simp only [NoteStore.answer?, Archive.answer, searchLiteral_congr same]
      | similarChunks =>
          cases concerns
          simp only [NoteStore.answer?, Archive.answer, NoteStore.searchSimilar, same]

end Lookups

/-! ## Turns of the owner -/

namespace Interaction

variable {α σ : Type}

theorem recorded_congr {left right : World σ} {question : Ask} {state : σ} (record : Course)
    (agree : left.answer question state = right.answer question state) :
    left.recorded.answer question (state, record) = right.recorded.answer question (state, record) := by
  simp only [World.recorded, agree]

/-- Two worlds that agree about recalling embeddings and about all other questions of a kind. -/
structure AgreeOn (kind : Ask → Prop) (left right : World σ) : Prop where
  kind : ∀ question state, kind question → left.answer question state = right.answer question state
  recollect : ∀ query state, left.answer (.lookUp (.recollect query)) state =
    right.answer (.lookUp (.recollect query)) state
  embedQuery : ∀ query limit state, left.answer (.embedQuery query limit) state =
    right.answer (.embedQuery query limit) state
  remember : ∀ query embedding state, left.answer (.lookUp (.remember query embedding)) state =
    right.answer (.lookUp (.remember query embedding)) state

theorem AgreeOn.recorded {kind : Ask → Prop} {left right : World σ} (agree : AgreeOn kind left right) :
    AgreeOn kind left.recorded right.recorded where
  kind := fun question state isKind => recorded_congr state.2 (agree.kind question state.1 isKind)
  recollect := fun query state => recorded_congr state.2 (agree.recollect query state.1)
  embedQuery := fun query limit state => recorded_congr state.2 (agree.embedQuery query limit state.1)
  remember := fun query embedding state =>
    recorded_congr state.2 (agree.remember query embedding state.1)

/-- What asks only what they agree about runs alike in two worlds. -/
theorem Recalls.run_congr {kind : Ask → Prop} {limit : Nat} {mayCrash : Prop} {left right : World σ}
    {interaction : Interaction α} (recalls : interaction.Recalls kind limit mayCrash)
    (agree : AgreeOn kind left right) (state : σ) :
    interaction.run left state = interaction.run right state := by
  induction recalls generalizing state with
  | done | failed | crashed => rfl
  | @ask question next isKind _ ih =>
      simp only [run, agree.kind question state isKind]
      rcases right.answer question state with ⟨_ | answer, after⟩
      · rfl
      · exact ih answer after
  | @recalling query next _ _ ih =>
      simp only [Interaction.recalling, run, agree.recollect]
      rcases right.answer (.lookUp (.recollect query)) state with ⟨_ | remembered, after⟩
      · rfl
      cases remembered with
      | some embedding => exact ih _ after
      | none =>
          simp only [run, agree.embedQuery]
          rcases right.answer (.embedQuery query limit) after with ⟨_ | made, later⟩
          · rfl
          rcases made with (failure | embedding) | _
          · exact ih _ later
          · simp only [run, agree.remember]
            rcases right.answer (.lookUp (.remember query embedding)) later with ⟨_ | given, last⟩
            · rfl
            · exact ih _ last
          · exact ih _ later

end Interaction

theorem World.withNotes_agree {σ : Type} {left right : NoteStore} {owner : String} (world : World σ)
    (same : left.owned owner = right.owned owner) :
    AgreeOn (Ask.Concerns owner) (world.withNotes left) (world.withNotes right) where
  kind := fun question state concerns => by
    simp only [World.withNotes, answer?_congr same concerns]
  recollect := fun _ _ => rfl
  embedQuery := fun _ _ _ => rfl
  remember := fun _ _ _ => rfl

namespace Conversation

variable {τ σ : Type} {left right : NoteStore} {owner : String}

theorem execute_congr {config : Config} {left right : World σ} {request : TurnRequest}
    (alike : ∀ session state, (Turn.run config request session).run left state =
      (Turn.run config request session).run right state)
    (cancelled : Bool) (store : SessionStore) (state : σ) :
    execute config left cancelled request store state =
      execute config right cancelled request store state := by
  unfold execute
  rcases enter request cancelled store with ⟨ending | ⟨guard, session⟩, opened⟩
  · rfl
  · simp only [alike]

theorem serveOne_congr (same : left.owned owner = right.owned owner) (config : Config)
    (world : World (τ × σ)) {call : Call τ} (own : call.IsBy owner) (store : SessionStore) (shared : σ) :
    serveOne config (world.withNotes left) call store shared =
      serveOne config (world.withNotes right) call store shared := by
  cases call with
  | ended id => rfl
  | turn request cancelled brought =>
      have byOwner : request.userId = owner := own
      have agree := (world.withNotes_agree (byOwner ▸ same)).recorded
      have alike := execute_congr fun session state =>
        (Turn.run_recalls config request session).run_congr agree state
      simp only [serveOne, alike]

/-- **Notes of others have no influence on anything.**  Calls of one user, on any sessions and in any world
whatever, come to the same over two stores in which he has the same notes: the same endings, results and
sessions, the same questions with the same answers, and the same state of the world. -/
theorem unaware_of_others (same : left.owned owner = right.owned owner) (config : Config)
    (world : World (τ × σ)) {calls : List (Call τ)} (own : ∀ call ∈ calls, call.IsBy owner)
    (store : SessionStore) (shared : σ) :
    serve config (world.withNotes left) calls store shared =
      serve config (world.withNotes right) calls store shared := by
  induction calls generalizing store shared with
  | nil => rfl
  | cons call rest ih =>
      obtain ⟨ownCall, ownRest⟩ := List.forall_mem_cons.mp own
      simp only [serve, serveOne_congr same config world ownCall, ih ownRest]

/-- The world of a rehearsal that all calls share. -/
def sharedRehearsal : World (Unit × Rehearsal) where
  answer question state :=
    let (answer, after) := Rehearsal.world.answer question state.2
    (answer, (), after)

/-- A note of somebody else with the title and the identifier of the one note. -/
def namesake : Note :=
  { Rehearsal.oneNote with ownerId := "v", plainContent := "c" }

/-- A question and a reference of one user, in the words of which others have a note as well. -/
def askedTwice : List (Call Unit) :=
  [.turn { userId := "u", sessionId := "s", text := "a" } false (),
    .turn { userId := "u", sessionId := "s", text := "[[a]]" } false ()]

/-- A namesake that somebody else has, and has first, changes nothing about the notes that are found. -/
theorem unaware_of_namesake :
    let alone : NoteStore := { notes := [⟨Rehearsal.oneNote, []⟩] }
    let among : NoteStore := { notes := [⟨namesake, []⟩, ⟨Rehearsal.oneNote, []⟩] }
    let found (service : Service Unit Rehearsal) := service.reports.map fun report =>
      report.stored.map fun session => session.candidates.map (·.plainContent)
    alone.owned "u" = among.owned "u" ∧ (∀ call ∈ askedTwice, call.IsBy "u") ∧
      found (serve {} (sharedRehearsal.withNotes among) askedTwice {} Rehearsal.withOneNote) =
        [some ["b"], some ["b"]] ∧
      serve {} (sharedRehearsal.withNotes alone) askedTwice {} Rehearsal.withOneNote =
        serve {} (sharedRehearsal.withNotes among) askedTwice {} Rehearsal.withOneNote := by
  intro alone among found
  have own : ∀ call ∈ askedTwice, call.IsBy "u" :=
    List.forall_mem_cons.mpr ⟨rfl, List.forall_mem_singleton.mpr rfl⟩
  have same : alone.owned "u" = among.owned "u" := rfl
  exact ⟨same, own, by decide +kernel, unaware_of_others same {} sharedRehearsal own {} _⟩

end Conversation

end NoteDialogue
