import NoteDialogue.Proofs.Notes.Distinct
import NoteDialogue.Proofs.Retrieval
import NoteDialogue.Rehearsal

/-!
# Worlds with a store of notes

A world may look notes up in a store in memory, to which notes are only added (`World.KeepsNotes`).  Then
every note keeps its own identifier, and whatever is said of the notes is said of distinct notes.  A
rehearsal is such a world, however its script goes (`Rehearsal.world_keepsNotes`).
-/

set_option autoImplicit false

namespace NoteDialogue

/-- The notes that a world finds by their identifier and by their words are those of a store, to which
notes are only added.  All else it may say as it likes, also that a lookup fails. -/
structure World.KeepsNotes {σ : Type} (world : World σ) (notes : σ → NoteStore) : Prop where
  grows : ∀ question state, (notes state).Grows (notes (world.answer question state).2)
  byId : ∀ ownerId noteId state note,
    (world.answer (.lookUp (.noteById ownerId noteId)) state).1 =
      some (.ok (some note) : Except Failure (Option Note)) →
    (notes state).find? ownerId noteId = some note
  byTerms : ∀ ownerId terms filter limit state found,
    (world.answer (.lookUp (.notesByTerms ownerId terms filter limit)) state).1 =
      some (.ok found : Except Failure (List Note)) →
    found = (notes state).searchLiteral ownerId terms filter limit

namespace World

variable {σ : Type} {world : World σ} {notes : σ → NoteStore}

/-- Such a world keeps the identifiers distinct, and says nothing else of the notes. -/
theorem KeepsNotes.distinct (keeps : world.KeepsNotes notes) (question : Ask) (state : σ)
    (distinct : (notes state).Distinct) :
    (notes (world.answer question state).2).Distinct ∧
      ∀ answer, (world.answer question state).1 = some answer →
        Retrieval.OfDistinctNotes ⟨question, answer⟩ := by
  refine ⟨distinct.of_grows (keeps.grows question state), fun answer given => ?_⟩
  match question with
  | .generate _ _ _ _ | .embedQuery _ _ | .embedPassages _ => trivial
  | .lookUp lookup =>
      cases lookup with
      | noteById ownerId noteId =>
          rintro note rfl
          exact NoteStore.id_of_find? (keeps.byId ownerId noteId state note given)
      | notesByTerms ownerId terms filter limit =>
          rintro found rfl
          rw [keeps.byTerms ownerId terms filter limit state found given]
          exact distinct.searchLiteral ownerId terms filter limit
      | style | setting | recollect | remember | notesByTitle | notesByText | similarChunks => trivial

end World

/-- Looking something up changes no notes. -/
theorem Archive.notes_answer (archive : Archive) (lookup : Lookup) :
    (archive.answer lookup).2.notes = archive.notes := by
  cases lookup <;> rfl

/-! ## Rehearsals -/

namespace Rehearsal

/-- A note of a user called u, under the title a. -/
def oneNote : Note :=
  { id := "n", ownerId := "u", title := "a", plainContent := "b", updatedAt := default }

/-- A rehearsal with one note, in which everything goes well. -/
def withOneNote : Rehearsal :=
  { archive := { Archive.empty 1 with notes := ({} : NoteStore).insert oneNote } }

theorem archive_within {α : Type} (rehearsal : Rehearsal) (limit delay : Nat)
    (outcome : Except Failure α) :
    (rehearsal.within limit delay outcome).2.archive = rehearsal.archive := by
  unfold within
  split <;> rfl

theorem archive_generate (rehearsal : Rehearsal) (call : GenerationCall) (limit : Nat) :
    (rehearsal.generate call limit).2.archive = rehearsal.archive := by
  unfold generate nextLine
  rw [archive_within]
  cases rehearsal.lines <;> rfl

theorem archive_embed (rehearsal : Rehearsal) (call : EmbeddingCall) :
    (rehearsal.embed call).2.archive = rehearsal.archive := by
  unfold embed nextCue
  cases rehearsal.cues <;> rfl

theorem archive_embedPassages (rehearsal : Rehearsal) (passages : List String) :
    (rehearsal.embedPassages passages).2.archive = rehearsal.archive := by
  induction passages generalizing rehearsal with
  | nil => rfl
  | cons passage rest ih =>
      have embedded := archive_embed rehearsal ⟨.document, passage⟩
      unfold embedPassages
      generalize rehearsal.embed ⟨.document, passage⟩ = outcome at embedded ⊢
      obtain ⟨⟨delay, failure | embedding⟩, after⟩ := outcome
      · exact embedded
      · exact (ih _).trans embedded

/-- Only looking something up concerns the archive of a rehearsal, and changes no notes in it. -/
theorem notes_answer (rehearsal : Rehearsal) (question : Ask) :
    (rehearsal.answer question).2.archive.notes = rehearsal.archive.notes := by
  cases question with
  | generate => exact congrArg Archive.notes (archive_generate _ _ _)
  | embedQuery =>
      exact congrArg Archive.notes ((archive_within _ _ _ _).trans (archive_embed _ _))
  | embedPassages => exact congrArg Archive.notes (archive_embedPassages _ _)
  | lookUp lookup => exact rehearsal.archive.notes_answer lookup

theorem world_answer_snd (rehearsal : Rehearsal) (question : Ask) :
    (Rehearsal.world.answer question rehearsal).2 = (rehearsal.answer question).2 := by
  unfold Rehearsal.world
  simp only
  split <;> rfl

/-- What a rehearsal answers is what it says, unless time is up. -/
theorem answer_of_world {rehearsal : Rehearsal} {question : Ask} {answer : question.Answer}
    (given : (Rehearsal.world.answer question rehearsal).1 = some answer) :
    answer = (rehearsal.answer question).1 := by
  unfold Rehearsal.world at given
  simp only at given
  split at given
  · cases given
  · exact (Option.some.inj given).symm

/-- A failure that was told takes the place of an answer, and nothing else does. -/
theorem of_orFailure {α : Type} {told : Option Failure} {answer : Except Failure α} {value : α}
    (given : orFailure told answer = .ok value) : answer = .ok value := by
  cases told with
  | none => exact given
  | some failure => cases given

/-- A rehearsal looks notes up in its archive. -/
theorem world_keepsNotes : Rehearsal.world.KeepsNotes (fun rehearsal => rehearsal.archive.notes) where
  grows question rehearsal := by
    rw [world_answer_snd, notes_answer]
    exact NoteStore.grows_refl _
  byId ownerId noteId rehearsal note given := by
    have said := of_orFailure (answer_of_world given).symm
    split at said
    · cases said
    · exact Except.ok.inj said
  byTerms ownerId terms filter limit rehearsal found given := by
    have said := of_orFailure (answer_of_world given).symm
    exact (Except.ok.inj said).symm

end Rehearsal

end NoteDialogue
