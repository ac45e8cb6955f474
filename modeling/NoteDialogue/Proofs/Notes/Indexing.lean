import Mathlib.Data.List.Zip
import NoteDialogue.Notes.Indexing
import NoteDialogue.Proofs.Course
import NoteDialogue.Proofs.Notes.Distinct

/-!
# What indexing leaves in the store

Indexing asks for the embeddings of the passages of one note after the other, and stores a note as soon as it has
one for each of its passages.  So it comes to the end of the notes, or to a first note that fails, for want of
embeddings or of their right number; up to there all notes are stored in order, and what follows is neither stored
nor asked for (`Indexed`, `indexed_up_to_failure`).

A stored note holds its passages, each with the embedding at the same place of the reply.  So where replies keep
the order of the texts, every passage is stored with an embedding that was made of it.
-/

set_option autoImplicit false

namespace NoteDialogue

variable {σ : Type} {world : World σ} {notes : List Note} {course : Course} {entries : List StoredNote}
  {entry : StoredNote} {result : Except Failure Nat}

/-! ## Notes with their embeddings -/

/-- The chunks of the note are its passages, in order; so there is one embedding for each. -/
def StoredNote.HoldsPassages (entry : StoredNote) : Prop :=
  entry.chunks.map (·.content) = entry.note.passages

/-- The question for the embeddings of a note, with a reply. -/
def Note.asked (note : Note) (reply : Except Failure (List Vector32)) : Answered :=
  ⟨.embedPassages note.passages, reply⟩

/-- The question for the embeddings of a note, with those that it is stored with for a reply. -/
def StoredNote.asked (entry : StoredNote) : Answered :=
  entry.note.asked (.ok (entry.chunks.map (·.embedding)))

/-- A reply fails a note when it is a failure, or when there is not one embedding for each passage. -/
inductive Note.FailsFor (note : Note) : Except Failure (List Vector32) → Failure → Prop where
  | refused (failure : Failure) : note.FailsFor (.error failure) failure
  | miscounted (embeddings : List Vector32) (differ : embeddings.length ≠ note.passages.length) :
      note.FailsFor (.ok embeddings) (wrongEmbeddingCount note note.passages.length embeddings.length)

/-- **A reply fails a note, or the note can be stored with it**, embedding by embedding. -/
theorem Note.reply_cases (note : Note) (reply : Except Failure (List Vector32)) :
    (∃ failure, note.FailsFor reply failure ∧ reply.bind note.chunksWith = .error failure) ∨
      ∃ chunks, (StoredNote.mk note chunks).HoldsPassages ∧ reply = .ok (chunks.map (·.embedding)) ∧
        reply.bind note.chunksWith = .ok chunks := by
  cases reply with
  | error failure => exact .inl ⟨failure, .refused failure, rfl⟩
  | ok embeddings =>
      by_cases same : embeddings.length = note.passages.length
      · refine .inr ⟨List.zipWith NoteChunk.mk note.passages embeddings, ?_, ?_, if_pos same⟩
        · rw [StoredNote.HoldsPassages, ← List.map_uncurry_zip_eq_zipWith, List.map_map]
          exact List.map_fst_zip (Nat.le_of_eq same.symm)
        · rw [← List.map_uncurry_zip_eq_zipWith, List.map_map]
          exact congrArg Except.ok (List.map_snd_zip (Nat.le_of_eq same)).symm
      · exact .inl ⟨_, .miscounted embeddings same, if_neg same⟩

theorem StoredNote.zip_passages (holds : entry.HoldsPassages) :
    entry.note.passages.zip (entry.chunks.map (·.embedding)) =
      entry.chunks.map fun chunk => (chunk.content, chunk.embedding) := by
  rw [← holds, List.zip_map']

/-! ## Storing notes in order -/

namespace NoteStore

/-- The store after some notes were stored, one after the other. -/
def storeAll (store : NoteStore) (entries : List StoredNote) : NoteStore :=
  entries.foldl (fun store entry => store.upsert entry.note entry.chunks) store

theorem mem_storeAll {store : NoteStore} (member : entry ∈ (store.storeAll entries).notes) :
    entry ∈ store.notes ∨ entry ∈ entries := by
  induction entries generalizing store with
  | nil => exact .inl member
  | cons first rest ih =>
      have stored : entry ∈ ((store.upsert first.note first.chunks).storeAll rest).notes := member
      rcases ih stored with before | later
      · rcases mem_upsertNote before with rfl | earlier
        · exact .inr List.mem_cons_self
        · exact .inl earlier
      · exact .inr (List.mem_cons_of_mem _ later)

end NoteStore

/-! ## Up to the first failure -/

/-- What indexing some notes asks for, with which chunks it stores them and what it comes to.  All notes are stored,
or those before one that fails; then nothing is asked about the notes after it. -/
inductive Indexed : List Note → Course → List StoredNote → Except Failure Nat → Prop where
  | all (entries : List StoredNote) (hold : ∀ entry ∈ entries, entry.HoldsPassages) :
      Indexed (entries.map (·.note)) (entries.map (·.asked)) entries (.ok entries.length)
  | upTo (entries : List StoredNote) (hold : ∀ entry ∈ entries, entry.HoldsPassages) (failing : Note)
      (later : List Note) {reply : Except Failure (List Vector32)} {failure : Failure}
      (fails : failing.FailsFor reply failure) :
      Indexed (entries.map (·.note) ++ failing :: later) (entries.map (·.asked) ++ [failing.asked reply]) entries
        (.error failure)

namespace Indexed

theorem nil : Indexed [] [] [] (.ok 0) :=
  .all [] (by simp)

/-- A note is stored before the others. -/
theorem cons (holds : entry.HoldsPassages) (indexed : Indexed notes course entries result) :
    Indexed (entry.note :: notes) (entry.asked :: course) (entry :: entries) (result.map (· + 1)) := by
  cases indexed with
  | all _ hold => exact .all (entry :: entries) (List.forall_mem_cons.mpr ⟨holds, hold⟩)
  | upTo _ hold failing later fails =>
      exact .upTo (entry :: entries) (List.forall_mem_cons.mpr ⟨holds, hold⟩) failing later fails

theorem hold (indexed : Indexed notes course entries result) : ∀ entry ∈ entries, entry.HoldsPassages := by
  cases indexed with
  | all _ hold | upTo _ hold => exact hold

/-- The embeddings of every stored note were asked for. -/
theorem asked_mem (indexed : Indexed notes course entries result) (member : entry ∈ entries) :
    entry.asked ∈ course := by
  cases indexed with
  | all => exact List.mem_map_of_mem member
  | upTo => exact List.mem_append_left _ (List.mem_map_of_mem member)

/-- Where replies keep the order of the texts, the embedding of every chunk was made of it. -/
theorem made_of_chunks (indexed : Indexed notes course entries result) {made : String → Vector32 → Prop}
    (inOrder : ∀ passages embeddings, (⟨.embedPassages passages, .ok embeddings⟩ : Answered) ∈ course →
      ∀ pair ∈ passages.zip embeddings, made pair.1 pair.2) :
    ∀ entry ∈ entries, ∀ chunk ∈ entry.chunks, made chunk.content chunk.embedding := by
  intro entry member chunk inside
  refine inOrder _ _ (indexed.asked_mem member) (chunk.content, chunk.embedding) ?_
  rw [StoredNote.zip_passages (indexed.hold entry member)]
  exact List.mem_map_of_mem inside

end Indexed

namespace NoteStore

/-- What is done once the chunks of a note are made, or it failed, before the rest of the notes. -/
def indexRest (store : NoteStore) (count : Nat) (note : Note) (rest : List Note) :
    Except Failure (List NoteChunk) → Interaction IndexReport
  | .error failure => .done ⟨.error failure, store⟩
  | .ok chunks => (store.upsert note chunks).indexFrom (count + 1) rest

/-- The next note is asked about, and its reply decides what is done then. -/
theorem trace_indexFrom_cons {note : Note} {reply : Except Failure (List Vector32)} {state next : σ}
    (given : world.answer (.embedPassages note.passages) state = (some reply, next)) (store : NoteStore) (count : Nat)
    (rest : List Note) :
    (store.indexFrom count (note :: rest)).trace world state =
      let (ending, last, course) := (store.indexRest count note rest (reply.bind note.chunksWith)).trace world next
      (ending, last, note.asked reply :: course) :=
  Interaction.trace_ask given _

/-- One note after the other is asked about and stored, up to the first that fails. -/
theorem trace_indexFrom (answers : ∀ passages state, (world.answer (.embedPassages passages) state).1.isSome = true)
    (count : Nat) (store : NoteStore) (notes : List Note) (state : σ) :
    ∃ after course entries result,
      (store.indexFrom count notes).trace world state =
        (.done ⟨result.map (count + ·), store.storeAll entries⟩, after, course) ∧
      Indexed notes course entries result := by
  induction notes generalizing count store state with
  | nil => exact ⟨state, [], [], .ok 0, rfl, .nil⟩
  | cons note rest ih =>
      obtain ⟨reply, replied⟩ := Option.isSome_iff_exists.mp (answers note.passages state)
      rw [trace_indexFrom_cons (Prod.ext replied rfl)]
      rcases note.reply_cases reply with ⟨failure, fails, failed⟩ | ⟨chunks, holds, rfl, stored⟩
      · rw [failed]
        exact ⟨_, _, [], .error failure, rfl, .upTo [] (by simp) note rest fails⟩
      · obtain ⟨after, course, entries, result, traced, indexed⟩ :=
          ih (count + 1) (store.upsert note chunks) (world.answer (.embedPassages note.passages) state).2
        rw [stored, indexRest, traced]
        refine ⟨after, _, ⟨note, chunks⟩ :: entries, result.map (· + 1), ?_, indexed.cons holds⟩
        cases result with
        | error failure => rfl
        | ok indexedCount =>
            simp only [Except.map, Nat.add_assoc, Nat.add_comm 1]
            rfl

/-- **Indexing stores the notes before the first that fails, and nothing else.**  Whatever the embedder replies, as
long as it replies, indexing comes to a report: with the number of notes, or with the failure of the first note that
fails.  The store is what storing the notes before it, one after the other, makes of it; so all that is new in it
holds its passages, each with one embedding, and where replies keep the order of the texts with the one that was made
of it. -/
theorem indexed_up_to_failure
    (answers : ∀ passages state, (world.answer (.embedPassages passages) state).1.isSome = true)
    (store : NoteStore) (notes : List Note) (state : σ) :
    ∃ after course entries result,
      (store.index notes).trace world state = (.done ⟨result, store.storeAll entries⟩, after, course) ∧
      Indexed notes course entries result ∧
      (∀ entry ∈ (store.storeAll entries).notes, entry ∈ store.notes ∨ entry ∈ entries ∧ entry.HoldsPassages) ∧
      ∀ made : String → Vector32 → Prop,
        (∀ passages embeddings, (⟨.embedPassages passages, .ok embeddings⟩ : Answered) ∈ course →
          ∀ pair ∈ passages.zip embeddings, made pair.1 pair.2) →
        ∀ entry ∈ entries, ∀ chunk ∈ entry.chunks, made chunk.content chunk.embedding := by
  obtain ⟨after, course, entries, result, traced, indexed⟩ := trace_indexFrom answers 0 store notes state
  refine ⟨after, course, entries, result, ?_, indexed, ?_, fun made inOrder => indexed.made_of_chunks inOrder⟩
  · rw [index, traced]
    cases result with
    | error failure => rfl
    | ok count => simp only [Except.map, Nat.zero_add]
  · intro entry member
    exact (mem_storeAll member).imp_right fun new => ⟨new, indexed.hold entry new⟩

/-- An embedder that counts the letters of a text, and passes over empty texts. -/
def letterCounts : World Unit where
  answer
    | .embedPassages passages, _ =>
        (some (.ok ((passages.filter (· ≠ "")).map fun passage => [Float32.ofNat passage.length])), ())
    | .generate _ _ _ _, _ | .embedQuery _ _, _ | .lookUp _, _ => (none, ())

/-- A note without a sentence. -/
def headed (title : String) : Note :=
  { id := title, ownerId := "", title, plainContent := "", updatedAt := default }

/-- A note without a title fails, and the note after it is neither asked for nor stored. -/
theorem indexed_up_to_failure_of_untitled :
    (∀ passages state, (letterCounts.answer (.embedPassages passages) state).1.isSome = true) ∧
      ∃ course entries,
        (index {} [headed "Rent", headed "", headed "Sea"]).trace letterCounts () =
          (.done ⟨.error (wrongEmbeddingCount (headed "") 1 0), storeAll {} entries⟩, (), course) ∧
        course.length = 2 ∧ (storeAll {} entries).notes.map (·.note.title) = ["Rent"] ∧
        ∀ entry ∈ entries, ∀ chunk ∈ entry.chunks, chunk.embedding = [Float32.ofNat chunk.content.length] := by
  have answers (passages : List String) (state : Unit) :
      (letterCounts.answer (.embedPassages passages) state).1.isSome = true := rfl
  obtain ⟨after, course, entries, result, traced, -, -, made⟩ :=
    indexed_up_to_failure answers {} [headed "Rent", headed "", headed "Sea"] ()
  have concrete : (index {} [headed "Rent", headed "", headed "Sea"]).trace letterCounts () =
      (.done ⟨.error (wrongEmbeddingCount (headed "") 1 0), ⟨[⟨headed "Rent", [⟨"Rent", [Float32.ofNat 4]⟩]⟩]⟩⟩, (),
        [(headed "Rent").asked (.ok [[Float32.ofNat 4]]), (headed "").asked (.ok [])]) := rfl
  obtain ⟨ending, asked⟩ := Prod.mk.inj (concrete.symm.trans traced)
  obtain ⟨rfl, stored⟩ := IndexReport.mk.inj (Ending.done.inj ending)
  obtain ⟨rfl, rfl⟩ := Prod.mk.inj asked
  refine ⟨answers, _, entries, traced, rfl, by rw [← stored]; rfl,
    made (fun text embedding => embedding = [Float32.ofNat text.length]) ?_⟩
  intro passages embeddings member pair inside
  rcases List.mem_pair.mp member with rent | untitled
  · cases rent
    obtain rfl : pair = ("Rent", [Float32.ofNat 4]) := List.mem_singleton.mp inside
    rfl
  · cases untitled
    exact absurd inside List.not_mem_nil

end NoteStore

end NoteDialogue
