import NoteDialogue.Proofs.Notes.Distinct
import NoteDialogue.Proofs.Retrieval.Ranking

/-!
# Notes found by their meaning

A search by meaning compares the embedding of the query with the chunks of a store, takes the best of them up
to three times the notes that it may return, keeps the best chunk of each note and looks these notes up, each
in the store as it is by then (`OfStores`).

What it returns is sound (`semantic_ranks_notes`).  The notes are distinct and the owner's, and each carries the
best score of its chunks, brought into range.  They are ranked by it, and no note that was left out is better
than one that was returned, unless it is gone.

It is complete only within the chunks that it takes (`semantic_misses_crowded_out`).  If it returns fewer notes
than it may, and none is gone, a note that passes the threshold is missing only when three times as many chunks
of other notes are as good as the best of its own.  Chunks of a single note can crowd another note out in this
way, although there is room for both (`semantic_crowds_out`).
-/

set_option autoImplicit false

namespace NoteDialogue

open Numeral (standing)

/-- The best score of a note: one of its chunks has it, and none has a greater one. -/
def StoredNote.BestScore (stored : StoredNote) (embedding : Vector32) (score : Float32) : Prop :=
  (∃ chunk ∈ stored.chunks, cosine embedding chunk.embedding = score) ∧
    ∀ chunk ∈ stored.chunks, ¬ score < cosine embedding chunk.embedding

theorem NoteStore.ownerId_of_find? {store : NoteStore} {ownerId noteId : String} {note : Note}
    (found : store.find? ownerId noteId = some note) : note.ownerId = ownerId := by
  obtain ⟨stored, isStored, rfl⟩ := List.mem_map.mp (List.mem_of_find?_eq_some found)
  exact beq_iff_eq.mp (List.mem_filter.mp isStored).2

namespace Retrieval

open Interaction

variable {config : RetrievalConfig} {ownerId query : String} {store : NoteStore}
  {later : String → NoteStore} {embedding : Vector32} {threshold : Float32} {limit : Nat}

/-! ## Searches in stores -/

/-- What is said of lookups that stores answer: chunks are compared in one store, and each note is looked up
in the store as it is by then. -/
def OfStores (store : NoteStore) (later : String → NoteStore) : Answered → Prop
  | ⟨.lookUp (.similarChunks ownerId embedding limit threshold), answer⟩ =>
      ∀ hits : List ChunkHit, answer = (.ok hits : Except Failure (List ChunkHit)) →
        hits = store.searchSimilar ownerId embedding limit threshold
  | ⟨.lookUp (.noteById ownerId noteId), answer⟩ =>
      ∀ note : Option Note, answer = (.ok note : Except Failure (Option Note)) →
        note = (later noteId).find? ownerId noteId
  | _ => True

/-- The document of a hit, with its score, if the note is still found. -/
def scoredDocument? (later : String → NoteStore) (ownerId : String) (hit : ChunkHit) :
    Option (Document × Float32) :=
  ((later hit.noteId).find? ownerId hit.noteId).map fun note =>
    (Document.ofNote (some (clampScore hit.score)) note, hit.score)

/-- The hits whose notes are looked up. -/
def lookedUp (store : NoteStore) (ownerId : String) (embedding : Vector32) (threshold : Float32)
    (limit : Nat) : List ChunkHit :=
  bestHits (store.searchSimilar ownerId embedding (limit * 3) threshold) limit

/-- The documents of the best hits, with their scores. -/
def scoredDocuments (store : NoteStore) (later : String → NoteStore) (ownerId : String)
    (embedding : Vector32) (threshold : Float32) (limit : Nat) : List (Document × Float32) :=
  (lookedUp store ownerId embedding threshold limit).filterMap (scoredDocument? later ownerId)

/-- A search by meaning compared chunks with the embedding of its query, under the threshold in force. -/
structure Compares (config : RetrievalConfig) (query : String) (course : Course) (embedding : Vector32)
    (threshold : Float32) : Prop where
  embedded : ∃ recalling rest, course = recalling ++ rest ∧
    (queryEmbedding config query).Takes recalling (.done embedding)
  inForce : ∃ live : Option String, ⟨.lookUp (.setting similarityThresholdName), live⟩ ∈ course ∧
    threshold = similarityThresholdOf live config.similarityThreshold

theorem lookUpHits_documents {hits : List ChunkHit} {course : Course} {found : List (Option Document)}
    (taken : (forEach (lookUpHit ownerId) hits).Takes course (.done found))
    (fromStores : ∀ step ∈ course, OfStores store later step) :
    found.filterMap id = (hits.filterMap (scoredDocument? later ownerId)).map (·.1) := by
  induction hits generalizing course found with
  | nil =>
      obtain ⟨-, isFound⟩ := takes_done.mp taken
      cases isFound
      rfl
  | cons hit rest ih =>
      obtain ⟨first, others, document, rfl, one, taken⟩ := takes_andThen_done.mp taken
      obtain ⟨middle, last, documents, rfl, more, taken⟩ := takes_andThen_done.mp taken
      obtain ⟨rfl, isFound⟩ := takes_done.mp taken
      cases isFound
      obtain ⟨note, rfl, rfl⟩ := lookUpHit_takes_done.mp one
      have further := ih more fun step member =>
        fromStores step (List.mem_append_right _ (List.mem_append_left _ member))
      have answered : note = (later hit.noteId).find? ownerId hit.noteId :=
        fromStores _ List.mem_cons_self note rfl
      have shown : scoredDocument? later ownerId hit = note.map fun note =>
          (Document.ofNote (some (clampScore hit.score)) note, hit.score) := by
        rw [answered]
        rfl
      cases note with
      | none => exact further.trans (congrArg (List.map _) (List.filterMap_cons_none shown).symm)
      | some note =>
          rw [List.filterMap_cons_some shown, List.map_cons, ← further]
          rfl

/-- **What a search by meaning returns** are the documents of the best hits of the store. -/
theorem semantic_documents {course : Course} {documents : List Document}
    (taken : (semantic config ownerId query).Takes course (.done documents))
    (fromStores : ∀ step ∈ course, OfStores store later step) :
    ∃ embedding threshold, Compares config query course embedding threshold ∧
      documents = (scoredDocuments store later ownerId embedding threshold config.topK).map (·.1) := by
  obtain ⟨recalling, embedding, live, hits, lookups, found, rfl, recalls, looked, rfl⟩ :=
    semantic_takes_done.mp taken
  refine ⟨embedding, _, ⟨⟨recalling, _, rfl, recalls⟩, live, by simp, rfl⟩, ?_⟩
  have compared := fromStores _ (List.mem_append_right recalling
    (List.mem_cons_of_mem _ List.mem_cons_self))
  rw [scoredDocuments, lookedUp, ← compared hits rfl]
  refine lookUpHits_documents looked fun step member => fromStores step ?_
  exact List.mem_append_right _ (List.mem_cons_of_mem _ (List.mem_cons_of_mem _ member))

/-! ## Searches that stores answer -/

/-- The lookup of the note of a hit. -/
def lookupAnswered (later : String → NoteStore) (ownerId : String) (hit : ChunkHit) : Answered :=
  ⟨.lookUp (.noteById ownerId hit.noteId),
    (.ok ((later hit.noteId).find? ownerId hit.noteId) : Except Failure (Option Note))⟩

/-- A search by meaning for a query with a remembered embedding, under the live threshold if there is one, with
the answers of stores. -/
def rememberedCourse (config : RetrievalConfig) (store : NoteStore) (later : String → NoteStore)
    (ownerId query : String) (embedding : Vector32) (live : Option String) : Course :=
  let threshold := similarityThresholdOf live config.similarityThreshold
  ⟨.lookUp (.recollect query), some embedding⟩ ::
    ⟨.lookUp (.setting similarityThresholdName), live⟩ ::
      ⟨.lookUp (.similarChunks ownerId embedding (config.topK * 3) threshold),
        (.ok (store.searchSimilar ownerId embedding (config.topK * 3) threshold) :
          Except Failure (List ChunkHit))⟩ ::
        (lookedUp store ownerId embedding threshold config.topK).map (lookupAnswered later ownerId)

theorem lookUpHits_takes (hits : List ChunkHit) :
    (forEach (lookUpHit ownerId) hits).Takes (hits.map (lookupAnswered later ownerId))
      (.done (hits.map fun hit => (scoredDocument? later ownerId hit).map (·.1))) := by
  induction hits with
  | nil => exact .done []
  | cons hit rest ih =>
      refine takes_andThen_done.mpr ⟨[lookupAnswered later ownerId hit], _, _, rfl,
        lookUpHit_takes_done.mpr ⟨_, rfl, ?_⟩,
        takes_andThen_done.mpr ⟨_, [], _, (List.append_nil _).symm, ih, .done _⟩⟩
      exact Option.map_map _ _ _

theorem semantic_takes_remembered (config : RetrievalConfig) (store : NoteStore)
    (later : String → NoteStore) (ownerId query : String) (embedding : Vector32) (live : Option String) :
    (semantic config ownerId query).Takes
      (rememberedCourse config store later ownerId query embedding live)
      (.done ((scoredDocuments store later ownerId embedding
        (similarityThresholdOf live config.similarityThreshold) config.topK).map (·.1))) := by
  refine semantic_takes_done.mpr ⟨[⟨.lookUp (.recollect query), some embedding⟩], embedding, live, _, _, _, rfl,
    .ask _ _ _ (.done embedding), lookUpHits_takes _, ?_⟩
  rw [List.filterMap_map, scoredDocuments, List.map_filterMap]
  rfl

theorem ofStores_remembered (config : RetrievalConfig) (store : NoteStore) (later : String → NoteStore)
    (ownerId query : String) (embedding : Vector32) (live : Option String) :
    ∀ step ∈ rememberedCourse config store later ownerId query embedding live, OfStores store later step := by
  intro step member
  simp only [rememberedCourse, List.mem_cons, List.mem_map] at member
  rcases member with rfl | rfl | rfl | ⟨hit, -, rfl⟩
  · trivial
  · trivial
  · intro hits same
    exact (Except.ok.inj same).symm
  · intro note same
    exact (Except.ok.inj same).symm

/-- If the passing chunks are in order already, they are only counted and compared by their notes. -/
theorem lookedUp_of_sorted
    (sorted : (store.passing ownerId embedding threshold).Pairwise fun left right => left.mayPrecede right) :
    lookedUp store ownerId embedding threshold limit =
      (firstOfEach ChunkHit.noteId ((store.passing ownerId embedding threshold).take (limit * 3))).take
        limit := by
  rw [lookedUp, bestHits, NoteStore.searchSimilar_eq, List.mergeSort_of_pairwise sorted,
    List.mergeSort_of_pairwise (sorted.sublist (List.take_sublist _ _))]

/-- A note with six chunks that point one way, and a note with one chunk that points half-way aside. -/
def crowded : NoteStore :=
  let pines := { id := "pines", ownerId := "alice", title := "Pines", plainContent := "Tall.", updatedAt := ⟨0, 0⟩ }
  let oaks := { id := "oaks", ownerId := "alice", title := "Oaks", plainContent := "Old.", updatedAt := ⟨0, 0⟩ }
  (NoteStore.upsert {} pines (List.replicate 6 ⟨"Tall.", [1, 0]⟩)).upsert oaks [⟨"Old.", [3, 4]⟩]

/-- A search in that store for a text that points the way of the six chunks. -/
def crowdedCourse (limit : Nat) : Course :=
  rememberedCourse { topK := limit } crowded (fun _ => crowded) "alice" "tall trees" [1, 0] none

/-- What it returns. -/
def crowdedDocuments (limit : Nat) : List Document :=
  (scoredDocuments crowded (fun _ => crowded) "alice" [1, 0] 0.35 limit).map (·.1)

theorem semantic_takes_crowded (limit : Nat) :
    (semantic { topK := limit } "alice" "tall trees").Takes (crowdedCourse limit)
      (.done (crowdedDocuments limit)) :=
  semantic_takes_remembered { topK := limit } _ _ _ _ _ none

theorem ofStores_crowded (limit : Nat) : ∀ step ∈ crowdedCourse limit, OfStores crowded (fun _ => crowded) step :=
  ofStores_remembered _ _ _ _ _ _ _

theorem shown_crowded (limit : Nat) :
    crowdedDocuments limit =
      (((firstOfEach ChunkHit.noteId ((crowded.passing "alice" [1, 0] 0.35).take (limit * 3))).take
        limit).filterMap (scoredDocument? (fun _ => crowded) "alice")).map (·.1) := by
  rw [crowdedDocuments, scoredDocuments, lookedUp_of_sorted (by decide +kernel)]

/-! ## Soundness -/

/-- A document shows a note of the owner, as it is found by its identifier, with the best score of its chunks
brought into range; the score passes the threshold. -/
structure Carries (store : NoteStore) (later : String → NoteStore) (ownerId : String) (embedding : Vector32)
    (threshold : Float32) (document : Document) (score : Float32) : Prop where
  shows : ∃ note : Note, note.id = document.id ∧ note.ownerId = ownerId ∧
    (later note.id).find? ownerId note.id = some note ∧
    document = Document.ofNote (some (clampScore score)) note
  best : ∃ stored ∈ store.owned ownerId, stored.note.id = document.id ∧ stored.BestScore embedding score
  passes : threshold ≤ score

/-- Documents with their scores are a sound ranking of the notes of an owner: no more than the limit, with
distinct identifiers, each with the best score of its note, the best first; and no note that was left out and is
still found has a chunk that is better than one of the scores. -/
structure SoundRanking (store : NoteStore) (later : String → NoteStore) (ownerId : String)
    (embedding : Vector32) (threshold : Float32) (limit : Nat) (scored : List (Document × Float32)) :
    Prop where
  distinct : (scored.map (·.1.id)).Nodup
  length_le : scored.length ≤ limit
  carries : ∀ entry ∈ scored, Carries store later ownerId embedding threshold entry.1 entry.2
  falling : scored.Pairwise fun better worse => worse.2 ≤ better.2
  shownFalling : scored.Pairwise fun better worse =>
    ∀ shown ∈ better.1.relevance, ∀ other ∈ worse.1.relevance, other ≤ shown
  noneBetter : ∀ stored ∈ store.owned ownerId, stored.note.id ∉ scored.map (·.1.id) →
    ((later stored.note.id).find? ownerId stored.note.id).isSome →
      ∀ chunk ∈ stored.chunks, ∀ entry ∈ scored, ¬ entry.2 < cosine embedding chunk.embedding

theorem lookedUp_sublist :
    (lookedUp store ownerId embedding threshold limit).Sublist
      (store.searchSimilar ownerId embedding (limit * 3) threshold) :=
  bestHits_sublist NoteStore.allScored_searchSimilar NoteStore.ranked_searchSimilar limit

theorem mem_passing_of_lookedUp {best : ChunkHit}
    (kept : best ∈ lookedUp store ownerId embedding threshold limit) :
    best ∈ store.passing ownerId embedding threshold :=
  NoteStore.mem_passing_of_searchSimilar (lookedUp_sublist.subset kept)

theorem falling_lookedUp :
    (lookedUp store ownerId embedding threshold limit).Pairwise fun better worse => worse.score ≤ better.score :=
  (NoteStore.ranked_searchSimilar.sublist lookedUp_sublist).imp_of_mem fun _ kept lower =>
    Numeral.le_iff_standing.mpr ⟨NoteStore.allScored_passing _ (mem_passing_of_lookedUp kept), lower⟩

/-- A passing chunk is kept for its note, or a better one of the same note is, or everything that is kept is at
least as good. -/
theorem kept_or_outranked {hit : ChunkHit} (passes : hit ∈ store.passing ownerId embedding threshold) :
    (∃ best ∈ lookedUp store ownerId embedding threshold limit,
        best.noteId = hit.noteId ∧ standing hit.score ≤ standing best.score) ∨
      ∀ best ∈ lookedUp store ownerId embedding threshold limit,
        standing hit.score ≤ standing best.score := by
  rcases NoteStore.kept_or_cut_searchSimilar (limit * 3) passes with kept | ⟨-, worse⟩
  · rcases kept_or_cut_bestHits NoteStore.allScored_searchSimilar NoteStore.ranked_searchSimilar limit kept with
      best | ⟨-, worse⟩
    · exact .inl best
    · exact .inr worse
  · exact .inr fun best isBest => worse best (lookedUp_sublist.subset isBest)

/-- A hit that is kept is no worse than any chunk of a note for which nothing else is kept. -/
theorem not_score_lt {best : ChunkHit} (kept : best ∈ lookedUp store ownerId embedding threshold limit)
    {stored : StoredNote} (isStored : stored ∈ store.owned ownerId)
    (onlyBest : ∀ other ∈ lookedUp store ownerId embedding threshold limit,
      other.noteId = stored.note.id → other = best)
    {chunk : NoteChunk} (isChunk : chunk ∈ stored.chunks) :
    ¬ best.score < cosine embedding chunk.embedding := by
  intro better
  have above := (Numeral.lt_iff_standing.mp better).2
  obtain ⟨defined, passes⟩ :=
    Numeral.le_iff_standing.mp (NoteStore.mem_passing.mp (mem_passing_of_lookedUp kept)).2
  have alsoPasses : (⟨stored.note.id, chunk.content, cosine embedding chunk.embedding⟩ : ChunkHit) ∈
      store.passing ownerId embedding threshold :=
    NoteStore.mem_passing.mpr ⟨⟨stored, isStored, chunk, isChunk, rfl⟩,
      Numeral.le_iff_standing.mpr ⟨defined, passes.trans above.le⟩⟩
  rcases kept_or_outranked alsoPasses with ⟨other, isOther, sameNote, lower⟩ | lower
  · rw [onlyBest other isOther sameNote] at lower
    exact above.not_ge lower
  · exact above.not_ge (lower best kept)

theorem eq_of_lookedUp {best other : ChunkHit}
    (kept : best ∈ lookedUp store ownerId embedding threshold limit)
    (alsoKept : other ∈ lookedUp store ownerId embedding threshold limit)
    (sameNote : other.noteId = best.noteId) : other = best :=
  List.inj_on_of_nodup_map (nodup_bestHits _ _) alsoKept kept sameNote

/-- A hit that is kept has the best score of its note. -/
theorem exists_bestScore {best : ChunkHit}
    (kept : best ∈ lookedUp store ownerId embedding threshold limit) :
    ∃ stored ∈ store.owned ownerId, stored.note.id = best.noteId ∧ stored.BestScore embedding best.score := by
  obtain ⟨⟨stored, isStored, chunk, isChunk, same⟩, -⟩ :=
    NoteStore.mem_passing.mp (mem_passing_of_lookedUp kept)
  have sameNote : best.noteId = stored.note.id := congrArg ChunkHit.noteId same
  refine ⟨stored, isStored, sameNote.symm, ⟨chunk, isChunk, (congrArg ChunkHit.score same).symm⟩, ?_⟩
  exact fun other isOther => not_score_lt kept isStored
    (fun hit isHit onNote => eq_of_lookedUp kept isHit (onNote.trans sameNote.symm)) isOther

theorem exists_hit {entry : Document × Float32}
    (member : entry ∈ scoredDocuments store later ownerId embedding threshold limit) :
    ∃ hit ∈ lookedUp store ownerId embedding threshold limit, ∃ note : Note,
      note.id = hit.noteId ∧ (later note.id).find? ownerId note.id = some note ∧
        entry = (Document.ofNote (some (clampScore hit.score)) note, hit.score) := by
  obtain ⟨hit, isHit, shown⟩ := List.mem_filterMap.mp member
  obtain ⟨note, found, rfl⟩ := Option.map_eq_some_iff.mp shown
  have sameId := NoteStore.id_of_find? found
  exact ⟨hit, isHit, note, sameId, sameId ▸ found, rfl⟩

/-- The note of a hit that is kept is shown if it is still found. -/
theorem mem_ids_of_lookedUp {best : ChunkHit}
    (kept : best ∈ lookedUp store ownerId embedding threshold limit)
    (present : ((later best.noteId).find? ownerId best.noteId).isSome) :
    best.noteId ∈ (scoredDocuments store later ownerId embedding threshold limit).map (·.1.id) := by
  obtain ⟨note, found⟩ := Option.isSome_iff_exists.mp present
  refine List.mem_map.mpr ⟨(Document.ofNote (some (clampScore best.score)) note, best.score), ?_,
    NoteStore.id_of_find? found⟩
  refine List.mem_filterMap.mpr ⟨best, kept, ?_⟩
  rw [scoredDocument?, found]
  rfl

/-- What holds of hits that are kept, one before the other, holds of their documents. -/
theorem pairwise_scoredDocuments {relation : Document × Float32 → Document × Float32 → Prop}
    (related : (lookedUp store ownerId embedding threshold limit).Pairwise fun hit other =>
      ∀ note another : Note, note.id = hit.noteId → another.id = other.noteId →
        relation (Document.ofNote (some (clampScore hit.score)) note, hit.score)
          (Document.ofNote (some (clampScore other.score)) another, other.score)) :
    (scoredDocuments store later ownerId embedding threshold limit).Pairwise relation := by
  refine List.pairwise_filterMap.mpr (related.imp fun {hit other} holds entry shown next alsoShown => ?_)
  obtain ⟨note, found, rfl⟩ := Option.map_eq_some_iff.mp shown
  obtain ⟨another, alsoFound, rfl⟩ := Option.map_eq_some_iff.mp alsoShown
  exact holds note another (NoteStore.id_of_find? found) (NoteStore.id_of_find? alsoFound)

theorem soundRanking_scoredDocuments :
    SoundRanking store later ownerId embedding threshold limit
      (scoredDocuments store later ownerId embedding threshold limit) where
  distinct := by
    have distinct := List.pairwise_map.mp (nodup_bestHits
      (store.searchSimilar ownerId embedding (limit * 3) threshold) limit)
    refine List.pairwise_map.mpr (pairwise_scoredDocuments (distinct.imp fun {hit other} differ => ?_))
    intro note another ofHit ofOther same
    exact differ (ofHit.symm.trans (same.trans ofOther))
  length_le := (List.length_filterMap_le _ _).trans (List.length_take_le _ _)
  carries := by
    intro entry member
    obtain ⟨hit, kept, note, sameId, found, rfl⟩ := exists_hit member
    obtain ⟨stored, isStored, onNote, best⟩ := exists_bestScore kept
    exact {
      shows := ⟨note, rfl, NoteStore.ownerId_of_find? found, found, rfl⟩
      best := ⟨stored, isStored, onNote.trans sameId.symm, best⟩
      passes := (NoteStore.mem_passing.mp (mem_passing_of_lookedUp kept)).2 }
  falling := pairwise_scoredDocuments (falling_lookedUp.imp fun lower _ _ _ _ => lower)
  shownFalling := by
    refine pairwise_scoredDocuments (falling_lookedUp.imp fun {hit other} lower => ?_)
    rintro note another - - _ ⟨⟩ _ ⟨⟩
    exact clampScore_le_clampScore lower
  noneBetter := by
    intro stored isStored leftOut present chunk isChunk entry member
    obtain ⟨hit, kept, note, sameId, found, rfl⟩ := exists_hit member
    refine not_score_lt kept isStored (fun other isOther onNote => absurd ?_ leftOut) isChunk
    exact onNote ▸ mem_ids_of_lookedUp isOther (onNote.symm ▸ present)

/-- **Notes that are found by their meaning are ranked soundly.** -/
theorem semantic_ranks_notes {course : Course} {documents : List Document}
    (taken : (semantic config ownerId query).Takes course (.done documents))
    (fromStores : ∀ step ∈ course, OfStores store later step) :
    ∃ embedding threshold scored, Compares config query course embedding threshold ∧
      documents = scored.map (·.1) ∧
        SoundRanking store later ownerId embedding threshold config.topK scored := by
  obtain ⟨embedding, threshold, compares, rfl⟩ := semantic_documents taken fromStores
  exact ⟨embedding, threshold, _, compares, rfl, soundRanking_scoredDocuments⟩

theorem semantic_ranks_crowded :
    (crowdedDocuments 3).map (fun document => (document.id, document.relevance)) =
        [("pines", some 1), ("oaks", some 0.6)] ∧
      ∃ embedding threshold scored,
        Compares { topK := 3 } "tall trees" (crowdedCourse 3) embedding threshold ∧
          crowdedDocuments 3 = scored.map (·.1) ∧
            SoundRanking crowded (fun _ => crowded) "alice" embedding threshold 3 scored := by
  refine ⟨?_, semantic_ranks_notes (semantic_takes_crowded 3) (ofStores_crowded 3)⟩
  rw [shown_crowded]
  decide +kernel

/-! ## Completeness -/

/-- The chunks of other notes of an owner that score no less than a chunk of a note. -/
def rivals (store : NoteStore) (ownerId : String) (embedding : Vector32) (noteId : String) (score : Float32) :
    Nat :=
  (chunkHits embedding (store.owned ownerId)).countP fun hit => hit.noteId ≠ noteId && score ≤ hit.score

/-- No note of an owner is gone when it is looked up. -/
def AllRemain (store : NoteStore) (later : String → NoteStore) (ownerId : String) : Prop :=
  ∀ stored ∈ store.owned ownerId, ((later stored.note.id).find? ownerId stored.note.id).isSome

/-- In a store that stays as it is nothing is gone. -/
theorem allRemain_self (store : NoteStore) (ownerId : String) : AllRemain store (fun _ => store) ownerId := by
  intro stored isStored
  refine List.find?_isSome.mpr ⟨stored.note, List.mem_map_of_mem isStored, ?_⟩
  exact beq_self_eq_true _

/-- If fewer notes are shown than may be, and none is gone, those with a chunk among the chunks that were taken
are shown, and no others. -/
theorem mem_ids_iff_taken
    (remain : AllRemain store later ownerId)
    (few : (scoredDocuments store later ownerId embedding threshold limit).length < limit) {noteId : String} :
    noteId ∈ (scoredDocuments store later ownerId embedding threshold limit).map (·.1.id) ↔
      ∃ hit ∈ store.searchSimilar ownerId embedding (limit * 3) threshold, hit.noteId = noteId := by
  have found : ∀ best ∈ lookedUp store ownerId embedding threshold limit,
      ((later best.noteId).find? ownerId best.noteId).isSome := by
    intro best kept
    obtain ⟨stored, isStored, sameNote, -⟩ := exists_bestScore kept
    exact sameNote ▸ remain stored isStored
  have notFull : (lookedUp store ownerId embedding threshold limit).length ≠ limit := by
    have allShown : (scoredDocuments store later ownerId embedding threshold limit).length =
        (lookedUp store ownerId embedding threshold limit).length :=
      List.filterMap_length_eq_length.mpr fun best kept => by
        rw [scoredDocument?, Option.isSome_map]
        exact found best kept
    exact allShown ▸ few.ne
  constructor
  · intro member
    obtain ⟨entry, isEntry, rfl⟩ := List.mem_map.mp member
    obtain ⟨hit, kept, note, sameId, -, rfl⟩ := exists_hit isEntry
    exact ⟨hit, lookedUp_sublist.subset kept, sameId.symm⟩
  · rintro ⟨hit, isTaken, rfl⟩
    rcases kept_or_cut_bestHits NoteStore.allScored_searchSimilar NoteStore.ranked_searchSimilar limit isTaken with
      ⟨best, kept, sameNote, -⟩ | ⟨full, -⟩
    · exact sameNote ▸ mem_ids_of_lookedUp kept (found best kept)
    · exact absurd full notFull

/-- Where no chunk of a note is taken, all that are taken are rivals of a chunk of it that passes. -/
theorem le_rivals {hit : ChunkHit} (passes : hit ∈ store.passing ownerId embedding threshold)
    (cut : ¬ ∃ kept ∈ store.searchSimilar ownerId embedding limit threshold, kept.noteId = hit.noteId) :
    limit ≤ rivals store ownerId embedding hit.noteId hit.score := by
  rcases NoteStore.kept_or_cut_searchSimilar limit passes with kept | ⟨full, worse⟩
  · exact absurd ⟨hit, kept, rfl⟩ cut
  · have scored := NoteStore.allScored_passing hit passes
    have rival : ∀ kept ∈ store.searchSimilar ownerId embedding limit threshold,
        (kept.noteId ≠ hit.noteId && hit.score ≤ kept.score) = true := by
      intro kept isKept
      have other : kept.noteId ≠ hit.noteId := fun same => cut ⟨kept, isKept, same⟩
      simp only [other, ne_eq, not_false_eq_true, decide_true, Bool.true_and, decide_eq_true_eq]
      exact Numeral.le_iff_standing.mpr ⟨scored, worse kept isKept⟩
    calc limit = (store.searchSimilar ownerId embedding limit threshold).length := full.symm
      _ = (store.searchSimilar ownerId embedding limit threshold).countP _ :=
          (List.countP_eq_length.mpr rival).symm
      _ ≤ ((store.passing ownerId embedding threshold).mergeSort ChunkHit.mayPrecede).countP _ :=
          (List.take_sublist _ _).countP_le
      _ = (store.passing ownerId embedding threshold).countP _ := (List.mergeSort_perm _ _).countP_eq _
      _ ≤ rivals store ownerId embedding hit.noteId hit.score := List.filter_sublist.countP_le

/-- **A search by meaning misses a note only if it is crowded out.**  It compared three chunks for each note that
it may return.  If fewer notes are returned, they are the notes of these chunks, and a note with a chunk that
passes is missing only if so many chunks of other notes are as good. -/
theorem semantic_misses_crowded_out {course : Course} {documents : List Document}
    (taken : (semantic config ownerId query).Takes course (.done documents))
    (fromStores : ∀ step ∈ course, OfStores store later step)
    (remain : AllRemain store later ownerId)
    (few : documents.length < config.topK) :
    ∃ embedding threshold, Compares config query course embedding threshold ∧
      ∀ stored ∈ store.owned ownerId,
        (stored.note.id ∈ documents.map (·.id) ↔
          ∃ hit ∈ store.searchSimilar ownerId embedding (config.topK * 3) threshold,
            hit.noteId = stored.note.id) ∧
        ∀ chunk ∈ stored.chunks, threshold ≤ cosine embedding chunk.embedding →
          stored.note.id ∈ documents.map (·.id) ∨
            config.topK * 3 ≤
              rivals store ownerId embedding stored.note.id (cosine embedding chunk.embedding) := by
  obtain ⟨embedding, threshold, compares, rfl⟩ := semantic_documents taken fromStores
  rw [List.length_map] at few
  rw [List.map_map]
  refine ⟨embedding, threshold, compares, fun stored isStored => ⟨mem_ids_iff_taken remain few, ?_⟩⟩
  intro chunk isChunk passes
  refine Decidable.or_iff_not_imp_left.mpr fun missing => ?_
  have passing := NoteStore.mem_passing.mpr ⟨⟨stored, isStored, chunk, isChunk, rfl⟩, passes⟩
  exact le_rivals passing fun isTaken => missing ((mem_ids_iff_taken remain few).mpr isTaken)

theorem semantic_misses_none_of_crowded :
    (crowdedDocuments 3).length < 3 ∧
      ∃ embedding threshold, Compares { topK := 3 } "tall trees" (crowdedCourse 3) embedding threshold ∧
        ∀ stored ∈ crowded.owned "alice",
          (stored.note.id ∈ (crowdedDocuments 3).map (·.id) ↔
            ∃ hit ∈ crowded.searchSimilar "alice" embedding (3 * 3) threshold, hit.noteId = stored.note.id) ∧
          ∀ chunk ∈ stored.chunks, threshold ≤ cosine embedding chunk.embedding →
            stored.note.id ∈ (crowdedDocuments 3).map (·.id) ∨
              3 * 3 ≤ rivals crowded "alice" embedding stored.note.id (cosine embedding chunk.embedding) := by
  have few : (crowdedDocuments 3).length < 3 := by
    rw [shown_crowded]
    decide +kernel
  exact ⟨few, semantic_misses_crowded_out (semantic_takes_crowded 3) (ofStores_crowded 3)
    (allRemain_self crowded "alice") few⟩

/-- **One note can crowd another out.**  Two notes pass the threshold and two may be returned, but six chunks of
the first are all that is compared. -/
theorem semantic_crowds_out :
    (semantic { topK := 2 } "alice" "tall trees").Takes (crowdedCourse 2) (.done (crowdedDocuments 2)) ∧
      (∀ step ∈ crowdedCourse 2, OfStores crowded (fun _ => crowded) step) ∧
      Compares { topK := 2 } "tall trees" (crowdedCourse 2) [1, 0] 0.35 ∧
      (crowdedDocuments 2).length < 2 ∧
      ∃ stored ∈ crowded.owned "alice", (∃ chunk ∈ stored.chunks, 0.35 ≤ cosine [1, 0] chunk.embedding) ∧
        stored.note.id ∉ (crowdedDocuments 2).map (·.id) := by
  refine ⟨semantic_takes_crowded 2, ofStores_crowded 2, ?_, ?_⟩
  · exact ⟨⟨[_], _, rfl, .ask _ _ _ (.done _)⟩, none, List.mem_cons_of_mem _ List.mem_cons_self, rfl⟩
  · rw [shown_crowded]
    decide +kernel

end Retrieval

end NoteDialogue
