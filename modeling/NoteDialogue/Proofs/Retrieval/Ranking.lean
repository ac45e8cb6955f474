import NoteDialogue.Proofs.Numeral.Order
import NoteDialogue.Proofs.Retrieval

/-!
# Ranking the chunks of notes by their scores

Every chunk that passes a threshold has a score that compares with all others, whatever the embeddings are
(`allScored_passing`), so sorting the passing chunks puts none above a better one (`ranked_searchSimilar`).
Of a ranked list the first hit of each note is its best one (`exists_firstOfEach`).  Hence a chunk that is cut
off, at the limit of chunks or at the limit of notes, is no better than any that is kept: at the first cut
only when as many chunks as the limit says are kept (`kept_or_cut_searchSimilar`), at the second only when as many
notes are (`kept_or_cut_bestHits`).
-/

set_option autoImplicit false

namespace NoteDialogue

open Numeral (standing)

/-! ## Sorting hits -/

/-- The hits are ordered by their scores, the best first. -/
def Ranked (hits : List ChunkHit) : Prop :=
  hits.Pairwise fun better worse => standing worse.score ≤ standing better.score

/-- A score that compares with others is brought to the nearest number from zero to one. -/
theorem standing_clampScore {score : Float32} (scored : standing score ≠ ⊥) :
    standing (clampScore score) = max (standing 0) (min (standing 1) (standing score)) := by
  have unit : standing (0 : Float32) ≤ standing 1 :=
    (Numeral.le_iff_standing.mp (show (0 : Float32) ≤ 1 by decide)).2
  have one : standing (1 : Float32) ≠ ⊥ := by decide
  unfold clampScore
  split_ifs with below above
  · have lower := (Numeral.lt_iff_standing.mp below).2
    order
  · have higher := (Numeral.lt_iff_standing.mp above).2
    order
  · have atLeast := Numeral.standing_le_of_not_lt scored below
    have atMost := Numeral.standing_le_of_not_lt one above
    order

/-- Bringing scores into range keeps their order. -/
theorem clampScore_le_clampScore {worse better : Float32} (atMost : worse ≤ better) :
    clampScore worse ≤ clampScore better := by
  obtain ⟨scored, lower⟩ := Numeral.le_iff_standing.mp atMost
  have zero : standing (0 : Float32) ≠ ⊥ := by decide
  rw [Numeral.le_iff_standing, standing_clampScore scored,
    standing_clampScore (Numeral.standing_ne_bot_of_le atMost)]
  exact ⟨ne_bot_of_le_ne_bot zero (le_max_left _ _), max_le_max le_rfl (min_le_min le_rfl lower)⟩

/-- Every hit has a score that compares with others. -/
def AllScored (hits : List ChunkHit) : Prop :=
  ∀ hit ∈ hits, standing hit.score ≠ ⊥

theorem mayPrecede_iff {left right : ChunkHit} (scored : standing left.score ≠ ⊥) :
    left.mayPrecede right = true ↔ standing right.score ≤ standing left.score := by
  rw [ChunkHit.mayPrecede, Bool.not_eq_true', decide_eq_false_iff_not]
  exact ⟨Numeral.standing_le_of_not_lt scored, Numeral.not_lt_of_standing_le⟩

/-- **Sorting ranks hits by their scores.**  The order of the program is no order of all hits, since an undefined
score may stand anywhere in it, but on hits that are scored it agrees with one. -/
theorem ranked_mergeSort {hits : List ChunkHit} (scored : AllScored hits) :
    Ranked (hits.mergeSort ChunkHit.mayPrecede) := by
  have sameOrder : (hits.mergeSort ChunkHit.mayPrecede) =
      hits.mergeSort fun left right => decide (standing right.score ≤ standing left.score) := by
    have mapped := List.map_mergeSort (f := id) (r := ChunkHit.mayPrecede)
      (s := fun left right => decide (standing right.score ≤ standing left.score)) (l := hits)
      fun left member right _ => by
        rw [Bool.eq_iff_iff, mayPrecede_iff (scored left member), decide_eq_true_iff]
        rfl
    rwa [List.map_id, List.map_id] at mapped
  rw [sameOrder]
  refine (List.pairwise_mergeSort ?_ ?_ hits).imp of_decide_eq_true
  · intro first second third one two
    exact decide_eq_true ((of_decide_eq_true two).trans (of_decide_eq_true one))
  · intro left right
    rw [Bool.or_eq_true, decide_eq_true_iff, decide_eq_true_iff]
    exact le_total _ _

/-- Hits that are ranked stay as they are when they are sorted. -/
theorem mergeSort_of_ranked {hits : List ChunkHit} (scored : AllScored hits) (ranked : Ranked hits) :
    hits.mergeSort ChunkHit.mayPrecede = hits :=
  List.mergeSort_of_pairwise (ranked.imp_of_mem fun left _ below => (mayPrecede_iff (scored _ left)).mpr below)

/-- Of a ranked list a hit is in the first part, or that part is full and holds nothing worse. -/
theorem Ranked.mem_take_or {hits : List ChunkHit} (ranked : Ranked hits) (limit : Nat) {hit : ChunkHit}
    (member : hit ∈ hits) :
    hit ∈ hits.take limit ∨
      (hits.take limit).length = limit ∧
        ∀ kept ∈ hits.take limit, standing hit.score ≤ standing kept.score := by
  rw [← List.take_append_drop limit hits, List.mem_append] at member
  rcases member with within | beyond
  · exact .inl within
  · have split := ranked
    rw [Ranked, ← List.take_append_drop limit hits, List.pairwise_append] at split
    have longer : limit < hits.length := by
      by_contra short
      rw [List.drop_eq_nil_of_le (not_lt.mp short)] at beyond
      cases beyond
    exact .inr ⟨List.length_take_of_le longer.le, fun kept isKept => split.2.2 kept isKept hit beyond⟩

/-! ## Chunks of stored notes -/

namespace NoteStore

variable {store : NoteStore} {ownerId : String} {embedding : Vector32} {threshold : Float32} {limit : Nat}

/-- The hits of the chunks of an owner's notes that pass a threshold. -/
def passing (store : NoteStore) (ownerId : String) (embedding : Vector32) (threshold : Float32) :
    List ChunkHit :=
  (chunkHits embedding (store.owned ownerId)).filter fun hit => threshold ≤ hit.score

theorem mem_passing {hit : ChunkHit} :
    hit ∈ store.passing ownerId embedding threshold ↔
      (∃ stored ∈ store.owned ownerId, ∃ chunk ∈ stored.chunks,
        hit = ⟨stored.note.id, chunk.content, cosine embedding chunk.embedding⟩) ∧ threshold ≤ hit.score := by
  simp only [passing, chunkHits, List.mem_filter, List.mem_flatMap, List.mem_map, decide_eq_true_eq,
    eq_comm (a := hit)]

/-- A score that passes a threshold compares with all others. -/
theorem allScored_passing : AllScored (store.passing ownerId embedding threshold) :=
  fun _ member => Numeral.standing_ne_bot_of_le (mem_passing.mp member).2

theorem searchSimilar_eq (store : NoteStore) (ownerId : String) (embedding : Vector32) (limit : Nat)
    (threshold : Float32) :
    store.searchSimilar ownerId embedding limit threshold =
      ((store.passing ownerId embedding threshold).mergeSort ChunkHit.mayPrecede).take limit := rfl

theorem mem_passing_of_searchSimilar {hit : ChunkHit}
    (found : hit ∈ store.searchSimilar ownerId embedding limit threshold) :
    hit ∈ store.passing ownerId embedding threshold :=
  (List.mergeSort_perm _ _).subset (List.take_subset _ _ found)

theorem allScored_searchSimilar : AllScored (store.searchSimilar ownerId embedding limit threshold) :=
  fun _ found => allScored_passing _ (mem_passing_of_searchSimilar found)

theorem ranked_searchSimilar : Ranked (store.searchSimilar ownerId embedding limit threshold) :=
  (ranked_mergeSort allScored_passing).sublist (List.take_sublist _ _)

/-- **A passing chunk is found, or as many as the limit says are found and none of them is worse.** -/
theorem kept_or_cut_searchSimilar (limit : Nat) {hit : ChunkHit}
    (passes : hit ∈ store.passing ownerId embedding threshold) :
    hit ∈ store.searchSimilar ownerId embedding limit threshold ∨
      (store.searchSimilar ownerId embedding limit threshold).length = limit ∧
        ∀ kept ∈ store.searchSimilar ownerId embedding limit threshold,
          standing hit.score ≤ standing kept.score :=
  (ranked_mergeSort allScored_passing).mem_take_or limit ((List.mergeSort_perm _ _).mem_iff.mpr passes)

end NoteStore

/-! ## The best hit of each note -/

namespace Retrieval

variable {hits : List ChunkHit} {limit : Nat}

theorem bestHits_of_ranked (scored : AllScored hits) (ranked : Ranked hits) (limit : Nat) :
    bestHits hits limit = (firstOfEach ChunkHit.noteId hits).take limit := by
  rw [bestHits, mergeSort_of_ranked scored ranked]

theorem bestHits_sublist (scored : AllScored hits) (ranked : Ranked hits) (limit : Nat) :
    (bestHits hits limit).Sublist hits := by
  rw [bestHits_of_ranked scored ranked]
  exact (List.take_sublist _ _).trans (firstOfEach_sublist hits)

/-- **Of each note its best hit is kept, or as many hits as the limit says are kept and none of them is
worse.** -/
theorem kept_or_cut_bestHits (scored : AllScored hits) (ranked : Ranked hits) (limit : Nat) {hit : ChunkHit}
    (member : hit ∈ hits) :
    (∃ best ∈ bestHits hits limit, best.noteId = hit.noteId ∧ standing hit.score ≤ standing best.score) ∨
      (bestHits hits limit).length = limit ∧
        ∀ best ∈ bestHits hits limit, standing hit.score ≤ standing best.score := by
  rw [bestHits_of_ranked scored ranked]
  obtain ⟨first, isFirst, sameNote, better⟩ :=
    exists_firstOfEach ChunkHit.noteId (fun hit => le_refl (standing hit.score)) ranked member
  have firstRanked : Ranked (firstOfEach ChunkHit.noteId hits) := ranked.sublist (firstOfEach_sublist hits)
  rcases firstRanked.mem_take_or limit isFirst with kept | ⟨full, worse⟩
  · exact .inl ⟨first, kept, sameNote, better⟩
  · exact .inr ⟨full, fun best isBest => better.trans (worse best isBest)⟩

end Retrieval

end NoteDialogue
