import NoteDialogue.Notes.QueryCache
import NoteDialogue.Proofs.Recall

/-!
# Truthful caches of embeddings

A cache is truthful when each of its entries is the embedding of some query that was asked
(`QueryCache.Truthful`).  It stays so when embeddings are recollected, remembered and forgotten.  If no two
of the queries have the same digest, a truthful cache recollects of each query its own embedding or none.

So it does not matter which truthful cache an interaction recalls embeddings from, how much room it has
and what has been forgotten: the interaction ends alike, and it recalls the same queries
(`Recalls.trace_alike`).
-/

set_option autoImplicit false

namespace NoteDialogue

namespace QueryCache

variable {digest : String → String} {asked : String → Prop} {embeds : String → Vector32 → Prop}
  {cache : QueryCache} {query : String} {embedding : Vector32}

/-- No two of the queries have the same digest. -/
def Apart (digest : String → String) (asked : String → Prop) : Prop :=
  ∀ one other, asked one → asked other → digest one = digest other → one = other

/-- Every entry is the embedding of a query that was asked, under the digest of the query. -/
structure Truthful (digest : String → String) (asked : String → Prop)
    (embeds : String → Vector32 → Prop) (cache : QueryCache) : Prop where
  sameDigest : cache.digest = digest
  entries : ∀ entry ∈ cache.entries, ∃ query, asked query ∧ entry.1 = digest query ∧
    embeds query entry.2

theorem truthful_empty (capacity : Nat) :
    Truthful digest asked embeds { capacity, digest } where
  sameDigest := rfl
  entries := fun _ member => absurd member List.not_mem_nil

theorem mem_of_mem_others {entry : String × Vector32} (member : entry ∈ cache.others query) :
    entry ∈ cache.entries :=
  List.mem_of_mem_filter member

/-- A query that is recollected is only moved to the front. -/
theorem Truthful.recollect (truthful : Truthful digest asked embeds cache) (query : String) :
    Truthful digest asked embeds (cache.recollect query).2 := by
  unfold QueryCache.recollect
  cases found : cache.entries.find? (cache.isEntryOf query) with
  | none => exact truthful
  | some entry =>
      refine ⟨truthful.sameDigest, List.forall_mem_cons.mpr ⟨?_, fun other member => ?_⟩⟩
      · exact truthful.entries entry (List.mem_of_find?_eq_some found)
      · exact truthful.entries other (mem_of_mem_others member)

/-- What is recollected of a query is the embedding of the trimmed query. -/
theorem Truthful.embeds_of_recollect (truthful : Truthful digest asked embeds cache)
    (apart : Apart digest asked) (isAsked : asked (Text.trim query))
    (found : (cache.recollect query).1 = some embedding) : embeds (Text.trim query) embedding := by
  unfold QueryCache.recollect at found
  cases kept : cache.entries.find? (cache.isEntryOf query) with
  | none => simp [kept] at found
  | some entry =>
      simp only [kept, Option.some.injEq] at found
      subst found
      obtain ⟨other, otherAsked, sameKey, embedsOther⟩ :=
        truthful.entries entry (List.mem_of_find?_eq_some kept)
      have isEntry : entry.1 = cache.key query := by
        simpa [isEntryOf] using List.find?_some kept
      rw [key, truthful.sameDigest, sameKey] at isEntry
      rwa [← apart other _ otherAsked isAsked isEntry]

/-- A query is remembered with the embedding of the trimmed query. -/
theorem Truthful.remember (truthful : Truthful digest asked embeds cache)
    (isAsked : asked (Text.trim query)) (embedsQuery : embeds (Text.trim query) embedding) :
    Truthful digest asked embeds (cache.remember query embedding) := by
  refine ⟨truthful.sameDigest, fun entry member => ?_⟩
  rcases List.mem_cons.mp (List.mem_of_mem_take member) with rfl | old
  · refine ⟨Text.trim query, isAsked, ?_, embedsQuery⟩
    rw [key, truthful.sameDigest]
  · exact truthful.entries entry (mem_of_mem_others old)

end QueryCache

/-! ## Recalling from a cache -/

/-- What recalling an embedding gives when it has to be made. -/
def TimedAnswer.recalled : TimedAnswer Vector32 → Except Failure Vector32
  | .inTime made => made
  | .late => .error (.timeout "Query embedding")

/-- The world with a cache of embeddings, in which queries are embedded in a fixed way. -/
def World.remembering {τ : Type} (world : World τ) (embedder : String → Nat → TimedAnswer Vector32) :
    World (τ × QueryCache) where
  answer question state :=
    match question with
    | .lookUp (.recollect query) =>
        let (embedding, cache) := state.2.recollect query
        (some embedding, (state.1, cache))
    | .lookUp (.remember query embedding) =>
        (some (), (state.1, state.2.remember query embedding))
    | .embedQuery query limit => (some (embedder query limit), state)
    | question =>
        let (answer, after) := world.answer question state.1
        (answer, (after, state.2))

/-- The queries whose embeddings were recalled, without surrounding blanks. -/
def recalledQueries (course : Course) : List String :=
  course.filterMap fun step =>
    match step.question with
    | .lookUp (.recollect query) => some (Text.trim query)
    | _ => none

theorem recalledQueries_append (first second : Course) :
    recalledQueries (first ++ second) = recalledQueries first ++ recalledQueries second :=
  List.filterMap_append

namespace Interaction

open QueryCache (Truthful Apart)

variable {α τ : Type} {world : World τ} {embedder : String → Nat → TimedAnswer Vector32}
  {ownerId : String} {limit : Nat} {digest : String → String} {asked : String → Prop}

/-- What is no part of recalling an embedding has nothing to do with the cache. -/
theorem answer_remembering {question : Ask} (concerns : question.Concerns ownerId) (own : τ)
    (cache : QueryCache) :
    (world.remembering embedder).answer question (own, cache) =
      ((world.answer question own).1, ((world.answer question own).2, cache)) := by
  match question with
  | .generate _ _ _ _ => rfl
  | .embedQuery _ _ | .embedPassages _ => exact concerns.elim
  | .lookUp lookup =>
      cases lookup with
      | recollect | remember => exact concerns.elim
      | style | setting | noteById | notesByTitle | notesByText | notesByTerms | similarChunks => rfl

theorem recalledQueries_cons {question : Ask} (concerns : question.Concerns ownerId)
    (answer : question.Answer) (course : Course) :
    recalledQueries (⟨question, answer⟩ :: course) = recalledQueries course := by
  match question with
  | .generate _ _ _ _ => rfl
  | .embedQuery _ _ | .embedPassages _ => exact concerns.elim
  | .lookUp lookup =>
      cases lookup with
      | recollect | remember => exact concerns.elim
      | style | setting | noteById | notesByTitle | notesByText | notesByTerms | similarChunks => rfl

/-- The embeddings that are made in time. -/
def madeBy (embedder : String → Nat → TimedAnswer Vector32) (limit : Nat) (query : String)
    (embedding : Vector32) : Prop :=
  embedder query limit = .inTime (.ok embedding)

/-- Recalling an embedding begins with the query. -/
theorem mem_recalledQueries_recalling (query : String) (next : Except Failure Vector32 → Interaction α)
    (own : τ) (cache : QueryCache) :
    Text.trim query ∈ recalledQueries
      ((recalling query limit next).trace (world.remembering embedder) (own, cache)).2.2 := by
  simp only [recalling, trace, World.remembering, recalledQueries, List.filterMap_cons]
  exact List.mem_cons_self

/-- **From a truthful cache an embedding is recalled as if it were made**, if what is made of the query is
an embedding of the trimmed query. -/
theorem trace_recalling (world : World τ) {embeds : String → Vector32 → Prop}
    (apart : Apart digest asked) {query : String} (isAsked : asked (Text.trim query))
    (embedsQuery : ∀ embedding,
      embeds (Text.trim query) embedding ↔ madeBy embedder limit query embedding)
    (next : Except Failure Vector32 → Interaction α) (own : τ) {cache : QueryCache}
    (truthful : Truthful digest asked embeds cache) :
    ∃ after steps, Truthful digest asked embeds after ∧
      recalledQueries steps = [Text.trim query] ∧
      (recalling query limit next).trace (world.remembering embedder) (own, cache) =
        let later := (next (embedder query limit).recalled).trace (world.remembering embedder)
          (own, after)
        (later.1, later.2.1, steps ++ later.2.2) := by
  have stays := truthful.recollect query
  have single : recalledQueries [⟨.lookUp (.recollect query), none⟩] = [Text.trim query] := rfl
  rcases kept : cache.recollect query with ⟨_ | embedding, after⟩
  · rw [kept] at stays
    rcases made : embedder query limit with (failure | embedding) | _
    · refine ⟨after, [⟨.lookUp (.recollect query), (none : Option Vector32)⟩,
        ⟨.embedQuery query limit, .inTime (.error failure)⟩], stays, single, ?_⟩
      simp only [recalling, trace, World.remembering, kept, made, TimedAnswer.recalled]
      rfl
    · have isMade : madeBy embedder limit query embedding := made
      refine ⟨after.remember query embedding,
        [⟨.lookUp (.recollect query), (none : Option Vector32)⟩,
          ⟨.embedQuery query limit, .inTime (.ok embedding)⟩,
          ⟨.lookUp (.remember query embedding), ()⟩],
        stays.remember isAsked ((embedsQuery embedding).mpr isMade), single, ?_⟩
      simp only [recalling, trace, World.remembering, kept, made, TimedAnswer.recalled]
      rfl
    · refine ⟨after, [⟨.lookUp (.recollect query), (none : Option Vector32)⟩,
        ⟨.embedQuery query limit, .late⟩], stays, single, ?_⟩
      simp only [recalling, trace, World.remembering, kept, made, TimedAnswer.recalled]
      rfl
  · rw [kept] at stays
    have isMade : embedder query limit = .inTime (.ok embedding) :=
      (embedsQuery embedding).mp (truthful.embeds_of_recollect apart isAsked (congrArg Prod.fst kept))
    refine ⟨after, [⟨.lookUp (.recollect query), (some embedding : Option Vector32)⟩], stays, single,
      ?_⟩
    rw [isMade]
    simp only [recalling, trace, World.remembering, kept, TimedAnswer.recalled]
    rfl

/-- Two runs from different caches, of which the first has recalled only queries that were asked: they come
to the same, but for what is in the caches, and both caches are truthful. -/
structure AlikeTraces (truthful : QueryCache → Prop)
    (one other : Ending α × (τ × QueryCache) × Course) : Prop where
  ending : other.1 = one.1
  own : other.2.1.1 = one.2.1.1
  queries : recalledQueries other.2.2 = recalledQueries one.2.2
  kept : truthful one.2.1.2
  otherKept : truthful other.2.1.2

/-- **It does not matter from which truthful cache embeddings are recalled.** -/
theorem Recalls.trace_alike {mayCrash : Prop} {interaction : Interaction α} (apart : Apart digest asked)
    (recalls : interaction.Recalls (Ask.Concerns ownerId) limit mayCrash) (own : τ)
    {one other : QueryCache} (truthful : Truthful digest asked (madeBy embedder limit) one)
    (otherTruthful : Truthful digest asked (madeBy embedder limit) other)
    (asks : ∀ query ∈ recalledQueries
      (interaction.trace (world.remembering embedder) (own, one)).2.2, asked query) :
    AlikeTraces (Truthful digest asked (madeBy embedder limit))
      (interaction.trace (world.remembering embedder) (own, one))
      (interaction.trace (world.remembering embedder) (own, other)) := by
  induction recalls generalizing own one other with
  | done | failed | crashed => exact ⟨rfl, rfl, rfl, truthful, otherTruthful⟩
  | @ask question next concerns _ ih =>
      rcases given : world.answer question own with ⟨_ | answer, after⟩
      · simp only [trace, answer_remembering concerns, given]
        exact ⟨rfl, rfl, rfl, truthful, otherTruthful⟩
      · simp only [trace, answer_remembering concerns, given, recalledQueries_cons concerns] at asks ⊢
        have later := ih answer after truthful otherTruthful asks
        refine ⟨later.ending, later.own, ?_, later.kept, later.otherKept⟩
        simp only [recalledQueries_cons concerns]
        exact later.queries
  | @recalling query next trimmed _ ih =>
      have isAsked := asks _ (mem_recalledQueries_recalling query next own one)
      have embedsQuery (embedding : Vector32) : madeBy embedder limit (Text.trim query) embedding ↔
          madeBy embedder limit query embedding := by rw [trimmed]
      obtain ⟨oneAfter, oneSteps, stays, oneQueries, oneRun⟩ :=
        trace_recalling world apart isAsked embedsQuery next own truthful
      obtain ⟨otherAfter, otherSteps, otherStays, otherQueries, otherRun⟩ :=
        trace_recalling world apart isAsked embedsQuery next own otherTruthful
      rw [oneRun] at asks ⊢
      rw [otherRun]
      simp only [recalledQueries_append, oneQueries] at asks
      have later := ih _ own stays otherStays fun query member =>
        asks query (List.mem_append_right _ member)
      refine ⟨later.ending, later.own, ?_, later.kept, later.otherKept⟩
      simp only [recalledQueries_append, oneQueries, otherQueries, later.queries]

end Interaction

end NoteDialogue
