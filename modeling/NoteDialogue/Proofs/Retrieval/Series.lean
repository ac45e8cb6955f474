import NoteDialogue.Proofs.Notes.QueryCache
import NoteDialogue.Proofs.Notes.World

/-!
# Searches one after the other

A service searches for one request after the other in a world that remembers embeddings (`searchAnew`).
What it has to come to is said by the world that remembers none and embeds every query anew
(`World.forgetting`): from a truthful cache a search comes to what it comes to there, and the cache stays
truthful (`search_remembering`), and so do all searches (`searchEach_remembering`).

Embeddings are kept under the trimmed query, but it is the query as it stands that is embedded.  So the
cache does not show, whatever room it has, as long as the embedder gives the same for queries that differ in
the blanks around them alone (`same_results_with_any_room`).  An embedder that tells such queries apart
shows it (`blanks_tell_the_room`).
-/

set_option autoImplicit false

namespace NoteDialogue

/-- What is searched for, and among whose notes. -/
structure SearchRequest where
  ownerId : String
  query : String
  filter : NoteFilter := {}

namespace SearchRequest

/-- The search for what is requested. -/
def search (config : RetrievalConfig) (request : SearchRequest) : Interaction SearchResult :=
  Retrieval.search config request.ownerId request.query request.filter

/-- Whether the query is searched by its meaning. -/
def isByMeaning (request : SearchRequest) : Bool :=
  (Retrieval.wordSearch? request.query request.filter).isNone

/-- The queries that are searched by their meaning. -/
def queriesByMeaning (requests : List SearchRequest) : List String :=
  (requests.filter isByMeaning).map (·.query)

end SearchRequest

/-- The world without a cache of embeddings, in which queries are embedded in a fixed way. -/
def World.forgetting {τ : Type} (world : World τ) (embedder : String → Nat → TimedAnswer Vector32) :
    World τ where
  answer question state :=
    match question with
    | .lookUp (.recollect _) => (some none, state)
    | .lookUp (.remember _ _) => (some (), state)
    | .embedQuery query limit => (some (embedder query limit), state)
    | question => world.answer question state

namespace Interaction

variable {α τ : Type} {world : World τ} {embedder : String → Nat → TimedAnswer Vector32}
  {ownerId : String}

theorem answer_forgetting {question : Ask} (concerns : question.Concerns ownerId) (own : τ) :
    (world.forgetting embedder).answer question own = world.answer question own := by
  match question with
  | .generate _ _ _ _ => rfl
  | .embedQuery _ _ | .embedPassages _ => exact concerns.elim
  | .lookUp lookup =>
      cases lookup with
      | recollect | remember => exact concerns.elim
      | style | setting | noteById | notesByTitle | notesByText | notesByTerms | similarChunks => rfl

/-- Without a cache an embedding that is recalled is made. -/
theorem run_recalling_forgetting (query : String) (limit : Nat)
    (next : Except Failure Vector32 → Interaction α) (own : τ) :
    (recalling query limit next).run (world.forgetting embedder) own =
      (next (embedder query limit).recalled).run (world.forgetting embedder) own := by
  rcases made : embedder query limit with (failure | embedding) | _ <;>
    simp only [recalling, run, World.forgetting, made, TimedAnswer.recalled]

/-- What recalls no embeddings comes to the same with a cache, and leaves the cache as it is. -/
theorem run_remembering {interaction : Interaction α}
    (concerns : interaction.AsksOnly (Ask.Concerns ownerId)) (own : τ) (cache : QueryCache) :
    interaction.run (world.remembering embedder) (own, cache) =
      let (ending, last) := interaction.run (world.forgetting embedder) own
      (ending, (last, cache)) := by
  induction interaction generalizing own with
  | done | failed => rfl
  | crashed => exact concerns.elim
  | ask question next ih =>
      simp only [run, answer_remembering concerns.1, answer_forgetting concerns.1]
      rcases world.answer question own with ⟨_ | answer, after⟩
      · rfl
      · exact ih answer (concerns.2 answer) after

end Interaction

namespace Retrieval

open Interaction
open QueryCache (Truthful Apart)
open SearchRequest (queriesByMeaning)

variable {τ σ : Type} {config : RetrievalConfig} {own : World τ}
  {embedder : String → Nat → TimedAnswer Vector32} {digest : String → String} {cache : QueryCache}
  {queries : List String} {requests : List SearchRequest}

/-! ## One search -/

/-- The queries without the blanks around them. -/
def trimmedAmong (queries : List String) (text : String) : Prop :=
  ∃ query ∈ queries, Text.trim query = text

/-- The embeddings that are made of one of the queries, apart from the blanks around it. -/
def madeAmong (queries : List String) (embedder : String → Nat → TimedAnswer Vector32) (limit : Nat)
    (text : String) (embedding : Vector32) : Prop :=
  ∃ query ∈ queries, Text.trim query = text ∧ madeBy embedder limit query embedding

/-- A truthful cache of embeddings that were made of these queries. -/
abbrev TruthfulFor (queries : List String) (config : RetrievalConfig)
    (embedder : String → Nat → TimedAnswer Vector32) (digest : String → String) : QueryCache → Prop :=
  Truthful digest (trimmedAmong queries) (madeAmong queries embedder config.embeddingTimeout)

/-- No two of the queries have the same digest, unless they differ only in the blanks around them. -/
def DigestsApart (digest : String → String) (queries : List String) : Prop :=
  ∀ one ∈ queries, ∀ other ∈ queries, digest (Text.trim one) = digest (Text.trim other) →
    Text.trim one = Text.trim other

/-- Queries that differ only in the blanks around them come to the same embedding. -/
def BlanksIgnored (embedder : String → Nat → TimedAnswer Vector32) (limit : Nat)
    (queries : List String) : Prop :=
  ∀ one ∈ queries, ∀ other ∈ queries, Text.trim one = Text.trim other →
    embedder one limit = embedder other limit

theorem DigestsApart.apart (distinct : DigestsApart digest queries) :
    Apart digest (trimmedAmong queries) := by
  rintro one other ⟨first, isOne, rfl⟩ ⟨second, isOther, rfl⟩ same
  exact distinct first isOne second isOther same

theorem BlanksIgnored.madeAmong_trim {limit : Nat}
    (ignored : BlanksIgnored embedder limit queries) {query : String} (among : query ∈ queries)
    (embedding : Vector32) :
    madeAmong queries embedder limit (Text.trim query) embedding ↔
      madeBy embedder limit query embedding := by
  refine ⟨?_, fun made => ⟨query, among, rfl, made⟩⟩
  rintro ⟨other, isOther, sameText, made⟩
  exact (ignored query among other isOther sameText.symm).trans made

/-- **From a truthful cache a search comes to what it comes to without a cache**, and the cache stays
truthful. -/
theorem search_remembering (own : World τ) (distinct : DigestsApart digest queries)
    (ignored : BlanksIgnored embedder config.embeddingTimeout queries) {request : SearchRequest}
    (among : request.isByMeaning → request.query ∈ queries) (state : τ)
    (truthful : TruthfulFor queries config embedder digest cache) :
    ∃ after, TruthfulFor queries config embedder digest after ∧
      (request.search config).run (own.remembering embedder) (state, cache) =
        let (ending, last) := (request.search config).run (own.forgetting embedder) state
        (ending, (last, after)) := by
  unfold SearchRequest.search
  cases called : wordSearch? request.query request.filter with
  | some words => exact ⟨cache, truthful, run_remembering (search_of_words_concerns called) state cache⟩
  | none =>
      have isAmong : request.query ∈ queries := among (by rw [SearchRequest.isByMeaning, called]; rfl)
      obtain ⟨next, same, later⟩ := search_of_meaning_recalling config request.ownerId called
      obtain ⟨after, steps, stays, -, recalls⟩ :=
        trace_recalling own distinct.apart ⟨_, isAmong, rfl⟩ (ignored.madeAmong_trim isAmong) next state
          truthful
      refine ⟨after, stays, ?_⟩
      rw [same, run_recalling_forgetting, run_eq_trace, recalls]
      exact (run_eq_trace _ _ _).symm.trans (run_remembering (later _) state after)

/-! ## All searches -/

/-- How some searches end, one after the other, and the state in which they leave the world. -/
def searchEach (config : RetrievalConfig) (world : World σ) :
    List SearchRequest → σ → List (Ending SearchResult) × σ
  | [], state => ([], state)
  | request :: rest, state =>
      let (ending, after) := (request.search config).run world state
      let (endings, last) := searchEach config world rest after
      (ending :: endings, last)

/-- **From a truthful cache all searches come to what they come to without a cache.** -/
theorem searchEach_remembering (own : World τ) (distinct : DigestsApart digest queries)
    (ignored : BlanksIgnored embedder config.embeddingTimeout queries)
    (among : ∀ query ∈ queriesByMeaning requests, query ∈ queries) (state : τ)
    (truthful : TruthfulFor queries config embedder digest cache) :
    ∃ after, TruthfulFor queries config embedder digest after ∧
      searchEach config (own.remembering embedder) requests (state, cache) =
        let (endings, last) := searchEach config (own.forgetting embedder) requests state
        (endings, (last, after)) := by
  induction requests generalizing state cache with
  | nil => exact ⟨cache, truthful, rfl⟩
  | cons request rest ih =>
      have thisAmong (byMeaning : request.isByMeaning) : request.query ∈ queries :=
        among _ (List.mem_map_of_mem (List.mem_filter.mpr ⟨List.mem_cons_self, byMeaning⟩))
      have restAmong : ∀ query ∈ queriesByMeaning rest, query ∈ queries := fun query member =>
        among query (((List.sublist_cons_self request rest).filter _).map _ |>.subset member)
      obtain ⟨after, stays, thisRun⟩ := search_remembering own distinct ignored thisAmong state truthful
      obtain ⟨last, lastStays, restRun⟩ := ih restAmong
        ((request.search config).run (own.forgetting embedder) state).2 stays
      exact ⟨last, lastStays, by simp only [searchEach, thisRun, restRun]⟩

/-- No search depends on the room for embeddings, but through what is remembered. -/
theorem search_resize (config : RetrievalConfig) (capacity : Nat) (request : SearchRequest) :
    request.search { config with embeddingCacheSize := capacity } = request.search config := by
  simp only [SearchRequest.search, search, find, literal, semantic, queryEmbedding_eq]

theorem searchEach_resize (config : RetrievalConfig) (capacity : Nat) (world : World σ)
    (requests : List SearchRequest) (state : σ) :
    searchEach { config with embeddingCacheSize := capacity } world requests state =
      searchEach config world requests state := by
  induction requests generalizing state with
  | nil => rfl
  | cons request rest ih => simp only [searchEach, search_resize, ih]

/-- What a new service makes of some searches: how they end, and the state in which they leave the world.
The room for embeddings is part of its configuration. -/
def searchAnew (config : RetrievalConfig) (own : World τ)
    (embedder : String → Nat → TimedAnswer Vector32) (digest : String → String)
    (requests : List SearchRequest) (state : τ) : List (Ending SearchResult) × τ :=
  let (endings, last) := searchEach config (own.remembering embedder) requests
    (state, { capacity := config.embeddingCacheSize, digest })
  (endings, last.1)

/-- A new service does what is done without a cache. -/
theorem searchAnew_eq (distinct : DigestsApart digest (queriesByMeaning requests))
    (ignored : BlanksIgnored embedder config.embeddingTimeout (queriesByMeaning requests))
    (capacity : Nat) (state : τ) :
    searchAnew { config with embeddingCacheSize := capacity } own embedder digest requests state =
      searchEach config (own.forgetting embedder) requests state := by
  obtain ⟨after, -, same⟩ := searchEach_remembering own distinct ignored (fun _ member => member)
    state (QueryCache.truthful_empty capacity)
  unfold searchAnew
  rw [searchEach_resize, same]

/-- **The room for embeddings does not show.**  Whatever the notes and the settings say and the embedder
makes of a query, a new service comes to the same results for some searches as one that remembers no
embeddings, and leaves the world in the same state.  For this no two of the trimmed queries may have the same
digest, and queries that differ only in the blanks around them have to come to the same embedding. -/
theorem same_results_with_any_room (config : RetrievalConfig) (own : World τ) (state : τ)
    (distinct : DigestsApart digest (queriesByMeaning requests))
    (ignored : BlanksIgnored embedder config.embeddingTimeout (queriesByMeaning requests))
    (capacity : Nat) :
    searchAnew { config with embeddingCacheSize := capacity } own embedder digest requests state =
      searchAnew { config with embeddingCacheSize := 0 } own embedder digest requests state := by
  rw [searchAnew_eq distinct ignored, searchAnew_eq distinct ignored]

/-- A note of a user called u, with one stretch. -/
def noteOfU (id title : String) (embedding : Vector32) (notes : NoteStore) : NoteStore :=
  notes.upsert { id, ownerId := "u", title, plainContent := title, updatedAt := default }
    [⟨title, embedding⟩]

/-- A rehearsal with a note about trees and one about the sea. -/
def treesAndSea : Rehearsal :=
  { archive := { Archive.empty 0 with
      notes := noteOfU "n" "Trees" [1, 0] (noteOfU "m" "Sea" [0, 1] {}) } }

/-- How the user's searches for some queries end, with room for so many embeddings. -/
def resultsFor (embedder : String → Nat → TimedAnswer Vector32) (digest : String → String)
    (queries : List String) (capacity : Nat) : List (Ending SearchResult) × Rehearsal :=
  searchAnew { embeddingCacheSize := capacity } Rehearsal.world embedder digest
    (queries.map (⟨"u", ·, {}⟩)) treesAndSea

/-- The identifiers of the notes that each search found. -/
def foundIds (results : List (Ending SearchResult) × Rehearsal) : List (List String) :=
  results.1.map fun
    | .done result => result.documents.map (·.id)
    | .failed _ | .crashed | .brokenOff => []

/-- An embedder for which a text is about trees, whatever blanks are around it. -/
def treesHoweverSpaced (text : String) (_limit : Nat) : TimedAnswer Vector32 :=
  .inTime (.ok (if Text.trim text = "tall trees grow" then [1, 0] else [0, 1]))

/-- The length of a text for its digest. -/
def lengthOf (text : String) : String :=
  toString text.length

/-- Queries about trees and the sea, with blanks around some of them. -/
def spacedQueries : List String :=
  ["tall trees grow", " tall trees grow", "deep sea waves", "tall trees grow "]

/-- With room for one embedding, which is used for a query that differs in its blanks and is then
forgotten for another query, the same notes are found as without room. -/
theorem same_results_with_room_for_one :
    let queries := queriesByMeaning (spacedQueries.map (⟨"u", ·, {}⟩))
    queries = spacedQueries ∧ DigestsApart lengthOf queries ∧
      BlanksIgnored treesHoweverSpaced ({} : RetrievalConfig).embeddingTimeout queries ∧
      foundIds (resultsFor treesHoweverSpaced lengthOf spacedQueries 1) =
        [["n"], ["n"], ["m"], ["n"]] ∧
      resultsFor treesHoweverSpaced lengthOf spacedQueries 1 =
        resultsFor treesHoweverSpaced lengthOf spacedQueries 0 := by
  have evaluated : queriesByMeaning (spacedQueries.map (⟨"u", ·, {}⟩)) = spacedQueries ∧
      foundIds (resultsFor treesHoweverSpaced lengthOf spacedQueries 1) =
        [["n"], ["n"], ["m"], ["n"]] := by decide +kernel
  have distinct : DigestsApart lengthOf (queriesByMeaning (spacedQueries.map (⟨"u", ·, {}⟩))) := by
    rw [evaluated.1]
    unfold DigestsApart
    decide +kernel
  have ignored : BlanksIgnored treesHoweverSpaced ({} : RetrievalConfig).embeddingTimeout
      (queriesByMeaning (spacedQueries.map (⟨"u", ·, {}⟩))) :=
    fun one _ other _ same => by rw [treesHoweverSpaced, treesHoweverSpaced, same]
  exact ⟨evaluated.1, distinct, ignored, evaluated.2,
    same_results_with_any_room {} _ _ distinct ignored 1⟩

/-- An embedder for which a text is about trees only as it is written here. -/
def treesAsWritten (text : String) (_limit : Nat) : TimedAnswer Vector32 :=
  .inTime (.ok (if text = "tall trees grow" then [1, 0] else [0, 1]))

/-- A query, and the same with a blank before it. -/
def queryTwice : List String :=
  ["tall trees grow", " tall trees grow"]

/-- **An embedder that heeds blanks shows the room for embeddings.**  A text is its own digest here.  With
room for one embedding the query with a blank before it finds the note about trees, because the trimmed
query was embedded before; without room it finds the note about the sea. -/
theorem blanks_tell_the_room :
    DigestsApart id queryTwice ∧
      foundIds (resultsFor treesAsWritten id queryTwice 1) = [["n"], ["n"]] ∧
      foundIds (resultsFor treesAsWritten id queryTwice 0) = [["n"], ["m"]] ∧
      (resultsFor treesAsWritten id queryTwice 1).1 ≠ (resultsFor treesAsWritten id queryTwice 0).1 := by
  have found : foundIds (resultsFor treesAsWritten id queryTwice 1) = [["n"], ["n"]] ∧
      foundIds (resultsFor treesAsWritten id queryTwice 0) = [["n"], ["m"]] := by decide +kernel
  refine ⟨fun _ _ _ _ same => same, found.1, found.2, fun same => ?_⟩
  have notesSame : foundIds (resultsFor treesAsWritten id queryTwice 1) =
      foundIds (resultsFor treesAsWritten id queryTwice 0) := by
    unfold foundIds
    rw [same]
  rw [found.1, found.2] at notesSame
  exact absurd notesSame (by decide)

end Retrieval

end NoteDialogue
