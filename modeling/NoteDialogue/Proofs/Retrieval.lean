import Mathlib.Data.List.Nodup
import NoteDialogue.Proofs.Course
import NoteDialogue.Retrieval

/-!
# What a search asks and finds

A query is searched by words or by its meaning (`wordSearch?`).  Either way the first question tells
that a search has begun, and no later question of the search looks like it (`search_opens`).  Two
searches that begin alike find the same notes, or neither finds any (`documents_unique`).

When every note has its own identifier, a search finds notes with distinct identifiers, and no more of
them than it may return (`search_distinct`).
-/

set_option autoImplicit false

namespace NoteDialogue

open Interaction

/-! ## The two ways of searching -/

/-- What is looked for by words, and among which notes. -/
structure WordSearch where
  strategy : SearchStrategy
  terms : String
  filter : NoteFilter

namespace Retrieval

/-- The search by words that a query calls for; none when it is searched by its meaning. -/
def wordSearch? (query : String) (filter : NoteFilter) : Option WordSearch :=
  match Query.filtered? query with
  | some filtered => some ⟨.filtered, filtered.terms, filter.mergedWith filtered.filter⟩
  | none =>
      if !filter.isEmpty then some ⟨.filtered, Query.literalTerms query, filter⟩
      else if Query.strategy query == .semantic then none
      else some ⟨.literal, Query.literalTerms query, {}⟩

variable {config : RetrievalConfig} {ownerId query : String} {filter : NoteFilter}

theorem find_of_words {words : WordSearch} (byWords : wordSearch? query filter = some words) :
    find config ownerId query filter =
      (literal config ownerId words.terms words.filter).andThen fun documents =>
        .done (words.strategy, documents) := by
  unfold wordSearch? at byWords
  unfold find
  cases opened : Query.filtered? query with
  | some filtered =>
      rw [opened] at byWords
      cases byWords
      rfl
  | none =>
      rw [opened] at byWords
      by_cases restricted : (!filter.isEmpty) = true
      · simp only [if_pos restricted] at byWords ⊢
        cases byWords
        rfl
      · by_cases meant : (Query.strategy query == .semantic) = true
        · simp only [if_neg restricted, if_pos meant, reduceCtorEq] at byWords
        · simp only [if_neg restricted, if_neg meant] at byWords ⊢
          cases byWords
          rfl

theorem find_of_meaning (byMeaning : wordSearch? query filter = none) :
    find config ownerId query filter =
      (semantic config ownerId query).andThen fun documents => .done (.semantic, documents) := by
  unfold wordSearch? at byMeaning
  unfold find
  cases opened : Query.filtered? query with
  | some filtered =>
      rw [opened] at byMeaning
      cases byMeaning
  | none =>
      rw [opened] at byMeaning
      by_cases restricted : (!filter.isEmpty) = true
      · simp only [if_pos restricted, reduceCtorEq] at byMeaning
      · by_cases meant : (Query.strategy query == .semantic) = true
        · simp only [if_neg restricted, if_pos meant]
          rfl
        · simp only [if_neg restricted, if_neg meant, reduceCtorEq] at byMeaning

/-! ## Courses of a search -/

/-- What a search makes of the notes that were found and of the live threshold. -/
def resultOf (config : RetrievalConfig) (query : String) (strategy : SearchStrategy)
    (documents : List Document) (live : Option String) : SearchResult :=
  { documents, strategy,
    ambiguity := ambiguity query documents (multiDocThresholdOf live config.multiDocThreshold) }

/-- The question for the notes that hold the terms. -/
def wordQuestion (config : RetrievalConfig) (ownerId : String) (words : WordSearch) : Ask :=
  .lookUp (.notesByTerms ownerId words.terms words.filter config.topK)

/-- The question for the live threshold of ambiguous results. -/
def thresholdQuestion : Ask := .lookUp (.setting multiDocThresholdName)

theorem search_eq (config : RetrievalConfig) (ownerId query : String) (filter : NoteFilter) :
    search config ownerId query filter =
      (find config ownerId query filter).andThen fun (strategy, documents) =>
        (lookUp (.setting multiDocThresholdName)).andThen fun live =>
          .done (resultOf config query strategy documents live) := rfl

/-- A search by words asks for notes.  When it gets them it asks for the threshold as well. -/
theorem search_takes_of_words {words : WordSearch} {course : Course}
    {ending : Ending SearchResult} (byWords : wordSearch? query filter = some words)
    (taken : (search config ownerId query filter).Takes course ending)
    (finished : ending ≠ .brokenOff) :
    (∃ failure : Failure, course = [⟨wordQuestion config ownerId words,
        (.error failure : Except Failure (List Note))⟩] ∧ ending = .failed failure) ∨
      ∃ (notes : List Note) (live : Option String),
        course = [⟨wordQuestion config ownerId words, (.ok notes : Except Failure (List Note))⟩,
          ⟨thresholdQuestion, live⟩] ∧
        ending = .done (resultOf config query words.strategy
          (notes.map (Document.ofNote none)) live) := by
  rw [search_eq, find_of_words byWords] at taken
  rcases takes_ask.mp taken with ⟨-, broken⟩ | ⟨answer, rest, rfl, further⟩
  · exact absurd broken finished
  · cases answer with
    | error failure =>
        obtain ⟨rfl, rfl⟩ := takes_failed.mp further
        exact .inl ⟨failure, rfl, rfl⟩
    | ok notes =>
        rcases takes_ask.mp further with ⟨-, broken⟩ | ⟨live, rest, rfl, last⟩
        · exact absurd broken finished
        · obtain ⟨rfl, rfl⟩ := takes_done.mp last
          exact .inr ⟨notes, live, rfl, rfl⟩

/-! ## How a search begins -/

/-- The questions that open a search: for remembered embeddings, and for notes by their words. -/
def opensSearch : Ask → Bool
  | .lookUp (.recollect _) | .lookUp (.notesByTerms _ _ _ _) => true
  | _ => false

/-- The questions that neither call the model nor open a search. -/
def IsPlain (question : Ask) : Prop := question.purpose? = none ∧ opensSearch question = false

theorem semantic_after_recollecting (config : RetrievalConfig) (ownerId query : String) :
    ∃ next, semantic config ownerId query = .ask (.lookUp (.recollect query)) next ∧
      ∀ answer, (next answer).AsksOnly IsPlain := by
  refine ⟨_, rfl, fun remembered => ?_⟩
  refine AsksOnly.andThen ?_ fun embedding => ?_
  · cases remembered with
    | some embedding => trivial
    | none =>
        refine ⟨⟨rfl, rfl⟩, fun answer => ?_⟩
        rcases answer with (failure | embedding) | _
        · trivial
        · exact ⟨⟨rfl, rfl⟩, fun _ => trivial⟩
        · trivial
  · refine AsksOnly.andThen (.lookUp ⟨rfl, rfl⟩) fun live => ?_
    refine AsksOnly.andThen (.lookUp ⟨rfl, rfl⟩) fun hits => ?_
    refine AsksOnly.andThen (.ofExcept hits) fun hits => ?_
    refine AsksOnly.andThen (.forEach (fun hit => ?_) _) fun found => trivial
    refine AsksOnly.andThen (.lookUp ⟨rfl, rfl⟩) fun note => ?_
    exact AsksOnly.andThen (.ofExcept note) fun _ => trivial

/-- A search by meaning first asks for the remembered embedding of the query. -/
theorem search_of_meaning (config : RetrievalConfig) (ownerId : String)
    (byMeaning : wordSearch? query filter = none) :
    ∃ next, search config ownerId query filter = .ask (.lookUp (.recollect query)) next ∧
      ∀ answer, (next answer).AsksOnly IsPlain := by
  obtain ⟨next, same, later⟩ := semantic_after_recollecting config ownerId query
  rw [search_eq, find_of_meaning byMeaning, same]
  refine ⟨_, rfl, fun answer => ?_⟩
  refine AsksOnly.andThen (AsksOnly.andThen (later answer) fun documents => ?_) fun found => ?_
  · trivial
  · exact AsksOnly.andThen (.lookUp ⟨rfl, rfl⟩) fun live => trivial

/-- The question with which a search begins. -/
def openingQuestion (config : RetrievalConfig) (ownerId query : String) (filter : NoteFilter) : Ask :=
  match wordSearch? query filter with
  | some words => wordQuestion config ownerId words
  | none => .lookUp (.recollect query)

theorem opensSearch_openingQuestion : opensSearch (openingQuestion config ownerId query filter) = true := by
  unfold openingQuestion
  cases wordSearch? query filter <;> rfl

/-- A search that is not broken off begins with its opening question and asks no other of that kind. -/
theorem search_opens {course : Course} {ending : Ending SearchResult}
    (taken : (search config ownerId query filter).Takes course ending)
    (finished : ending ≠ .brokenOff) :
    ∃ first rest, course = first :: rest ∧
      first.question = openingQuestion config ownerId query filter ∧
      ∀ step ∈ rest, IsPlain step.question := by
  unfold openingQuestion
  cases called : wordSearch? query filter with
  | some words =>
      rcases search_takes_of_words called taken finished with
        ⟨failure, rfl, rfl⟩ | ⟨notes, live, rfl, rfl⟩
      · exact ⟨_, _, rfl, rfl, by simp⟩
      · exact ⟨_, _, rfl, rfl, List.forall_mem_singleton.mpr ⟨rfl, rfl⟩⟩
  | none =>
      obtain ⟨next, same, later⟩ := search_of_meaning config ownerId called
      rw [same] at taken
      rcases takes_ask.mp taken with ⟨-, broken⟩ | ⟨answer, rest, rfl, further⟩
      · exact absurd broken finished
      · exact ⟨_, rest, rfl, rfl, further.asked (later answer)⟩

/-- The same answer to the same question about notes. -/
theorem same_notes {words otherWords : WordSearch} {answer otherAnswer : Except Failure (List Note)}
    (same : (⟨wordQuestion config ownerId words, answer⟩ : Answered) =
      ⟨wordQuestion config ownerId otherWords, otherAnswer⟩) : answer = otherAnswer := by
  obtain ⟨-, alike⟩ := Answered.mk.inj same
  have sameType : HEq answer otherAnswer := alike
  exact eq_of_heq sameType

/-- Two searches for an owner that begin alike find the same notes: one that finds any cannot go on like
another that fails. -/
theorem documents_unique {other : String} {first second firstRest secondRest : Course}
    {found : SearchResult} {ending : Ending SearchResult}
    (one : (search config ownerId query filter).Takes first (.done found))
    (two : (search config ownerId other filter).Takes second ending) (finished : ending ≠ .brokenOff)
    (agree : first ++ firstRest = second ++ secondRest) :
    first = second ∧ firstRest = secondRest ∧
      ∃ alike, ending = .done alike ∧ alike.documents = found.documents := by
  obtain ⟨head, tail, split, opening, -⟩ := search_opens one nofun
  obtain ⟨otherHead, otherTail, otherSplit, otherOpening, -⟩ := search_opens two finished
  have sameOpening : openingQuestion config ownerId query filter =
      openingQuestion config ownerId other filter := by
    rw [split, otherSplit] at agree
    rw [← opening, ← otherOpening, (List.cons.inj agree).1]
  unfold openingQuestion at sameOpening
  -- The opening question tells the way of searching, so the two searches go the same way.
  cases called : wordSearch? query filter with
  | some words =>
      cases otherCalled : wordSearch? other filter with
      | none =>
          rw [called, otherCalled] at sameOpening
          cases sameOpening
      | some otherWords =>
          rcases search_takes_of_words called one nofun with
            ⟨failure, -, impossible⟩ | ⟨notes, live, rfl, isResult⟩
          · cases impossible
          cases isResult
          rcases search_takes_of_words otherCalled two finished with
            ⟨failure, rfl, rfl⟩ | ⟨otherNotes, otherLive, rfl, rfl⟩
          · cases same_notes (List.cons.inj agree).1
          · obtain ⟨sameFirst, sameTail⟩ := List.cons.inj agree
            obtain ⟨sameSecond, sameRest⟩ := List.cons.inj sameTail
            have sameNotes := Except.ok.inj (same_notes sameFirst)
            rw [sameFirst, sameSecond]
            exact ⟨rfl, sameRest, _, rfl, by rw [sameNotes]; rfl⟩
  | none =>
      cases otherCalled : wordSearch? other filter with
      | some otherWords =>
          rw [called, otherCalled] at sameOpening
          cases sameOpening
      | none =>
          rw [called, otherCalled] at sameOpening
          cases sameOpening
          obtain ⟨sameCourse, sameEnding, sameRest⟩ := one.unique two nofun finished agree
          exact ⟨sameCourse, sameRest, found, sameEnding.symm, rfl⟩

/-! ## The best hit of each note -/

section FirstOfEach

variable {α κ : Type} [BEq κ] [LawfulBEq κ] {key : α → κ}

/-- What is kept beside items that are kept already is new. -/
theorem firstOfEach_from (key : α → κ) (items kept : List α) :
    items.foldl (fun kept item =>
        if kept.any (fun other => key other == key item) then kept else kept ++ [item]) kept =
      kept ++ (firstOfEach key items).filter fun item => !kept.any fun other => key other == key item := by
  induction items generalizing kept with
  | nil => exact (List.append_nil kept).symm
  | cons first rest ih =>
      have fromFirst : firstOfEach key (first :: rest) =
          first :: (firstOfEach key rest).filter fun item => !(key first == key item) := by
        have begun := ih [first]
        simp only [List.any_cons, List.any_nil, Bool.or_false, List.singleton_append] at begun
        exact begun
      rw [List.foldl_cons, fromFirst, List.filter_cons]
      by_cases seen : (kept.any fun other => key other == key first) = true
      · rw [if_pos seen, ih kept, if_neg (by rw [seen]; exact Bool.false_ne_true), List.filter_filter]
        refine congrArg (kept ++ ·) (List.filter_congr fun item _ => ?_)
        by_cases same : key first = key item
        · rw [← same, seen]
          rfl
        · rw [beq_eq_false_iff_ne.mpr same, Bool.not_false, Bool.and_true]
      · rw [if_neg seen, ih (kept ++ [first]), if_pos (by simpa using seen), List.filter_filter,
          List.append_assoc, List.singleton_append]
        simp only [List.any_append, List.any_cons, List.any_nil, Bool.or_false, Bool.not_or]

theorem firstOfEach_cons (first : α) (rest : List α) :
    firstOfEach key (first :: rest) =
      first :: (firstOfEach key rest).filter fun item => !(key first == key item) := by
  have begun := firstOfEach_from key rest [first]
  simp only [List.any_cons, List.any_nil, Bool.or_false, List.singleton_append] at begun
  exact begun

theorem firstOfEach_sublist (items : List α) : (firstOfEach key items).Sublist items := by
  induction items with
  | nil => exact List.Sublist.slnil
  | cons first rest ih =>
      rw [firstOfEach_cons]
      exact (List.filter_sublist.trans ih).cons_cons first

/-- Of the items that are kept no two have the same key. -/
theorem nodup_firstOfEach (key : α → κ) (items : List α) : ((firstOfEach key items).map key).Nodup := by
  induction items with
  | nil => exact List.nodup_nil
  | cons first rest ih =>
      rw [firstOfEach_cons, List.map_cons, List.nodup_cons]
      refine ⟨fun again => ?_, ih.sublist (List.filter_sublist.map key)⟩
      obtain ⟨item, member, same⟩ := List.mem_map.mp again
      have new := (List.mem_filter.mp member).2
      rw [same, beq_self_eq_true] at new
      cases new

/-- Items with different keys are all kept. -/
theorem firstOfEach_of_nodup {items : List α} (distinct : (items.map key).Nodup) :
    firstOfEach key items = items := by
  induction items with
  | nil => rfl
  | cons first rest ih =>
      obtain ⟨new, later⟩ := List.nodup_cons.mp distinct
      have othersDiffer : ∀ item ∈ rest, (!(key first == key item)) = true := by
        intro item member
        have differs : key first ≠ key item := fun same => new (List.mem_map.mpr ⟨item, member, same.symm⟩)
        rw [beq_eq_false_iff_ne.mpr differs, Bool.not_false]
      rw [firstOfEach_cons, ih later, List.filter_eq_self.mpr othersDiffer]

/-- It does not matter for what is kept whether items with other keys are left out. -/
theorem filter_firstOfEach (passes : κ → Bool) (items : List α) :
    (firstOfEach key items).filter (fun item => passes (key item)) =
      firstOfEach key (items.filter fun item => passes (key item)) := by
  induction items with
  | nil => rfl
  | cons first rest ih =>
      rw [firstOfEach_cons, List.filter_cons, List.filter_cons]
      by_cases kept : passes (key first) = true
      · rw [if_pos kept, if_pos kept, firstOfEach_cons, ← ih, List.filter_comm]
      · rw [if_neg kept, if_neg kept, ← ih, List.filter_filter]
        refine List.filter_congr fun item _ => ?_
        by_cases same : key first = key item
        · rw [← same, Bool.eq_false_iff.mpr kept, Bool.false_and]
        · rw [beq_eq_false_iff_ne.mpr same, Bool.not_false, Bool.and_true]

/-- The item that is kept of those with one key comes before all others. -/
theorem exists_firstOfEach (key : α → κ) {before : α → α → Prop} (self : ∀ item, before item item)
    {items : List α} (ordered : items.Pairwise before) {item : α} (member : item ∈ items) :
    ∃ kept ∈ firstOfEach key items, key kept = key item ∧ before kept item := by
  induction items with
  | nil => cases member
  | cons first rest ih =>
      obtain ⟨leads, ordered⟩ := List.pairwise_cons.mp ordered
      rw [firstOfEach_cons]
      rcases List.mem_cons.mp member with rfl | later
      · exact ⟨item, List.mem_cons_self, rfl, self item⟩
      · obtain ⟨kept, isKept, sameKey, precedes⟩ := ih ordered later
        by_cases same : key first = key kept
        · exact ⟨first, List.mem_cons_self, same.trans sameKey, leads item later⟩
        · refine ⟨kept, List.mem_cons_of_mem _ (List.mem_filter.mpr ⟨isKept, ?_⟩), sameKey, precedes⟩
          rw [beq_eq_false_iff_ne.mpr same, Bool.not_false]

/-- What is kept comes before all else with its key. -/
theorem exists_before_of_firstOfEach {items : List α} {item : α} (kept : item ∈ firstOfEach key items) :
    ∃ before after, items = before ++ item :: after ∧ ∀ other ∈ before, key other ≠ key item := by
  induction items with
  | nil => cases kept
  | cons first rest ih =>
      rw [firstOfEach_cons] at kept
      rcases List.mem_cons.mp kept with rfl | later
      · exact ⟨[], rest, rfl, List.forall_mem_nil _⟩
      · obtain ⟨keptLater, differs⟩ := List.mem_filter.mp later
        obtain ⟨before, after, rfl, others⟩ := ih keptLater
        refine ⟨first :: before, after, rfl, List.forall_mem_cons.mpr ⟨?_, others⟩⟩
        exact beq_eq_false_iff_ne.mp (by simpa using differs)

end FirstOfEach

theorem nodup_bestHits (hits : List ChunkHit) (limit : Nat) :
    ((bestHits hits limit).map (·.noteId)).Nodup := by
  rw [bestHits, List.map_take]
  exact (nodup_firstOfEach ChunkHit.noteId _).sublist (List.take_sublist _ _)

/-! ## Distinct notes are found -/

/-- What is said of notes when every note has its own identifier. -/
def OfDistinctNotes : Answered → Prop
  | ⟨.lookUp (.noteById _ noteId), answer⟩ =>
      ∀ note : Note, answer = (.ok (some note) : Except Failure (Option Note)) → note.id = noteId
  | ⟨.lookUp (.notesByTerms _ _ _ limit), answer⟩ =>
      ∀ notes : List Note, answer = (.ok notes : Except Failure (List Note)) →
        (notes.map (·.id)).Nodup ∧ notes.length ≤ limit
  | _ => True

theorem ids_of_documents (relevance : Option Float32) (notes : List Note) :
    (notes.map (Document.ofNote relevance)).map (·.id) = notes.map (·.id) := by
  rw [List.map_map]
  rfl

theorem lookUpHit_takes_done {hit : ChunkHit} {course : Course} {document : Option Document} :
    (lookUpHit ownerId hit).Takes course (.done document) ↔
      ∃ note : Option Note,
        course = [⟨.lookUp (.noteById ownerId hit.noteId), (.ok note : Except Failure (Option Note))⟩] ∧
        document = note.map (Document.ofNote (some (clampScore hit.score))) := by
  constructor
  · intro taken
    obtain ⟨first, second, answer, rfl, asked, rest⟩ := takes_andThen_done.mp taken
    obtain rfl := takes_lookUp_done.mp asked
    obtain ⟨third, fourth, note, rfl, given, last⟩ := takes_andThen_done.mp rest
    obtain ⟨rfl, isNote⟩ := takes_ofExcept_done.mp given
    obtain ⟨rfl, isDocument⟩ := takes_done.mp last
    subst isNote
    cases isDocument
    exact ⟨note, rfl, rfl⟩
  · rintro ⟨note, rfl, rfl⟩
    exact .ask _ _ _ (.done _)

/-- The notes of some hits, as far as they are still there, in the order of the hits. -/
theorem lookUpHits_sublist {hits : List ChunkHit} {course : Course} {found : List (Option Document)}
    (taken : (forEach (lookUpHit ownerId) hits).Takes course (.done found))
    (distinct : ∀ step ∈ course, OfDistinctNotes step) :
    ((found.filterMap id).map (·.id)).Sublist (hits.map (·.noteId)) := by
  induction hits generalizing course found with
  | nil =>
      obtain ⟨-, isFound⟩ := takes_done.mp taken
      cases isFound
      exact List.Sublist.slnil
  | cons hit rest ih =>
      obtain ⟨first, others, document, rfl, one, taken⟩ := takes_andThen_done.mp taken
      obtain ⟨middle, last, documents, rfl, more, taken⟩ := takes_andThen_done.mp taken
      obtain ⟨rfl, isFound⟩ := takes_done.mp taken
      cases isFound
      obtain ⟨note, rfl, rfl⟩ := lookUpHit_takes_done.mp one
      have later := ih more fun step member =>
        distinct step (List.mem_append_right _ (List.mem_append_left _ member))
      cases note with
      | none => exact later.cons hit.noteId
      | some note =>
          have sameId : note.id = hit.noteId := distinct _ List.mem_cons_self note rfl
          have shown : ((some (Document.ofNote (some (clampScore hit.score)) note) ::
              documents).filterMap id).map (·.id) =
                hit.noteId :: (documents.filterMap id).map (·.id) := by
            rw [← sameId]
            rfl
          exact shown ▸ later.cons_cons hit.noteId

/-- A search by meaning recalls the embedding of the query, asks for the threshold and for the chunks that
pass it, and looks up the notes of the best hits. -/
theorem semantic_takes_done {course : Course} {documents : List Document} :
    (semantic config ownerId query).Takes course (.done documents) ↔
      ∃ (recalling : Course) (embedding : Vector32) (live : Option String) (hits : List ChunkHit)
        (lookups : Course) (found : List (Option Document)),
        course = recalling ++
          (⟨.lookUp (.setting similarityThresholdName), live⟩ ::
            ⟨.lookUp (.similarChunks ownerId embedding (config.topK * 3)
              (similarityThresholdOf live config.similarityThreshold)),
              (.ok hits : Except Failure (List ChunkHit))⟩ :: lookups) ∧
        (queryEmbedding config query).Takes recalling (.done embedding) ∧
        (forEach (lookUpHit ownerId) (bestHits hits config.topK)).Takes lookups (.done found) ∧
        documents = found.filterMap id := by
  constructor
  · intro taken
    obtain ⟨recalling, rest, embedding, rfl, recalls, taken⟩ := takes_andThen_done.mp taken
    obtain ⟨setting, rest, live, rfl, asked, taken⟩ := takes_andThen_done.mp taken
    obtain ⟨similar, rest, answer, rfl, compared, taken⟩ := takes_andThen_done.mp taken
    obtain ⟨none, rest, hits, rfl, given, taken⟩ := takes_andThen_done.mp taken
    obtain ⟨lookups, rest, found, rfl, looked, taken⟩ := takes_andThen_done.mp taken
    obtain ⟨rfl, isResult⟩ := takes_done.mp taken
    obtain rfl := takes_lookUp_done.mp asked
    obtain rfl := takes_lookUp_done.mp compared
    obtain ⟨rfl, isGiven⟩ := takes_ofExcept_done.mp given
    subst isGiven
    cases isResult
    exact ⟨recalling, embedding, live, hits, lookups, found, by simp, recalls, looked, rfl⟩
  · rintro ⟨recalling, embedding, live, hits, lookups, found, rfl, recalls, looked, rfl⟩
    refine takes_andThen_done.mpr ⟨recalling, _, embedding, rfl, recalls, ?_⟩
    refine takes_andThen_done.mpr ⟨[_], _, live, rfl, takes_lookUp_done.mpr rfl, ?_⟩
    refine takes_andThen_done.mpr ⟨[_], _, .ok hits, rfl, takes_lookUp_done.mpr rfl, ?_⟩
    refine takes_andThen_done.mpr ⟨[], lookups, hits, rfl, takes_ofExcept_done.mpr ⟨rfl, rfl⟩, ?_⟩
    exact takes_andThen_done.mpr ⟨lookups, [], found, by simp, looked, takes_done.mpr ⟨rfl, rfl⟩⟩

theorem semantic_distinct {course : Course} {documents : List Document}
    (taken : (semantic config ownerId query).Takes course (.done documents))
    (distinct : ∀ step ∈ course, OfDistinctNotes step) :
    (documents.map (·.id)).Nodup ∧ documents.length ≤ config.topK := by
  obtain ⟨recalling, embedding, live, hits, lookups, found, rfl, -, looked, rfl⟩ :=
    semantic_takes_done.mp taken
  have sub := lookUpHits_sublist looked fun step member =>
    distinct step (List.mem_append_right _ (List.mem_cons_of_mem _ (List.mem_cons_of_mem _ member)))
  have bounded : (bestHits hits config.topK).length ≤ config.topK := List.length_take_le _ _
  have fewer := sub.length_le
  rw [List.length_map, List.length_map] at fewer
  exact ⟨(nodup_bestHits hits config.topK).sublist sub, Nat.le_trans fewer bounded⟩

/-- **A search finds notes with distinct identifiers**, no more than it may return. -/
theorem search_distinct {course : Course} {found : SearchResult}
    (taken : (search config ownerId query filter).Takes course (.done found))
    (distinct : ∀ step ∈ course, OfDistinctNotes step) :
    (found.documents.map (·.id)).Nodup ∧ found.documents.length ≤ config.topK := by
  cases called : wordSearch? query filter with
  | some words =>
      rcases search_takes_of_words called taken nofun with
        ⟨failure, -, impossible⟩ | ⟨notes, live, rfl, isResult⟩
      · cases impossible
      cases isResult
      have answered : (notes.map (·.id)).Nodup ∧ notes.length ≤ config.topK :=
        distinct _ List.mem_cons_self notes rfl
      refine ⟨?_, ?_⟩
      · rw [resultOf, ids_of_documents]
        exact answered.1
      · rw [resultOf, List.length_map]
        exact answered.2
  | none =>
      rw [search_eq, find_of_meaning called] at taken
      obtain ⟨finding, last, ⟨strategy, documents⟩, rfl, finds, rest⟩ := takes_andThen_done.mp taken
      obtain ⟨meaning, none, given, rfl, means, isFound⟩ := takes_andThen_done.mp finds
      obtain ⟨rfl, isFound⟩ := takes_done.mp isFound
      cases isFound
      obtain ⟨setting, none, live, rfl, -, isResult⟩ := takes_andThen_done.mp rest
      obtain ⟨rfl, isResult⟩ := takes_done.mp isResult
      cases isResult
      exact semantic_distinct means fun step member =>
        distinct step (List.mem_append_left _ (List.mem_append_left _ member))

end Retrieval

end NoteDialogue
