import NoteDialogue.Archive
import NoteDialogue.Proofs.Notes.Words
import NoteDialogue.Proofs.Query
import NoteDialogue.Proofs.Retrieval

/-!
# Searches within a restriction

A search by words asks two things, the notes that hold the words and the threshold of ambiguous results, and never
an embedder.  In a world that looks notes up in a store it comes to what the store finds
(`Retrieval.trace_of_words`).  So a query that opens with a restriction is searched within it, whatever its text is
(`Retrieval.restricted_finds`): among the notes of a notebook for those that hold some terms, or for the notes with a
title, the latest first.
-/

set_option autoImplicit false

namespace NoteDialogue

open Interaction (trace)
open Text (isBlankText trim)

/-! ## Names and times -/

/-- Names are compared as they are when they are trimmed. -/
theorem sameName_trim (name other : String) : sameName (trim name) other = sameName name other := by
  rw [sameName, sameName, Text.trimChars_trim]

/-- The notes from the latest to the earliest one.  Notes of the same time stand as they stood. -/
structure LatestFirst (notes ordered : List Note) : Prop where
  perm : ordered.Perm notes
  latest : ordered.Pairwise fun left right => ¬ left.updatedAt.isBefore right.updatedAt
  stable : ∀ time : Timestamp, ordered.filter (·.updatedAt = time) = notes.filter (·.updatedAt = time)

theorem LiteralTerms.group_of_blank {text : String} (blank : isBlankText text = true) (note : Note) :
    (ofText text).group note = 0 := by
  rw [group, phrase_ofText_eq_nil_iff.mpr blank, if_pos]
  exact List.nil_infix

/-- By blank terms notes are ranked by their times alone. -/
theorem LiteralTerms.IsRanking.latestFirst {text : String} (blank : isBlankText text = true)
    {notes ranking : List Note} (isRanking : (ofText text).IsRanking notes ranking) :
    LatestFirst notes ranking where
  perm := isRanking.perm
  latest := isRanking.ordered.imp fun {left right} precedes => by
    simpa [MayPrecede, group_of_blank blank] using precedes
  stable time := by
    have kept := isRanking.stable 0 time
    simpa [alike, group_of_blank blank] using kept

/-- Without terms the search in a store finds the latest notes that pass the restriction. -/
theorem NoteStore.searchLiteral_of_blank (store : NoteStore) (ownerId : String) {text : String}
    (blank : isBlankText text = true) (filter : NoteFilter) :
    ∃ ordered, LatestFirst ((store.ownedNotes ownerId).filter (filter.admits ·)) ordered ∧
      ∀ limit, store.searchLiteral ownerId text filter limit = ordered.take limit := by
  refine ⟨rankNotes (.ofText text) filter (store.ownedNotes ownerId), ?_, fun _ => rfl⟩
  rw [LiteralTerms.rankNotes_eq]
  have matching := LiteralTerms.matches_of_blank blank
  simp only [matching, and_true, Bool.decide_eq_true]
  exact (LiteralTerms.isRanking_mergeSort _ _).latestFirst blank

/-! ## Worlds with a store -/

namespace World

variable {σ : Type}

/-- Notes are looked up by their words in a store, without failures, and so are settings somewhere.  Whatever else
the world is asked it may answer as it likes, or not at all. -/
structure SearchesIn (world : World σ) (notes : σ → NoteStore) : Prop where
  byTerms : ∀ ownerId terms filter limit state,
    (world.answer (.lookUp (.notesByTerms ownerId terms filter limit)) state).1 =
      some (.ok ((notes state).searchLiteral ownerId terms filter limit) : Except Failure (List Note))
  settings : ∀ name state, (world.answer (.lookUp (.setting name)) state).1.isSome = true

end World

/-- The world of an archive, in which no provider answers. -/
def Archive.world : World Archive where
  answer
    | .lookUp lookup, archive =>
        let (answer, after) := archive.answer lookup
        (some answer, after)
    | .generate _ _ _ _, archive | .embedQuery _ _, archive | .embedPassages _, archive => (none, archive)

theorem Archive.world_searchesIn : Archive.world.SearchesIn Archive.notes where
  byTerms _ _ _ _ _ := rfl
  settings _ _ := rfl

/-! ## Searches -/

namespace Retrieval

variable {σ : Type} {world : World σ} {notes : σ → NoteStore}

/-- A search by words comes to the notes that the store finds, and asks for these and for the threshold only. -/
theorem trace_of_words (searches : world.SearchesIn notes) (config : RetrievalConfig) (ownerId : String)
    {query : String} {filter : NoteFilter} {words : WordSearch}
    (byWords : wordSearch? query filter = some words) (state : σ) :
    ∃ (live : Option String) (after : σ),
      let found := (notes state).searchLiteral ownerId words.terms words.filter config.topK
      (search config ownerId query filter).trace world state =
        (.done (resultOf config query words.strategy (found.map (Document.ofNote none)) live), after,
          [⟨wordQuestion config ownerId words, (.ok found : Except Failure (List Note))⟩,
            ⟨thresholdQuestion, live⟩]) := by
  have found := searches.byTerms ownerId words.terms words.filter config.topK state
  rcases asked : world.answer (wordQuestion config ownerId words) state with ⟨answer, next⟩
  obtain rfl : answer = some _ := (congrArg Prod.fst asked).symm.trans found
  have answered := searches.settings multiDocThresholdName next
  rcases set : world.answer thresholdQuestion next with ⟨live?, after⟩
  obtain ⟨live, rfl⟩ : ∃ live, live? = some live :=
    Option.isSome_iff_exists.mp ((congrArg (fun given => given.1.isSome) set).symm.trans answered)
  refine ⟨live, after, ?_⟩
  have last := Interaction.trace_ask set fun live => .done (resultOf config query words.strategy
    (((notes state).searchLiteral ownerId words.terms words.filter config.topK).map (Document.ofNote none)) live)
  rw [search_eq, find_of_words byWords]
  refine (Interaction.trace_ask asked _).trans ?_
  exact congrArg (fun traced => (traced.1, traced.2.1, _ :: traced.2.2)) last

/-- A search without a restriction by the caller comes to some notes within a restriction, without scores.  Nothing
is asked of a provider, only lookups are made. -/
def FindsRestricted (world : World σ) (config : RetrievalConfig) (ownerId query : String) (state : σ)
    (expected : List Note) : Prop :=
  ∃ (result : SearchResult) (after : σ) (course : Course),
    (search config ownerId query {}).trace world state = (.done result, after, course) ∧
      (∀ step ∈ course, ∃ lookup, step.question = .lookUp lookup) ∧
      result.strategy = .filtered ∧ result.documents = expected.map (Document.ofNote none)

/-- What a query is restricted to is what it says, when the caller restricts nothing. -/
theorem wordSearch?_of_filtered {query terms : String} {filter : NoteFilter}
    (filtered : Query.filtered? query = some ⟨filter, terms⟩) :
    wordSearch? query {} = some ⟨.filtered, terms, filter⟩ := by
  have merged : ({} : NoteFilter).mergedWith filter = filter := by
    simp only [NoteFilter.mergedWith, Option.or_none]
  simp only [wordSearch?, filtered, merged]

theorem findsRestricted_of_filtered (searches : world.SearchesIn notes) (config : RetrievalConfig)
    (ownerId : String) (state : σ) {query terms : String} {filter : NoteFilter}
    (filtered : Query.filtered? query = some ⟨filter, terms⟩) :
    FindsRestricted world config ownerId query state
      ((notes state).searchLiteral ownerId terms filter config.topK) := by
  obtain ⟨live, after, traced⟩ :=
    trace_of_words searches config ownerId (wordSearch?_of_filtered filtered) state
  refine ⟨_, after, _, traced, ?_, rfl, rfl⟩
  exact List.forall_mem_cons.mpr ⟨⟨_, rfl⟩, List.forall_mem_singleton.mpr ⟨_, rfl⟩⟩

/-- **A search keeps to the restriction that its query opens with**, whatever stands in the query.  With the command
for a notebook, its name in quotes and any terms, it finds the first notes that the store finds for the terms in
that notebook; with the command for a title and the title in quotes, which may hold quotes itself, it finds the
first notes of the user with that title, from the latest one on.  The commands may be written in any letter case. -/
theorem restricted_finds (searches : world.SearchesIn notes) (config : RetrievalConfig) (ownerId : String)
    (state : σ) :
    (∀ command name terms : String, Text.sameIgnoringAsciiCase command.toList "/notebook".toList →
      isBlankText name = false → '"' ∉ name.toList → ∀ limit ≥ config.topK,
        FindsRestricted world config ownerId (command ++ " \"" ++ name ++ "\" " ++ terms) state
          (((notes state).searchLiteral ownerId (trim terms) { notebook := some (trim name) } limit).take
            config.topK)) ∧
    ∀ command title : String, Text.sameIgnoringAsciiCase command.toList "/title".toList →
      isBlankText title = false →
        ∃ ordered,
          LatestFirst (((notes state).ownedNotes ownerId).filter fun note => sameName title note.title) ordered ∧
          FindsRestricted world config ownerId (command ++ " \"" ++ title ++ "\"") state
            (ordered.take config.topK) := by
  constructor
  · intro command name terms same notBlank quoteless limit enough
    have finds := findsRestricted_of_filtered searches config ownerId state
      (Query.filtered?_notebook same quoteless notBlank terms)
    have cut : ((notes state).searchLiteral ownerId (trim terms) { notebook := some (trim name) } limit).take
        config.topK =
          (notes state).searchLiteral ownerId (trim terms) { notebook := some (trim name) } config.topK := by
      rw [NoteStore.searchLiteral, List.take_take, Nat.min_eq_left enough, NoteStore.searchLiteral]
    rwa [cut]
  · intro command title same notBlank
    have finds := findsRestricted_of_filtered searches config ownerId state
      (Query.filtered?_title same notBlank)
    have blank : isBlankText "" = true := rfl
    obtain ⟨ordered, latestFirst, found⟩ :=
      (notes state).searchLiteral_of_blank ownerId blank { title := some (trim title) }
    have admitted (note : Note) :
        ({ title := some (trim title) } : NoteFilter).admits note = sameName title note.title := by
      simp only [NoteFilter.admits, sameName_trim, Bool.true_and]
    simp only [admitted] at latestFirst
    rw [found] at finds
    exact ⟨ordered, latestFirst, finds⟩

/-- A note of a user called u, with quotes in its title. -/
def olderNote : Note :=
  { id := "n", ownerId := "u", title := "the \"a\"", plainContent := "b", notebook := some "Trips",
    updatedAt := ⟨1, 0⟩ }

/-- A newer note of the same title in the same notebook, the case of letters and blanks around them apart. -/
def newerNote : Note :=
  { id := "m", ownerId := "u", title := "The \"A\" ", plainContent := "c", notebook := some " trips",
    updatedAt := ⟨2, 0⟩ }

/-- An archive with the two notes and one of somebody else. -/
def archiveOfTwo : Archive :=
  { Archive.empty 1 with
    notes := [newerNote, olderNote, { newerNote with id := "o", ownerId := "v" }].foldl NoteStore.insert {} }

/-- A search that returns one note finds the newer one of two, by either command. -/
theorem restricted_finds_newer :
    Archive.world.SearchesIn Archive.notes ∧
      FindsRestricted Archive.world { topK := 1 } "u" "/NoteBook \" TRIPS\" THE " archiveOfTwo [newerNote] ∧
      ∃ ordered, LatestFirst [newerNote, olderNote] ordered ∧
        FindsRestricted Archive.world { topK := 1 } "u" "/Title \"the \"a\"\"" archiveOfTwo (ordered.take 1) := by
  obtain ⟨inNotebook, underTitle⟩ := restricted_finds Archive.world_searchesIn { topK := 1 } "u" archiveOfTwo
  refine ⟨Archive.world_searchesIn, ?_, ?_⟩
  · have found : (archiveOfTwo.notes.searchLiteral "u" (trim "THE ")
        { notebook := some (trim " TRIPS") } 10).take 1 = [newerNote] := by
      rw [NoteStore.searchLiteral, LiteralTerms.rankNotes_eq, List.mergeSort_of_pairwise (by decide +kernel)]
      decide +kernel
    have finds := inNotebook "/NoteBook" " TRIPS" "THE " (by decide) (by decide) (by decide) 10 (by decide)
    rw [← found]
    exact finds
  · obtain ⟨ordered, latestFirst, finds⟩ := underTitle "/Title" "the \"a\"" (by decide) (by decide)
    have named : (archiveOfTwo.notes.ownedNotes "u").filter (fun note => sameName "the \"a\"" note.title) =
        [newerNote, olderNote] := by decide +kernel
    rw [named] at latestFirst
    exact ⟨ordered, latestFirst, finds⟩

end Retrieval

end NoteDialogue
