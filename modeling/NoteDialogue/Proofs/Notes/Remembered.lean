import NoteDialogue.Proofs.Keyed
import NoteDialogue.Proofs.Notes.QueryCache
import NoteDialogue.Proofs.Recency

/-!
# What a cache remembers

A cache is used by putting embeddings in and asking for them (`QueryCache.Use`), and each use is an event of its
history (`QueryCache.serve`).  A query is in use when its embedding goes in or comes out; an embedding that was asked
for and not found changes nothing.

What a cache with room for so many embeddings holds is told by its history alone: the queries that were in use most
recently, as many of them as there is room for, each with the embedding that was put in last
(`QueryCache.Remembers`).  Every use keeps it so, as long as no two of the queries have the same digest
(`QueryCache.Remembers.step`).  Hence an embedding comes out if it was put in and fewer other queries than there is
room for were in use since (`QueryCache.remembers_recently_used`).
-/

set_option autoImplicit false

namespace NoteDialogue

namespace QueryCache

/-! ## Uses and events -/

/-- What is done with a cache. -/
inductive Use
  | recollect (query : String)
  | remember (query : String) (embedding : Vector32)

/-- What was done with a cache and what came of it. -/
inductive Event
  | recollected (query : String) (found : Option Vector32)
  | remembered (query : String) (embedding : Vector32)

/-- The query without surrounding blanks. -/
def Use.name : Use → String
  | .recollect query | .remember query _ => Text.trim query

namespace Event

/-- The query, without surrounding blanks, whose embedding went in or came out. -/
def used? : Event → Option String
  | .recollected query found => found.map fun _ => Text.trim query
  | .remembered query _ => some (Text.trim query)

/-- The query, without surrounding blanks, and the embedding that went in. -/
def entry? : Event → Option (String × Vector32)
  | .recollected _ _ => none
  | .remembered query embedding => some (Text.trim query, embedding)

end Event

/-- Use a cache once. -/
def step (cache : QueryCache) : Use → Event × QueryCache
  | .recollect query =>
      let (found, after) := cache.recollect query
      (.recollected query found, after)
  | .remember query embedding => (.remembered query embedding, cache.remember query embedding)

/-- Use a cache many times: what came of it, in order, and the cache after it. -/
def serve (cache : QueryCache) : List Use → List Event × QueryCache
  | [] => ([], cache)
  | use :: rest =>
      let (event, after) := cache.step use
      let (events, last) := after.serve rest
      (event :: events, last)

/-! ## What a history says -/

/-- The queries whose embeddings went in or came out, each as often as that was. -/
def usedIn (past : List Event) : List String :=
  past.filterMap Event.used?

/-- The queries and embeddings that went in. -/
def entriesOf (past : List Event) : List (String × Vector32) :=
  past.filterMap Event.entry?

/-- The embedding of a query that went in last. -/
def lastIn? (past : List Event) (name : String) : Option Vector32 :=
  (Keyed.latest? (·.1) (entriesOf past) name).map (·.2)

/-- The other queries that were in use after a query was in use for the last time. -/
def usedSince (past : List Event) (name : String) : List String :=
  (usedIn past).rtakeWhile (· ≠ name)

section History

variable {past : List Event} {query name : String} {embedding : Vector32} {found : Option Vector32}

theorem usedIn_concat (past : List Event) (event : Event) :
    usedIn (past ++ [event]) = usedIn past ++ event.used?.toList := by
  rw [usedIn, List.filterMap_append]
  cases kind : event.used? <;> simp [usedIn, kind]

theorem entriesOf_concat (past : List Event) (event : Event) :
    entriesOf (past ++ [event]) = entriesOf past ++ event.entry?.toList := by
  rw [entriesOf, List.filterMap_append]
  cases kind : event.entry? <;> simp [entriesOf, kind]

/-- Asking for an embedding puts none in. -/
theorem lastIn?_recollected : lastIn? (past ++ [.recollected query found]) name = lastIn? past name := by
  simp only [lastIn?, entriesOf_concat, Event.entry?, Option.toList, List.append_nil]

theorem lastIn?_remembered :
    lastIn? (past ++ [.remembered query embedding]) name =
      if Text.trim query = name then some embedding else lastIn? past name := by
  simp only [lastIn?, entriesOf_concat, Event.entry?, Option.toList, Keyed.latest?_concat]
  split
  · rfl
  · rfl

theorem lastIn?_isSome_iff : (lastIn? past name).isSome ↔ name ∈ (entriesOf past).map (·.1) := by
  rw [lastIn?, Option.isSome_map, Keyed.latest?_isSome_iff]

end History

/-! ## The cache that a history leads to -/

/-- What is kept of a query. -/
def keptOf (digest : String → String) (past : List Event) (name : String) : String × Vector32 :=
  (digest name, (lastIn? past name).getD [])

/-- The queries for which there is room. -/
def remembered (room : Nat) (past : List Event) : List String :=
  (Recency.recent (usedIn past)).take room

/-- A cache with so much room keeps the queries that were in use most recently, each with the embedding that went in
last.  Nothing is in use that did not go in. -/
structure Remembers (digest : String → String) (asked : String → Prop) (room : Nat) (past : List Event)
    (cache : QueryCache) : Prop where
  sameDigest : cache.digest = digest
  sameRoom : cache.capacity = room
  entries : cache.entries = (remembered room past).map (keptOf digest past)
  used : ∀ name, name ∈ usedIn past ↔ name ∈ (entriesOf past).map (·.1)
  asked : ∀ name ∈ usedIn past, asked name

section Steps

variable {digest : String → String} {asked : String → Prop} {room : Nat} {past : List Event} {cache : QueryCache}
  {query : String}

theorem remembers_empty (room : Nat) : Remembers digest asked room [] { capacity := room, digest } where
  sameDigest := rfl
  sameRoom := rfl
  entries := by
    have none : remembered room [] = [] := List.take_nil
    rw [none, List.map_nil]
  used _ := Iff.rfl
  asked _ member := absurd member List.not_mem_nil

/-- The entry of a query is that of its name. -/
theorem Remembers.isEntryOf_keptOf (remembers : Remembers digest asked room past cache) (apart : Apart digest asked)
    (isAsked : asked (Text.trim query)) {name : String} (member : name ∈ remembered room past) :
    cache.isEntryOf query (keptOf digest past name) = decide (name = Text.trim query) := by
  have nameAsked : asked name := remembers.asked name (Recency.mem_recent.mp (List.mem_of_mem_take member))
  rw [isEntryOf, key, remembers.sameDigest, keptOf, beq_eq_decide, decide_eq_decide]
  exact ⟨apart _ _ nameAsked isAsked, congrArg digest⟩

theorem Remembers.find? (remembers : Remembers digest asked room past cache) (apart : Apart digest asked)
    (isAsked : asked (Text.trim query)) :
    cache.entries.find? (cache.isEntryOf query) =
      if Text.trim query ∈ remembered room past then some (keptOf digest past (Text.trim query)) else none := by
  rw [remembers.entries, List.find?_map]
  cases found : (remembered room past).find? (cache.isEntryOf query ∘ keptOf digest past) with
  | none =>
      have absent : Text.trim query ∉ remembered room past := fun member => by
        have other := List.find?_eq_none.mp found _ member
        rw [Function.comp_apply, remembers.isEntryOf_keptOf apart isAsked member] at other
        exact other (decide_eq_true rfl)
      rw [if_neg absent, Option.map_none]
  | some name =>
      have member := List.mem_of_find?_eq_some found
      have same := List.find?_some found
      rw [Function.comp_apply, remembers.isEntryOf_keptOf apart isAsked member, decide_eq_true_iff] at same
      rw [← same, if_pos member, Option.map_some]

theorem Remembers.others (remembers : Remembers digest asked room past cache) (apart : Apart digest asked)
    (isAsked : asked (Text.trim query)) :
    cache.others query =
      ((remembered room past).filter (· ≠ Text.trim query)).map (keptOf digest past) := by
  rw [QueryCache.others, remembers.entries, List.filter_map]
  refine congrArg _ (List.filter_congr fun name member => ?_)
  rw [Function.comp_apply, remembers.isEntryOf_keptOf apart isAsked member, decide_not]

theorem keptOf_recollected {found : Option Vector32} :
    keptOf digest (past ++ [.recollected query found]) = keptOf digest past := by
  funext name
  rw [keptOf, lastIn?_recollected, keptOf]

/-- Asking in vain changes nothing. -/
theorem Remembers.missed (remembers : Remembers digest asked room past cache) :
    Remembers digest asked room (past ++ [.recollected query none]) cache := by
  have sameUsed : usedIn (past ++ [.recollected query none]) = usedIn past := by
    rw [usedIn_concat, Event.used?, Option.map_none, Option.toList_none, List.append_nil]
  have sameEntries : entriesOf (past ++ [.recollected query none]) = entriesOf past := by
    rw [entriesOf_concat, Event.entry?, Option.toList_none, List.append_nil]
  refine ⟨remembers.sameDigest, remembers.sameRoom, ?_, ?_, ?_⟩
  · rw [remembers.entries, remembered, remembered, sameUsed, keptOf_recollected]
  · rw [sameUsed, sameEntries]
    exact remembers.used
  · rw [sameUsed]
    exact remembers.asked

/-- A query that is in use comes to the front. -/
theorem Remembers.inUse (remembers : Remembers digest asked room past cache) (isAsked : asked (Text.trim query))
    {event : Event} (uses : event.used? = some (Text.trim query))
    (wentIn : ∀ name, name ∈ (entriesOf (past ++ [event])).map (·.1) ↔
      name = Text.trim query ∨ name ∈ (entriesOf past).map (·.1))
    {entries : List (String × Vector32)}
    (atFront : entries = ((Recency.toFront (Text.trim query) (Recency.recent (usedIn past))).take room).map
      (keptOf digest (past ++ [event]))) :
    Remembers digest asked room (past ++ [event]) { cache with entries } := by
  have usedAgain : usedIn (past ++ [event]) = usedIn past ++ [Text.trim query] := by
    rw [usedIn_concat, uses, Option.toList_some]
  have inUse (name : String) : name ∈ usedIn (past ++ [event]) ↔ name = Text.trim query ∨ name ∈ usedIn past := by
    rw [usedAgain, List.mem_append, List.mem_singleton, or_comm]
  refine ⟨remembers.sameDigest, remembers.sameRoom, ?_, fun name => ?_, fun name member => ?_⟩
  · rw [atFront, remembered, usedAgain, Recency.recent_concat]
  · rw [inUse, wentIn, remembers.used]
  · rcases (inUse name).mp member with rfl | before
    · exact isAsked
    · exact remembers.asked name before

/-- An embedding that is recollected is kept as it is. -/
theorem Remembers.found (remembers : Remembers digest asked room past cache) (apart : Apart digest asked)
    (isAsked : asked (Text.trim query)) (member : Text.trim query ∈ remembered room past) (embedding : Vector32) :
    Remembers digest asked room (past ++ [.recollected query (some embedding)])
      { cache with entries := keptOf digest past (Text.trim query) :: cache.others query } := by
  refine remembers.inUse isAsked rfl (fun name => ?_) ?_
  · have before : Text.trim query ∈ (entriesOf past).map (·.1) :=
      (remembers.used _).mp (Recency.mem_recent.mp (List.mem_of_mem_take member))
    rw [entriesOf_concat, Event.entry?, Option.toList_none, List.append_nil]
    exact (or_iff_right_of_imp fun isQuery => isQuery ▸ before).symm
  · rw [remembers.others apart isAsked, keptOf_recollected,
      ← Recency.toFront_take_of_mem (Recency.nodup_recent _) member]
    rfl

/-- An embedding that is remembered replaces the one that was kept, and may drive out the query that has not been in
use for the longest time. -/
theorem Remembers.remember (remembers : Remembers digest asked room past cache) (apart : Apart digest asked)
    (isAsked : asked (Text.trim query)) (embedding : Vector32) :
    Remembers digest asked room (past ++ [.remembered query embedding]) (cache.remember query embedding) := by
  have here : keptOf digest (past ++ [.remembered query embedding]) (Text.trim query) =
      (cache.key query, embedding) := by
    rw [keptOf, lastIn?_remembered, if_pos rfl, key, remembers.sameDigest, Option.getD_some]
  have elsewhere : ∀ name ∈ (remembered room past).filter (· ≠ Text.trim query),
      keptOf digest past name = keptOf digest (past ++ [.remembered query embedding]) name := by
    intro name member
    have other : Text.trim query ≠ name := Ne.symm (by simpa using (List.mem_filter.mp member).2)
    rw [keptOf, keptOf, lastIn?_remembered, if_neg other]
  refine remembers.inUse isAsked rfl (fun name => ?_) ?_
  · rw [entriesOf_concat, Event.entry?, Option.toList_some, List.map_append, List.mem_append, or_comm,
      List.map_singleton, List.mem_singleton]
  -- What had been forgotten before this use has no room after it either.
  · rw [remembers.others apart isAsked, remembers.sameRoom, List.map_congr_left elsewhere, ← here, ← List.map_cons,
      ← List.map_take, ← Recency.take_toFront_take (Recency.nodup_recent _)]
    rfl

/-- Recollecting keeps a cache as its history says, whether something is found or not. -/
theorem Remembers.recollect (remembers : Remembers digest asked room past cache) (apart : Apart digest asked)
    (isAsked : asked (Text.trim query)) :
    Remembers digest asked room (past ++ [.recollected query (cache.recollect query).1]) (cache.recollect query).2 := by
  rw [QueryCache.recollect, remembers.find? apart isAsked]
  split_ifs with member
  · exact remembers.found apart isAsked member _
  · exact remembers.missed

/-- **Every use keeps a cache as its history says.** -/
theorem Remembers.step (remembers : Remembers digest asked room past cache) (apart : Apart digest asked) {use : Use}
    (isAsked : asked use.name) :
    Remembers digest asked room (past ++ [(cache.step use).1]) (cache.step use).2 := by
  cases use with
  | recollect query => exact remembers.recollect apart isAsked
  | remember query embedding => exact remembers.remember apart isAsked embedding

/-- So do many uses. -/
theorem Remembers.serve {uses : List Use} (remembers : Remembers digest asked room past cache)
    (apart : Apart digest asked) (areAsked : ∀ use ∈ uses, asked use.name) :
    Remembers digest asked room (past ++ (cache.serve uses).1) (cache.serve uses).2 := by
  induction uses generalizing past cache with
  | nil =>
      rw [QueryCache.serve, List.append_nil]
      exact remembers
  | cons use rest ih =>
      obtain ⟨useAsked, restAsked⟩ := List.forall_mem_cons.mp areAsked
      have later := ih (remembers.step apart useAsked) restAsked
      rwa [List.append_assoc] at later

end Steps

/-! ## What a history lets out -/

section History

variable {digest : String → String} {asked : String → Prop} {room : Nat} {past : List Event} {cache : QueryCache}
  {query name : String} {embedding : Vector32}

/-- There is room for a query that was in use if fewer others were in use since. -/
theorem mem_remembered_iff :
    name ∈ remembered room past ↔ name ∈ usedIn past ∧ (usedSince past name).toFinset.card < room := by
  rw [remembered, Recency.mem_take_iff, Recency.mem_recent, Recency.length_takeWhile_recent, usedSince]

/-- An embedding comes out if it is the one that went in last and its query was in use recently enough. -/
theorem Remembers.recollect_eq_some_iff (remembers : Remembers digest asked room past cache)
    (apart : Apart digest asked) (isAsked : asked (Text.trim query)) :
    (cache.recollect query).1 = some embedding ↔
      lastIn? past (Text.trim query) = some embedding ∧ (usedSince past (Text.trim query)).toFinset.card < room := by
  have known : Text.trim query ∈ remembered room past ↔
      (lastIn? past (Text.trim query)).isSome ∧ (usedSince past (Text.trim query)).toFinset.card < room := by
    rw [mem_remembered_iff, remembers.used, lastIn?_isSome_iff]
  rw [QueryCache.recollect, remembers.find? apart isAsked]
  split_ifs with member
  · obtain ⟨wentIn, fewer⟩ := known.mp member
    obtain ⟨last, isLast⟩ := Option.isSome_iff_exists.mp wentIn
    simp only [keptOf, isLast, Option.getD_some, fewer, and_true]
  · refine iff_of_false nofun fun ⟨isLast, fewer⟩ => member (known.mpr ⟨?_, fewer⟩)
    rw [isLast, Option.isSome_some]

/-- As many queries are remembered as went in, up to the room. -/
theorem Remembers.size_eq (remembers : Remembers digest asked room past cache) :
    cache.size = min room ((entriesOf past).map (·.1)).toFinset.card := by
  have same : (usedIn past).toFinset = ((entriesOf past).map (·.1)).toFinset := by
    ext name
    rw [List.mem_toFinset, List.mem_toFinset, remembers.used]
  rw [size, remembers.entries, List.length_map, remembered, List.length_take, Recency.length_recent, same]

end History

/-- **What comes out is what was used recently.**  However a cache is used, as long as no two of the queries have the
same digest, the next query that is asked for comes out with an embedding if it went in before with that embedding and
last with that one, and if fewer other queries than there is room for went in or came out since it did itself.  There
are as many entries as different queries that went in, up to the room. -/
theorem remembers_recently_used (room : Nat) (digest : String → String) (uses : List Use) (query : String)
    (apart : Apart digest (· ∈ Text.trim query :: uses.map Use.name)) :
    let (past, cache) := serve { capacity := room, digest } uses
    (∀ embedding, (cache.recollect query).1 = some embedding ↔
        lastIn? past (Text.trim query) = some embedding ∧ (usedSince past (Text.trim query)).toFinset.card < room) ∧
      cache.size = min room ((entriesOf past).map (·.1)).toFinset.card := by
  have areAsked : ∀ use ∈ uses, use.name ∈ Text.trim query :: uses.map Use.name :=
    fun use member => List.mem_cons_of_mem _ (List.mem_map_of_mem member)
  have remembers := (remembers_empty room).serve apart areAsked
  rw [List.nil_append] at remembers
  exact ⟨fun embedding => remembers.recollect_eq_some_iff apart List.mem_cons_self, remembers.size_eq⟩

/-- Three queries in a cache for two; the first is in use again before the third goes in, and the second has to go. -/
def crowded : List Use :=
  [.remember "rent" [1], .remember "travel" [2], .recollect " rent ", .remember "garden" [3]]

theorem remembers_recently_used_of_crowded :
    Apart id (· ∈ Text.trim "rent" :: crowded.map Use.name) ∧
      ((serve { capacity := 2 } crowded).2.recollect "rent").1 = some [1] ∧
      ((serve { capacity := 2 } crowded).2.recollect "travel").1 = none ∧
      (serve { capacity := 2 } crowded).2.size = 2 := by
  have apart (query : String) : Apart id (· ∈ Text.trim query :: crowded.map Use.name) := fun _ _ _ _ same => same
  obtain ⟨rent, size⟩ := remembers_recently_used 2 id crowded "rent" (apart "rent")
  obtain ⟨travel, -⟩ := remembers_recently_used 2 id crowded "travel" (apart "travel")
  refine ⟨apart "rent", (rent [1]).mpr ⟨?_, ?_⟩, ?_, size.trans ?_⟩
  · rfl
  · decide +kernel
  · refine Option.eq_none_iff_forall_ne_some.mpr fun embedding found => ?_
    have fewer := ((travel embedding).mp found).2
    revert fewer
    decide +kernel
  · decide +kernel

end QueryCache

end NoteDialogue
