import NoteDialogue.Proofs.Keyed
import NoteDialogue.Proofs.Notes.Indexing
import NoteDialogue.Proofs.Retrieval.Ranking

/-!
# The store as a map from identifiers to notes

Storing a note puts it into the list of notes under its identifier.  So a store that was filled by storing notes, one
after the other, stands for a map from identifiers to the versions that came last, in the order in which the
identifiers first came (`NoteStore.notes_storeAll`).

Every lookup takes what it returns from the entries of one owner in the store (`NoteStore.returnsOnly_owned`).  Of a
version that another one has replaced nothing is returned any more (`NoteStore.storeAll_refines_map`).
-/

set_option autoImplicit false

namespace NoteDialogue

namespace NoteStore

variable {store : NoteStore} {owner : String} {entry : StoredNote} {entries : List StoredNote}

/-- Filling a store is filling a list with one entry for each identifier. -/
theorem notes_storeAll (entries : List StoredNote) :
    (storeAll {} entries).notes = Keyed.putAll (·.note.id) entries := by
  have step (store : NoteStore) (entry : StoredNote) :
      Keyed.put (·.note.id) entry store.notes = (store.upsert entry.note entry.chunks).notes :=
    (upsertNote_eq_put entry store.notes).symm
  exact (List.foldl_hom NoteStore.notes step).symm

/-- An owner has the entries of his that came last under their identifiers. -/
theorem mem_owned_storeAll_iff :
    entry ∈ (storeAll {} entries).owned owner ↔
      Keyed.latest? (·.note.id) entries entry.note.id = some entry ∧ entry.note.ownerId = owner := by
  rw [owned, List.mem_filter, notes_storeAll, Keyed.mem_putAll_iff, beq_iff_eq]

/-! ## What lookups return -/

/-- Whatever is looked up for an owner, the notes and the hits that are returned are those of entries of a kind. -/
structure ReturnsOnly (store : NoteStore) (owner : String) (kind : StoredNote → Prop) : Prop where
  find? : ∀ noteId note, store.find? owner noteId = some note → ∃ entry, kind entry ∧ entry.note = note
  withTitle : ∀ title, ∀ note ∈ store.withTitle owner title, ∃ entry, kind entry ∧ entry.note = note
  searchFuzzy : ∀ text limit, ∀ note ∈ store.searchFuzzy owner text limit, ∃ entry, kind entry ∧ entry.note = note
  searchLiteral : ∀ terms filter limit, ∀ note ∈ store.searchLiteral owner terms filter limit,
    ∃ entry, kind entry ∧ entry.note = note
  searchSimilar : ∀ embedding limit threshold, ∀ hit ∈ store.searchSimilar owner embedding limit threshold,
    ∃ entry, kind entry ∧ ∃ chunk ∈ entry.chunks,
      hit = ⟨entry.note.id, chunk.content, cosine embedding chunk.embedding⟩

theorem mem_rankNotes {terms : LiteralTerms} {filter : NoteFilter} {notes : List Note} {note : Note}
    (found : note ∈ rankNotes terms filter notes) : note ∈ notes := by
  obtain ⟨kept, sub, perm⟩ := rankNotes_perm terms filter notes
  exact sub.subset (perm.subset found)

/-- **Every lookup for an owner returns what the store holds of him.** -/
theorem returnsOnly_owned (store : NoteStore) (owner : String) :
    store.ReturnsOnly owner (· ∈ store.owned owner) := by
  have held : ∀ note ∈ store.ownedNotes owner, ∃ entry ∈ store.owned owner, entry.note = note :=
    fun note => List.mem_map.mp
  have literal : ∀ terms filter limit, ∀ note ∈ store.searchLiteral owner terms filter limit,
      ∃ entry ∈ store.owned owner, entry.note = note :=
    fun terms filter limit note found => held note (mem_rankNotes (List.take_subset _ _ found))
  refine ⟨fun noteId note found => held note (List.mem_of_find?_eq_some found),
    fun title note found => held note (mem_rankNotes found), fun text limit note found => ?_, literal,
    fun embedding limit threshold hit found => (mem_passing.mp (mem_passing_of_searchSimilar found)).1⟩
  unfold searchFuzzy at found
  split at found
  · cases found
  · exact literal text {} limit note found

theorem ReturnsOnly.mono {kind other : StoredNote → Prop} (returns : store.ReturnsOnly owner kind)
    (included : ∀ entry, kind entry → other entry) : store.ReturnsOnly owner other where
  find? noteId note found := (returns.find? noteId note found).imp fun _ => .imp_left (included _)
  withTitle title note found := (returns.withTitle title note found).imp fun _ => .imp_left (included _)
  searchFuzzy text limit note found := (returns.searchFuzzy text limit note found).imp fun _ => .imp_left (included _)
  searchLiteral terms filter limit note found :=
    (returns.searchLiteral terms filter limit note found).imp fun _ => .imp_left (included _)
  searchSimilar embedding limit threshold hit found :=
    (returns.searchSimilar embedding limit threshold hit found).imp fun _ => .imp_left (included _)

/-- Where no two notes have the same identifier, each note of an owner is found by its own. -/
theorem Distinct.find?_eq_some_iff (distinct : store.Distinct) {noteId : String} {note : Note} :
    store.find? owner noteId = some note ↔ note ∈ store.ownedNotes owner ∧ note.id = noteId :=
  Keyed.find?_eq_some_iff (distinct.ownedNotes owner)

theorem distinct_storeAll (entries : List StoredNote) : (storeAll {} entries).Distinct :=
  distinct_of_grows ⟨entries, rfl⟩

theorem find?_storeAll_iff {noteId : String} {note : Note} :
    (storeAll {} entries).find? owner noteId = some note ↔
      ∃ entry, Keyed.latest? (·.note.id) entries noteId = some entry ∧ entry.note = note ∧ note.ownerId = owner := by
  rw [(distinct_storeAll entries).find?_eq_some_iff, ownedNotes, List.mem_map]
  simp only [mem_owned_storeAll_iff]
  constructor
  · rintro ⟨⟨entry, ⟨latest, owns⟩, rfl⟩, rfl⟩
    exact ⟨entry, latest, rfl, owns⟩
  · rintro ⟨entry, latest, rfl, owns⟩
    have sameId : entry.note.id = noteId := (Keyed.latest?_eq_some_iff.mp latest).1
    exact ⟨⟨entry, ⟨sameId ▸ latest, owns⟩, rfl⟩, sameId⟩

/-- **The store of notes refines a map.**  However notes are stored, one after the other, the store holds one entry
for each identifier, in the order in which the identifiers first came, with the note and the chunks that were stored
last under it.  So it counts the different identifiers, finds by an identifier the note that was stored last under it,
for the owner of that note alone, and returns from no lookup anything of a note that was replaced. -/
theorem storeAll_refines_map (entries : List StoredNote) :
    let store := storeAll {} entries
    let latest? := Keyed.latest? (·.note.id) entries
    store.notes.map (·.note.id) = (entries.map (·.note.id)).eraseDups ∧
      store.notes = (entries.map (·.note.id)).eraseDups.filterMap latest? ∧
      store.size = (entries.map (·.note.id)).toFinset.card ∧
      (∀ owner noteId note, store.find? owner noteId = some note ↔
        ∃ entry, latest? noteId = some entry ∧ entry.note = note ∧ note.ownerId = owner) ∧
      ∀ owner, store.ReturnsOnly owner fun entry =>
        latest? entry.note.id = some entry ∧ entry.note.ownerId = owner := by
  intro store latest?
  have held : store.notes = Keyed.putAll (·.note.id) entries := notes_storeAll entries
  refine ⟨?_, ?_, ?_, fun owner noteId note => find?_storeAll_iff, fun owner => ?_⟩
  · rw [held, Keyed.map_putAll]
  · rw [held, Keyed.putAll_eq]
  · rw [size, held, Keyed.length_putAll]
  · exact (returnsOnly_owned store owner).mono fun entry => mem_owned_storeAll_iff.mp

end NoteStore

end NoteDialogue
