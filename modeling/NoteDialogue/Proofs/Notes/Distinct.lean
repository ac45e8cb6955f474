import Mathlib.Data.List.Nodup
import NoteDialogue.Proofs.Keyed
import NoteDialogue.Proofs.Notes.Words

/-!
# Every note has its own identifier

A store that was filled by storing notes one after the other holds no two notes with one identifier
(`NoteStore.distinct_of_grows`).  What a literal search returns is therefore a list of notes with
distinct identifiers that is no longer than its limit, and a lookup by identifier returns a note with
that identifier.
-/

set_option autoImplicit false

namespace NoteDialogue

/-! ## Storing a note -/

theorem upsertNote_eq_put (entry : StoredNote) (notes : List StoredNote) :
    upsertNote entry notes = Keyed.put (·.note.id) entry notes := by
  induction notes with
  | nil => rfl
  | cons first rest ih => rw [upsertNote, Keyed.put, ih]

theorem mem_upsertNote {entry other : StoredNote} {notes : List StoredNote}
    (member : other ∈ upsertNote entry notes) : other = entry ∨ other ∈ notes := by
  rw [upsertNote_eq_put] at member
  exact Keyed.mem_put member

/-- Storing a note keeps the identifiers distinct. -/
theorem nodup_upsertNote (entry : StoredNote) {notes : List StoredNote}
    (distinct : (notes.map (·.note.id)).Nodup) :
    ((upsertNote entry notes).map (·.note.id)).Nodup := by
  rw [upsertNote_eq_put]
  exact Keyed.nodup_put entry distinct

namespace NoteStore

/-- No two notes of the store have the same identifier. -/
def Distinct (store : NoteStore) : Prop :=
  (store.notes.map (·.note.id)).Nodup

/-- Notes were stored, one after the other, and nothing else happened. -/
def Grows (store after : NoteStore) : Prop :=
  ∃ entries : List StoredNote,
    after = entries.foldl (fun store entry => store.upsert entry.note entry.chunks) store

theorem grows_refl (store : NoteStore) : store.Grows store := ⟨[], rfl⟩

theorem Distinct.upsert {store : NoteStore} (distinct : store.Distinct) (note : Note)
    (chunks : List NoteChunk) : (store.upsert note chunks).Distinct :=
  nodup_upsertNote ⟨note, chunks⟩ distinct

/-- Storing notes keeps the identifiers distinct, in whatever order and however often. -/
theorem Distinct.of_grows {store after : NoteStore} (distinct : store.Distinct)
    (grows : store.Grows after) : after.Distinct := by
  obtain ⟨entries, rfl⟩ := grows
  induction entries generalizing store with
  | nil => exact distinct
  | cons entry rest ih => exact ih (distinct.upsert entry.note entry.chunks)

/-- A store that was filled by storing notes has distinct identifiers. -/
theorem distinct_of_grows {store : NoteStore} (filled : Grows {} store) : store.Distinct := by
  have empty : Distinct {} := List.nodup_nil
  exact empty.of_grows filled

/-! ## What is looked up -/

theorem Distinct.ownedNotes {store : NoteStore} (distinct : store.Distinct) (ownerId : String) :
    ((store.ownedNotes ownerId).map (·.id)).Nodup := by
  rw [NoteStore.ownedNotes, NoteStore.owned, List.map_map]
  exact distinct.sublist (List.filter_sublist.map _)

end NoteStore

/-- A ranking is some of the notes in another order. -/
theorem rankNotes_perm (terms : LiteralTerms) (filter : NoteFilter) (notes : List Note) :
    ∃ kept, kept.Sublist notes ∧ (rankNotes terms filter notes).Perm kept := by
  rw [LiteralTerms.rankNotes_eq]
  exact ⟨_, List.filter_sublist, List.mergeSort_perm _ _⟩

namespace NoteStore

/-- A literal search returns notes with distinct identifiers, no more than its limit. -/
theorem Distinct.searchLiteral {store : NoteStore} (distinct : store.Distinct)
    (ownerId terms : String) (filter : NoteFilter) (limit : Nat) :
    ((store.searchLiteral ownerId terms filter limit).map (·.id)).Nodup ∧
      (store.searchLiteral ownerId terms filter limit).length ≤ limit := by
  constructor
  · obtain ⟨kept, sub, perm⟩ := rankNotes_perm (LiteralTerms.ofText terms) filter
      (store.ownedNotes ownerId)
    have keptDistinct := (distinct.ownedNotes ownerId).sublist (sub.map (·.id))
    have rankedDistinct := (perm.map (·.id)).nodup_iff.mpr keptDistinct
    rw [NoteStore.searchLiteral, List.map_take]
    exact rankedDistinct.sublist (List.take_sublist _ _)
  · exact List.length_take_le _ _

/-- A note that was found by its identifier has it. -/
theorem id_of_find? {store : NoteStore} {ownerId noteId : String} {note : Note}
    (found : store.find? ownerId noteId = some note) : note.id = noteId := by
  have fits := List.find?_some found
  exact beq_iff_eq.mp fits

end NoteStore

end NoteDialogue
