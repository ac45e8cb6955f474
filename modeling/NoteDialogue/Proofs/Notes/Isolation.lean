import NoteDialogue.Proofs.Notes.World

/-!
# Storing a note and the lookups of others

Every lookup among the notes of an owner depends on these alone (`NoteStore.SameFor.of_owned`).  Identifiers
are not the owner's alone, though: they are shared by all owners of a store, and a note that is stored takes
the place of the one that has its identifier, whoever owns that one.  So to the other owners storing a note is
the same as removing the note that has its identifier, and they see nothing of it exactly if that note is not
theirs (`NoteStore.upsert_unseen_iff`).
-/

set_option autoImplicit false

namespace NoteDialogue

section Lookups

variable {left right : NoteStore} {owner : String}

theorem ownedNotes_congr (same : left.owned owner = right.owned owner) :
    left.ownedNotes owner = right.ownedNotes owner := by
  rw [NoteStore.ownedNotes, NoteStore.ownedNotes, same]

theorem searchLiteral_congr (same : left.owned owner = right.owned owner) (terms : String)
    (filter : NoteFilter) (limit : Nat) :
    left.searchLiteral owner terms filter limit = right.searchLiteral owner terms filter limit := by
  rw [NoteStore.searchLiteral, NoteStore.searchLiteral, ownedNotes_congr same]

end Lookups

namespace NoteStore

variable {store : NoteStore} {note : Note} {owner : String}

/-- Every lookup among the notes of an owner has the same answer in two stores. -/
structure SameFor (owner : String) (left right : NoteStore) : Prop where
  find? : ∀ noteId, left.find? owner noteId = right.find? owner noteId
  withTitle : ∀ title, left.withTitle owner title = right.withTitle owner title
  searchFuzzy : ∀ text limit, left.searchFuzzy owner text limit = right.searchFuzzy owner text limit
  searchLiteral : ∀ terms filter limit,
    left.searchLiteral owner terms filter limit = right.searchLiteral owner terms filter limit
  searchSimilar : ∀ embedding limit threshold,
    left.searchSimilar owner embedding limit threshold =
      right.searchSimilar owner embedding limit threshold

/-- **Lookups among the notes of an owner depend on these alone.** -/
theorem SameFor.of_owned {left right : NoteStore} (same : left.owned owner = right.owned owner) :
    SameFor owner left right where
  find? := fun noteId => by rw [NoteStore.find?, NoteStore.find?, ownedNotes_congr same]
  withTitle := fun title => by rw [NoteStore.withTitle, NoteStore.withTitle, ownedNotes_congr same]
  searchFuzzy := fun text limit => by
    rw [NoteStore.searchFuzzy, NoteStore.searchFuzzy, searchLiteral_congr same]
  searchLiteral := fun terms filter limit => searchLiteral_congr same terms filter limit
  searchSimilar := fun embedding limit threshold => by
    rw [NoteStore.searchSimilar, NoteStore.searchSimilar, same]

/-! ## Whose notes are stored -/

/-- The owner of the note that has an identifier. -/
def holder? (store : NoteStore) (noteId : String) : Option String :=
  (store.notes.find? (·.note.id == noteId)).map (·.note.ownerId)

/-- The store without the note that has an identifier. -/
def without (store : NoteStore) (noteId : String) : NoteStore :=
  { notes := store.notes.eraseP (·.note.id == noteId) }

/-- To the other owners storing a note is no more than removing the one that has its identifier. -/
theorem owned_upsert (store : NoteStore) (chunks : List NoteChunk) (other : note.ownerId ≠ owner) :
    (store.upsert note chunks).owned owner = (store.without note.id).owned owner := by
  obtain ⟨notes⟩ := store
  simp only [owned, upsert, without]
  induction notes with
  | nil => simp [upsertNote, other]
  | cons first rest ih =>
      by_cases same : first.note.id = note.id
      · simp [upsertNote, same, other]
      · rw [upsertNote, if_neg same, List.eraseP_cons_of_neg (by simpa using same), List.filter_cons,
          List.filter_cons, ih]

/-- Removing the note that has an identifier concerns its owner only. -/
theorem owned_without {noteId : String} (free : store.holder? noteId ≠ some owner) :
    (store.without noteId).owned owner = store.owned owner := by
  obtain ⟨notes⟩ := store
  simp only [holder?] at free
  simp only [owned, without]
  induction notes with
  | nil => rfl
  | cons first rest ih =>
      by_cases same : first.note.id = noteId
      · rw [List.find?_cons_of_pos (by simpa using same)] at free
        have foreign : first.note.ownerId ≠ owner := fun own => free (congrArg some own)
        rw [List.eraseP_cons_of_pos (by simpa using same), List.filter_cons_of_neg (by simpa using foreign)]
      · rw [List.find?_cons_of_neg (by simpa using same)] at free
        rw [List.eraseP_cons_of_neg (by simpa using same), List.filter_cons, List.filter_cons, ih free]

/-- The owner has one note less when his note is removed. -/
theorem length_owned_without {noteId : String} (held : store.holder? noteId = some owner) :
    ((store.without noteId).owned owner).length + 1 = (store.owned owner).length := by
  obtain ⟨notes⟩ := store
  simp only [holder?] at held
  simp only [owned, without]
  induction notes with
  | nil => cases held
  | cons first rest ih =>
      by_cases same : first.note.id = noteId
      · rw [List.find?_cons_of_pos (by simpa using same)] at held
        have own : first.note.ownerId = owner := Option.some.inj held
        rw [List.eraseP_cons_of_pos (by simpa using same), List.filter_cons_of_pos (by simpa using own),
          List.length_cons]
      · rw [List.find?_cons_of_neg (by simpa using same)] at held
        have fewer := ih held
        rw [List.eraseP_cons_of_neg (by simpa using same), List.filter_cons, List.filter_cons]
        split
        · rw [List.length_cons, List.length_cons, fewer]
        · exact fewer

/-! ## What others see of it -/

/-- A search for nothing in particular finds all notes of the owner. -/
theorem length_searchLiteral_blank (store : NoteStore) (owner : String) (limit : Nat) :
    (store.searchLiteral owner "" {} limit).length = min limit (store.owned owner).length := by
  have everything : ∀ note : Note, (LiteralTerms.ofText "").rankOf? note = some 0 := fun _ => rfl
  have allowed : ∀ note : Note, NoteFilter.admits {} note = true := fun _ => rfl
  simp [searchLiteral, rankNotes, ownedNotes, everything, allowed, List.filter_eq_self.mpr]

/-- **Storing a note is unseen by the other owners unless it takes the place of a note of theirs.**  To
another owner every lookup then answers as if the note that had the identifier had been removed. -/
theorem upsert_unseen_iff (store : NoteStore) (chunks : List NoteChunk) (other : note.ownerId ≠ owner) :
    (SameFor owner (store.upsert note chunks) store ↔ store.holder? note.id ≠ some owner) ∧
      SameFor owner (store.upsert note chunks) (store.without note.id) := by
  have asRemoved := owned_upsert store chunks other
  refine ⟨⟨fun same held => ?_, fun free => ?_⟩, .of_owned asRemoved⟩
  · have count := congrArg List.length (same.searchLiteral "" {} (store.owned owner).length)
    have fewer := length_owned_without held
    rw [length_searchLiteral_blank, length_searchLiteral_blank, asRemoved] at count
    omega
  · exact .of_owned (asRemoved.trans (owned_without free))

/-- A note of another user, which has an identifier of its own. -/
def neighbour : Note :=
  { Rehearsal.oneNote with id := "m", ownerId := "v" }

/-- A note that is stored again does not concern those who do not own it. -/
theorem upsert_unseen_of_neighbour :
    let store := (({} : NoteStore).upsert Rehearsal.oneNote []).upsert neighbour []
    let again := { neighbour with plainContent := "c" }
    again.ownerId ≠ "u" ∧ store.holder? again.id = some "v" ∧
      SameFor "u" (store.upsert again []) store := by
  intro store again
  have other : again.ownerId ≠ "u" := by decide
  have held : store.holder? again.id = some "v" := rfl
  exact ⟨other, held, (upsert_unseen_iff store [] other).1.mpr (by rw [held]; decide)⟩

/-- A note that is stored under the identifier of another user's note takes it away from him. -/
theorem upsert_takes_away :
    let store := ({} : NoteStore).upsert Rehearsal.oneNote []
    let taking := { neighbour with id := Rehearsal.oneNote.id }
    taking.ownerId ≠ "u" ∧ store.find? "u" taking.id = some Rehearsal.oneNote ∧
      (store.upsert taking []).find? "u" taking.id = none ∧
      ¬ SameFor "u" (store.upsert taking []) store := by
  intro store taking
  have before : store.find? "u" taking.id = some Rehearsal.oneNote := rfl
  have after : (store.upsert taking []).find? "u" taking.id = none := rfl
  refine ⟨by decide, before, after, fun same => ?_⟩
  have none := (after.symm.trans (same.find? taking.id)).trans before
  cases none

end NoteStore

end NoteDialogue
