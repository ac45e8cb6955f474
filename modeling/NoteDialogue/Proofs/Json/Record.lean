import NoteDialogue.Json.Record

/-!
# Members in any order

The value of a field is found among the members of an object wherever it stands
(`fieldOfMembers?_of_perm`).  A field without a value may be left out or written as `null`, which is the same
to a reader for whom the field may be missing (`OptionalMember.exists_found`).
-/

set_option autoImplicit false

namespace NoteDialogue.Json

variable {name other : String} {members ordered : List (JsonText × Json)} {value : Option Json}

/-- How a field that may be missing is written: with its value, not at all, or as `null`. -/
inductive OptionalMember (name : String) : Option Json → List (JsonText × Json) → Prop
  | given (value : Json) : OptionalMember name (some value) [(.plain name, value)]
  | absent : OptionalMember name none []
  | null : OptionalMember name none [(.plain name, .null)]

theorem membersNamed_append (names : List String) (before after : List (JsonText × Json)) :
    membersNamed names (before ++ after) = membersNamed names before ++ membersNamed names after :=
  List.filterMap_append

theorem membersNamed_cons_same (name : String) (value : Json) (members : List (JsonText × Json)) :
    membersNamed [name] ((.plain name, value) :: members) = value :: membersNamed [name] members := by
  simp [membersNamed]

theorem membersNamed_cons_other (different : other ≠ name) (value : Json)
    (members : List (JsonText × Json)) :
    membersNamed [name] ((.plain other, value) :: members) = membersNamed [name] members := by
  simp [membersNamed, different]

theorem namesAreTexts_append (before after : List (JsonText × Json)) :
    namesAreTexts (before ++ after) = (namesAreTexts before && namesAreTexts after) :=
  List.all_append

namespace OptionalMember

theorem membersNamed_other (shown : OptionalMember other value members) (different : other ≠ name) :
    membersNamed [name] members = [] := by
  cases shown with
  | given | null => exact membersNamed_cons_other different _ []
  | absent => rfl

/-- Whichever way the field is written, a reader for whom it may be missing reads the same. -/
theorem exists_found (shown : OptionalMember name value members) :
    ∃ found : Option Json, membersNamed [name] members = found.toList ∧
      ∀ {α : Type} (read : Json → Option α), possible read found = possible read value := by
  cases shown with
  | given value => exact ⟨some value, membersNamed_cons_same name value [], fun _ => rfl⟩
  | absent => exact ⟨none, rfl, fun _ => rfl⟩
  | null => exact ⟨some .null, membersNamed_cons_same name .null [], fun _ => rfl⟩

theorem namesAreTexts (shown : OptionalMember name value members) : namesAreTexts members = true := by
  cases shown <;> rfl

end OptionalMember

/-- **A field is found wherever it stands.** -/
theorem fieldOfMembers?_of_perm {field : Field} {found : Option Json} (perm : ordered.Perm members)
    (named : membersNamed field.names members = found.toList) :
    fieldOfMembers? ordered field = some found := by
  have same : (membersNamed field.names ordered).Perm found.toList := named ▸ perm.filterMap _
  cases found with
  | none => rw [fieldOfMembers?, List.perm_nil.mp same]
  | some value => rw [fieldOfMembers?, List.perm_singleton.mp same]

theorem namesAreTexts_of_perm (perm : ordered.Perm members) (texts : namesAreTexts members = true) :
    namesAreTexts ordered = true := by
  rw [namesAreTexts, List.all_eq_true] at texts ⊢
  exact fun member inside => texts member (perm.mem_iff.mp inside)

/-- A value that is no list and no object is kept if it is sound. -/
theorem possible_kept {json : Json} (notNull : json ≠ .null) (flat : depth json = 0)
    (sound : isSound json = true) : possible (kept? 1) (some json) = some (some json) := by
  have kept : kept? 1 json = some json := by
    rw [kept?, flat, sound]
    rfl
  cases json with
  | null => exact absurd rfl notNull
  | _ => exact congrArg (Option.map some) kept

end NoteDialogue.Json
