import NoteDialogue.Notes.Record
import NoteDialogue.Proofs.Json.Rendering
import NoteDialogue.Proofs.Keyed
import NoteDialogue.Proofs.Text.LetterCase.Blank
import NoteDialogue.Style

/-!
# Styles that can be asked for

A registry finds the last of the styles whose key, in lower case, is what was asked for, trimmed and in lower case
(`StyleRegistry.find?_ofList`).  So what is asked for loses the blanks around it, and the keys of the styles do not.
As a text in lower case keeps the blanks at its ends, nothing finds a style under a key with blanks around it
(`StyleRegistry.bare_of_agrees`).

A file may hold any styles whose keys are not blank (`Style.exists_readAll_iff`), and so such keys too.  Of the
styles of a file whose keys differ in more than case, those can be asked for whose keys are trimmed, and no others
(`StyleRegistry.accepted_found_iff_trimmed`).
-/

set_option autoImplicit false

namespace NoteDialogue

open Text

namespace Style

variable {styles : List Style} {content : String}

theorem ofJson?_toJson (style : Style) : ofJson? style.toJson = some style := by
  obtain ⟨key, name, systemPrompt, modelOverride⟩ := style
  cases modelOverride with
  | none => rfl
  | some model => rfl

theorem written_toJson (style : Style) : style.toJson.Written := by
  obtain ⟨key, name, systemPrompt, modelOverride⟩ := style
  cases modelOverride with
  | none => simp [toJson, Json.ofMembers, Json.optional, Json.str, Json.Written, Json.MembersAreWritten]
  | some model => simp [toJson, Json.ofMembers, Json.optional, Json.str, Json.Written, Json.MembersAreWritten]

/-- The content of a file of styles. -/
def fileOf (styles : List Style) : String :=
  (Json.list (styles.map toJson)).render

/-- The styles of a file are read as they were written. -/
theorem listOf?_fileOf (styles : List Style) :
    (Json.ofText? (fileOf styles)).bind (Json.listOf? ofJson?) = some styles := by
  have written : Json.AreWritten (styles.map toJson) := by
    induction styles with
    | nil => trivial
    | cons style rest ih => exact ⟨written_toJson style, ih⟩
  have items : (styles.map toJson).mapM ofJson? = some styles := by
    induction styles with
    | nil => rfl
    | cons style rest ih =>
        rw [List.map_cons, List.mapM_cons, ofJson?_toJson, ih written.2]
        rfl
  have read : Json.ofText? (fileOf styles) = some (.list (styles.map toJson)) := Json.ofText?_render written
  rw [read, Option.bind_some, Json.listOf?, items]

/-- Styles are accepted unless one of them has a blank key. -/
theorem readAll_eq_ok_iff :
    readAll content = .ok styles ↔
      (Json.ofText? content).bind (Json.listOf? ofJson?) = some styles ∧
        ∀ style ∈ styles, isBlankText style.key = false := by
  unfold readAll
  cases (Json.ofText? content).bind (Json.listOf? ofJson?) with
  | none => simp
  | some read =>
      by_cases blank : read.any (fun style => isBlankText style.key) = true
      · have refused : ¬ ∀ style ∈ read, isBlankText style.key = false := by
          simpa using blank
        simp only [if_pos blank, reduceCtorEq, Option.some.injEq, false_iff, not_and]
        rintro rfl
        exact refused
      · have none : ∀ style ∈ read, isBlankText style.key = false := by
          simpa using blank
        simp only [if_neg blank, Except.ok.injEq, Option.some.injEq, iff_self_and]
        rintro rfl
        exact none

theorem readAll_fileOf (keyed : ∀ style ∈ styles, isBlankText style.key = false) : readAll (fileOf styles) = .ok styles :=
  readAll_eq_ok_iff.mpr ⟨listOf?_fileOf styles, keyed⟩

/-- **Every list of styles without blank keys can stand in a file, and no other.** -/
theorem exists_readAll_iff :
    (∃ content, readAll content = .ok styles) ↔ ∀ style ∈ styles, isBlankText style.key = false :=
  ⟨fun ⟨_, accepted⟩ => (readAll_eq_ok_iff.mp accepted).2, fun keyed => ⟨_, readAll_fileOf keyed⟩⟩

end Style

namespace StyleRegistry

variable {styles : List Style} {style : Style} {asked : String}

theorem putEntry_eq_put (spelling : String) (style : Style) (entries : List (String × Style)) :
    putEntry spelling style entries = Keyed.put (·.1) (spelling, style) entries := by
  induction entries with
  | nil => rfl
  | cons first rest ih => rw [putEntry, Keyed.put, ih]

theorem entries_ofList (styles : List Style) :
    (ofList styles).entries = Keyed.putAll (·.1) (styles.map fun style => (lowercase style.key, style)) := by
  simp only [ofList, Keyed.putAll, List.foldl_map, putEntry_eq_put]

/-- **A registry finds the last style whose key agrees with what is asked for.** -/
theorem find?_ofList (styles : List Style) (asked : String) :
    (ofList styles).find? asked = Keyed.latest? (fun style => lowercase style.key) styles (lowercase (trim asked)) := by
  rw [find?, entries_ofList, Keyed.find?_putAll, Keyed.latest?_map, Option.map_map]
  exact Option.map_id'

/-- Of styles whose keys differ in more than case each is found by what agrees with its key. -/
theorem find?_eq_some_iff (distinct : (styles.map fun style => lowercase style.key).Nodup) :
    (ofList styles).find? asked = some style ↔ style ∈ styles ∧ lowercase style.key = lowercase (trim asked) := by
  rw [find?_ofList, Keyed.latest?_eq_some_iff_mem distinct]

/-- What agrees with a trimmed text in lower case is trimmed. -/
theorem bare_of_agrees (agrees : lowercase style.key = lowercase (trim asked)) : HasBareEnds style.key.toList := by
  rw [← hasBareEnds_lowercase_iff, agrees, hasBareEnds_lowercase_iff, trim, String.toList_ofList]
  exact hasBareEnds_trimChars _

/-- **A style is found if its key is trimmed.**  Of the styles of a file, whose keys are not blank, let no two have
keys that differ in case alone.  Then a style is found by what agrees with its key when it is trimmed and in lower case.
Its own key finds it exactly if the key is trimmed; where it is not, no other key does either. -/
theorem accepted_found_iff_trimmed {content : String} (accepted : Style.readAll content = .ok styles)
    (distinct : (styles.map fun style => lowercase style.key).Nodup) (member : style ∈ styles) :
    isBlankText style.key = false ∧
      (∀ asked, (ofList styles).find? asked = some style ↔ lowercase style.key = lowercase (trim asked)) ∧
      ((ofList styles).find? style.key = some style ↔ trim style.key = style.key) ∧
      ((∃ asked, (ofList styles).find? asked = some style) ↔ trim style.key = style.key) := by
  have found (asked : String) :
      (ofList styles).find? asked = some style ↔ lowercase style.key = lowercase (trim asked) :=
    (find?_eq_some_iff distinct).trans (and_iff_right member)
  have trimmed (asked : String) (finds : (ofList styles).find? asked = some style) : trim style.key = style.key := by
    rw [trim, trimChars_eq_self (bare_of_agrees ((found asked).mp finds)), String.ofList_toList]
  have own (bare : trim style.key = style.key) : (ofList styles).find? style.key = some style :=
    (found _).mpr (by rw [bare])
  exact ⟨(Style.readAll_eq_ok_iff.mp accepted).2 style member, found, ⟨trimmed _, own⟩,
    fun any => any.elim trimmed, fun bare => ⟨_, own bare⟩⟩

/-- A key with a blank before it finds the style under the same key without, and its own style is not found by any. -/
theorem accepted_found_iff_trimmed_of_padded :
    let plain : Style := ⟨"Tutor", "Tutor", "Explain.", none⟩
    let padded : Style := ⟨" tutor", "Padded", "Explain.", none⟩
    let registry := ofList [plain, padded]
    Style.readAll (Style.fileOf [plain, padded]) = .ok [plain, padded] ∧
      ([plain, padded].map fun style => lowercase style.key).Nodup ∧
      registry.find? plain.key = some plain ∧ registry.find? padded.key = some plain ∧
      ¬ ∃ asked, registry.find? asked = some padded := by
  intro plain padded registry
  have accepted : Style.readAll (Style.fileOf [plain, padded]) = .ok [plain, padded] :=
    Style.readAll_fileOf (by decide +kernel)
  have distinct : ([plain, padded].map fun style => lowercase style.key).Nodup := by decide +kernel
  have first : plain ∈ [plain, padded] := List.mem_cons_self
  have second : padded ∈ [plain, padded] := List.mem_cons_of_mem plain (List.mem_singleton_self padded)
  obtain ⟨-, found, own, -⟩ := accepted_found_iff_trimmed accepted distinct first
  obtain ⟨-, -, -, any⟩ := accepted_found_iff_trimmed accepted distinct second
  have trimmed : trim plain.key = plain.key := by decide +kernel
  have agrees : lowercase plain.key = lowercase (trim padded.key) := by decide +kernel
  have blank : trim padded.key ≠ padded.key := by decide +kernel
  exact ⟨accepted, distinct, own.mpr trimmed, (found _).mpr agrees, fun asked => blank (any.mp asked)⟩

end StyleRegistry

end NoteDialogue
