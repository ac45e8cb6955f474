import NoteDialogue.Mode
import NoteDialogue.Proofs.Text.Passage
import NoteDialogue.Proofs.Text.Trim

/-!
# Selections and their written form

A selection is canonical when it has a key exactly if its mode is styled, and the key is neither blank nor
padded with blanks (`ModeSelection.Canonical`).  Whatever is read from a written selection is canonical; so is a
selection that loses its style.

A canonical selection is read back from its written form (`ModeSelection.ofText_render`): the names of the
modes have no colon, so that the first one stands between the mode and the key.
-/

set_option autoImplicit false

namespace NoteDialogue

namespace Text

theorem isBlankText_eq_false {text : String} (bare : HasBareEnds text.toList)
    (some : text.toList ≠ []) : isBlankText text = false := by
  obtain ⟨first, rest, given⟩ := List.exists_cons_of_ne_nil some
  have notBlank : isBlank first = false := bare.1 first (by rw [given]; rfl)
  simp [isBlankText, given, notBlank]

end Text

open Text

/-! ## The written forms of modes -/

theorem ChatMode.ofText_name (mode : ChatMode) : ChatMode.ofText mode.name = .ok mode := by
  have named : ofName? (lowercase (trim mode.name)) = some mode := by
    cases mode <;> decide +kernel
  simp only [ChatMode.ofText, named]

theorem ChatMode.colon_notMem_name (mode : ChatMode) : ':' ∉ mode.name.toList := by
  cases mode <;> decide

theorem ChatMode.hasBareEnds_name (mode : ChatMode) : HasBareEnds mode.name.toList := by
  cases mode <;> decide

theorem ChatMode.base_eq_self {mode : ChatMode} (plain : mode.isStyled = false) : mode.base = mode := by
  cases mode with
  | rag | bypass => rfl
  | bypassStyle | ragStyle => cases plain

theorem ChatMode.isStyled_base (mode : ChatMode) : mode.base.isStyled = false := by
  cases mode <;> rfl

namespace ModeSelection

/-- A mode is styled exactly if there is a key, which is neither blank nor padded. -/
structure Canonical (selection : ModeSelection) : Prop where
  styled_iff : selection.mode.isStyled = selection.styleKey.isSome
  bare : ∀ key, selection.styleKey = some key → HasBareEnds key.toList
  notEmpty : ∀ key, selection.styleKey = some key → key.toList ≠ []

theorem canonical_base (mode : ChatMode) : Canonical ⟨mode.base, none⟩ where
  styled_iff := mode.isStyled_base
  bare := nofun
  notEmpty := nofun

theorem canonical_plain : plain.Canonical :=
  canonical_base .rag

theorem canonical_unstyled (selection : ModeSelection) : selection.unstyled.Canonical :=
  canonical_base _

/-- A selection is put together canonically from a mode and a key that is not padded. -/
theorem canonical_of (mode : ChatMode) {styleKey : Option String}
    (bare : ∀ key, styleKey = some key → HasBareEnds key.toList) : (of mode styleKey).Canonical := by
  cases styleKey with
  | none => exact canonical_base mode
  | some key =>
      unfold of
      by_cases kept : (mode.isStyled && !isBlankText key) = true
      · simp only [if_pos kept]
        obtain ⟨styled, notBlank⟩ := Bool.and_eq_true_iff.mp kept
        refine ⟨styled, fun other same => bare other same, ?_⟩
        rintro _ ⟨⟩ empty
        simp [isBlankText, empty] at notBlank
      · simp only [if_neg kept]
        exact canonical_base mode

theorem bare_parts (text : String) :
    ∀ key, (parts text).2 = some key → HasBareEnds key.toList := by
  intro key given
  unfold parts at given
  cases cut : splitAtChar? ':' (trimChars text.toList) with
  | none => simp [cut] at given
  | some both =>
      simp only [cut, Option.some.injEq] at given
      rw [← given, String.toList_ofList]
      exact hasBareEnds_trimChars _

/-- What a text writes is a canonical selection. -/
theorem canonical_ofText {text : String} {selection : ModeSelection}
    (reads : ofText text = .ok selection) : selection.Canonical := by
  have bare := bare_parts text
  unfold ofText at reads
  rcases given : parts text with ⟨written, key⟩
  rw [given] at reads bare
  cases named : ChatMode.ofText written with
  | error => simp [named] at reads
  | ok mode =>
      by_cases missing : (mode.isStyled && (key.getD "").isEmpty) = true
      · simp [named, missing] at reads
      · simp only [named, if_neg missing, Except.ok.injEq] at reads
        exact reads ▸ canonical_of mode bare

/-! ## Reading back -/

theorem parts_name (mode : ChatMode) : parts mode.name = (mode.name, none) := by
  rw [parts, trimChars_eq_self mode.hasBareEnds_name, splitAtChar?_eq_none mode.colon_notMem_name]

theorem parts_styled (mode : ChatMode) {key : String} (bare : HasBareEnds key.toList)
    (notEmpty : key.toList ≠ []) : parts (mode.name ++ ":" ++ key) = (mode.name, some key) := by
  have written : (mode.name ++ ":" ++ key).toList = mode.name.toList ++ ':' :: key.toList := by
    simp
  have named : mode.name.toList ≠ [] := by cases mode <;> decide
  have whole : HasBareEnds (mode.name.toList ++ ':' :: key.toList) :=
    mode.hasBareEnds_name.append bare named notEmpty [':']
  rw [parts, written, trimChars_eq_self whole, splitAtChar?_append mode.colon_notMem_name]
  simp [trimChars_eq_self bare]

/-- What a text writes whose parts name a mode. -/
theorem ofText_of_parts {text written : String} {styleKey : Option String} {mode : ChatMode}
    (cut : parts text = (written, styleKey)) (names : ChatMode.ofText written = .ok mode) :
    ofText text =
      if mode.isStyled && (styleKey.getD "").isEmpty then .error (.missingStyleKey mode)
      else .ok (of mode styleKey) := by
  unfold ofText
  rw [cut]
  simp only [names]

/-- **A canonical selection is read back from its written form.** -/
theorem ofText_render {selection : ModeSelection} (canonical : selection.Canonical) :
    ofText selection.render = .ok selection := by
  obtain ⟨mode, styleKey⟩ := selection
  obtain ⟨styled, bare, notEmpty⟩ := canonical
  cases styleKey with
  | none =>
      have plain : mode.isStyled = false := styled
      have reads := ofText_of_parts (parts_name mode) mode.ofText_name
      have made : of mode none = ⟨mode, none⟩ :=
        congrArg (ModeSelection.mk · none) (ChatMode.base_eq_self plain)
      rw [plain, Bool.false_and, if_neg Bool.false_ne_true, made] at reads
      exact reads
  | some key =>
      have isStyled : mode.isStyled = true := styled
      have some := notEmpty key rfl
      have notBlank := isBlankText_eq_false (bare key rfl) some
      have given : key.isEmpty = false := by
        rw [String.isEmpty_eq_false_iff]
        rintro rfl
        exact some rfl
      have reads := ofText_of_parts (parts_styled mode (bare key rfl) some) mode.ofText_name
      have made : of mode (.some key) = ⟨mode, key⟩ := by simp [of, isStyled, notBlank]
      rw [isStyled, Option.getD_some, given, Bool.true_and, if_neg Bool.false_ne_true, made] at reads
      exact reads

/-- The case of the letters of a mode and blanks around its parts do not count. -/
example : (ofText " RAG_Style : tutor ").toOption = some ⟨.ragStyle, some "tutor"⟩ := by
  decide +kernel

end ModeSelection

end NoteDialogue
