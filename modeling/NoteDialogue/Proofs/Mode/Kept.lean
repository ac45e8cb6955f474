import NoteDialogue.Proofs.Mode.Directive

/-!
# Selections that a caller keeps

A caller gets a selection from an utterance or from a written text, and may drop its style.  What he gets in one of
these ways, or in several of them, is canonical, and every canonical selection is got from its written form
(`ModeSelection.obtained_iff_canonical`).

So a caller may keep the written form in the place of the selection: it is read back, whatever the key of the style
holds (`ModeSelection.obtained_roundTrip`).
-/

set_option autoImplicit false

namespace NoteDialogue

open Text

namespace ModeSelection

variable {selection : ModeSelection}

/-- The selections that utterances and written texts lead to, and the same without their style. -/
inductive Obtained : ModeSelection → Prop where
  | spoken (utterance : String) : Obtained (Directive.ofUtterance utterance).selection
  | written {text : String} {selection : ModeSelection} (reads : ofText text = .ok selection) : Obtained selection
  | unstyled {selection : ModeSelection} (obtained : Obtained selection) : Obtained selection.unstyled

/-- **Every way to a selection normalises it in the same way.** -/
theorem obtained_iff_canonical : Obtained selection ↔ selection.Canonical := by
  constructor
  · intro obtained
    cases obtained with
    | spoken utterance => exact Directive.canonical_selection utterance
    | written reads => exact canonical_ofText reads
    | unstyled => exact canonical_unstyled _
  · intro canonical
    exact .written (ofText_render canonical)

/-- A canonical selection applies a style exactly if it has a key to find one by. -/
theorem Canonical.isStyled_iff (canonical : selection.Canonical) :
    selection.mode.isStyled = true ↔ ∃ key, selection.styleKey = some key ∧ isBlankText key = false := by
  rw [canonical.styled_iff, Option.isSome_iff_exists]
  constructor
  · rintro ⟨key, given⟩
    exact ⟨key, given, isBlankText_eq_false (canonical.bare key given) (canonical.notEmpty key given)⟩
  · rintro ⟨key, given, -⟩
    exact ⟨key, given⟩

/-- **The written form may be kept in the place of a selection.**  A selection that was read from an utterance or from
a text, with or without its style, is styled exactly if it has a key that is not blank, and it is read back from its
written form. -/
theorem obtained_roundTrip (obtained : Obtained selection) :
    (selection.mode.isStyled = true ↔ ∃ key, selection.styleKey = some key ∧ isBlankText key = false) ∧
      ofText selection.render = .ok selection := by
  have canonical := obtained_iff_canonical.mp obtained
  exact ⟨canonical.isStyled_iff, ofText_render canonical⟩

/-- A key with a colon, inner spaces and letters that are not ASCII, under a mode in capitals. -/
theorem obtained_roundTrip_of_colons :
    let selection : ModeSelection := ⟨.bypassStyle, some "É : de  Ü"⟩
    ofText " BYPASS_Style :É : de  Ü " = .ok selection ∧ selection.render = "bypass_style:É : de  Ü" ∧
      selection.mode.isStyled = true ∧ ofText "bypass_style:É : de  Ü" = .ok selection := by
  intro selection
  have reads : ofText " BYPASS_Style :É : de  Ü " = .ok selection := rfl
  obtain ⟨styled, back⟩ := obtained_roundTrip (.written reads)
  have rendered : selection.render = "bypass_style:É : de  Ü" := by decide
  exact ⟨reads, rendered, styled.mpr ⟨_, rfl, by decide +kernel⟩, rendered ▸ back⟩

end ModeSelection

end NoteDialogue
