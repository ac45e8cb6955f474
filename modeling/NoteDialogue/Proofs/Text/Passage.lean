import NoteDialogue.Text.Passage

/-!
# Passages and cuts

A text is cut at the first occurrence of a character into what stands before it and what stands after it
(`splitAtChar?_append`).  A passage occurs in a text when it is a stretch of its characters
(`containsChars_iff`).  A passage without a character does not reach over that character, so it occurs on
one of its two sides (`infix_of_infix_append_cons`).
-/

set_option autoImplicit false

namespace NoteDialogue.Text

variable {passage before after : List Char} {mark : Char}

/-! ## Cutting at a character -/

theorem splitAtChar?_append (absent : mark ∉ before) (after : List Char) :
    splitAtChar? mark (before ++ mark :: after) = some (before, after) := by
  induction before with
  | nil => simp [splitAtChar?, splitOnce?]
  | cons first rest ih =>
      rw [List.mem_cons, not_or] at absent
      have cut := ih absent.2
      rw [splitAtChar?] at cut
      simp [splitAtChar?, splitOnce?, absent.1, cut]

theorem splitAtChar?_eq_none {cs : List Char} (absent : mark ∉ cs) : splitAtChar? mark cs = none := by
  induction cs with
  | nil => rfl
  | cons first rest ih =>
      rw [List.mem_cons, not_or] at absent
      have cut := ih absent.2
      rw [splitAtChar?] at cut
      simp [splitAtChar?, splitOnce?, absent.1, cut]

/-! ## Where a passage occurs -/

theorem containsChars_iff {cs : List Char} : containsChars passage cs = true ↔ passage <:+: cs := by
  induction cs with
  | nil => simp [containsChars]
  | cons first rest ih =>
      rw [containsChars, Bool.or_eq_true, List.isPrefixOf_iff_prefix, ih, List.infix_cons_iff]

theorem prefix_of_prefix_append_cons (begins : passage <+: before ++ mark :: after)
    (absent : mark ∉ passage) : passage <+: before := by
  have cut : before ++ [mark] <+: before ++ mark :: after := ⟨after, by simp⟩
  rcases List.prefix_or_prefix_of_prefix begins cut with within | beyond
  · rcases List.prefix_concat_iff.mp within with rfl | short
    · exact absurd (by simp) absent
    · exact short
  · exact absurd (beyond.subset (by simp)) absent

theorem contains_iff {text passage : String} :
    contains text passage = true ↔ passage.toList <:+: text.toList :=
  containsChars_iff

/-- A passage does not reach over a character that it does not have. -/
theorem infix_of_infix_append_cons (absent : mark ∉ passage)
    (occurs : passage <:+: before ++ mark :: after) : passage <:+: before ∨ passage <:+: after := by
  induction before with
  | nil =>
      rcases List.infix_cons_iff.mp occurs with begins | later
      · exact .inl (prefix_of_prefix_append_cons begins absent).isInfix
      · exact .inr later
  | cons first rest ih =>
      rcases List.infix_cons_iff.mp occurs with begins | later
      · exact .inl (prefix_of_prefix_append_cons begins absent).isInfix
      · exact (ih later).imp_left List.infix_cons

end NoteDialogue.Text
