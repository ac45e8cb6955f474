import NoteDialogue.Proofs.Text.Passage
import NoteDialogue.Text.Blank
import NoteDialogue.Text.LetterCase

/-!
# Openings in any letter case

A text has an opening when it begins with a spelling of it, which differs from it in the case of ASCII letters
at most (`afterOpening?_eq_some_iff`).  An opening that is spelled nowhere in a text is found at none of its
places (`afterOpening?_eq_none`).  No letter is blank, in either case (`isBlank_asciiLower`).  Every character has
a lower case of one character at least (`lowerChars_eq_nil_iff`).
-/

set_option autoImplicit false

namespace NoteDialogue.Text

variable {opening text rest : List Char}

theorem small_of_capital {c : Char} (capital : 'A' ≤ c ∧ c ≤ 'Z') :
    'a' ≤ Char.ofNat (c.toNat + 32) ∧ Char.ofNat (c.toNat + 32) ≤ 'z' := by
  have letters : ∀ place < 26, 'a' ≤ Char.ofNat (65 + place + 32) ∧
      Char.ofNat (65 + place + 32) ≤ 'z' := by
    decide
  have low : 65 ≤ c.toNat := capital.1
  have high : c.toNat ≤ 90 := capital.2
  have small := letters (c.toNat - 65) (by omega)
  rwa [Nat.add_sub_cancel' low] at small

/-- What is no small letter in lower case was the same before. -/
theorem eq_of_asciiLower_eq {c mark : Char} (same : asciiLower c = mark)
    (noLetter : ¬ ('a' ≤ mark ∧ mark ≤ 'z')) : c = mark := by
  unfold asciiLower at same
  by_cases capital : 'A' ≤ c ∧ c ≤ 'Z'
  · rw [if_pos (by simpa using capital)] at same
    exact absurd (same ▸ small_of_capital capital) noLetter
  · rwa [if_neg (by simpa using capital)] at same

theorem isBlank_of_letter {c : Char} (low : 'A' ≤ c) (high : c ≤ 'z') : isBlank c = false := by
  have from65 : 65 ≤ c.toNat := low
  have upTo122 : c.toNat ≤ 122 := high
  simp only [isBlank, Bool.or_eq_false_iff, Bool.and_eq_false_iff, beq_eq_false_iff_ne,
    decide_eq_false_iff_not]
  omega

theorem isBlank_asciiLower (c : Char) : isBlank (asciiLower c) = isBlank c := by
  unfold asciiLower
  by_cases capital : 'A' ≤ c ∧ c ≤ 'Z'
  · obtain ⟨low, high⟩ := small_of_capital capital
    rw [if_pos (by simpa using capital), isBlank_of_letter (Char.le_trans (by decide) low) high,
      isBlank_of_letter capital.1 (Char.le_trans capital.2 (by decide))]
  · rw [if_neg (by simpa using capital)]

theorem lowerOf_ne_nil (c : Char) : lowerOf c ≠ [] := by
  unfold lowerOf
  split
  · exact List.cons_ne_nil _ _
  · split <;> exact List.cons_ne_nil _ _

theorem lowerChars_eq_nil_iff {cs : List Char} : lowerChars cs = [] ↔ cs = [] := by
  cases cs with
  | nil => exact ⟨fun _ => rfl, fun _ => rfl⟩
  | cons c rest =>
      simp only [lowerChars, lowerFrom, List.append_eq_nil_iff, reduceCtorEq, iff_false, not_and]
      intro none
      split at none
      · cases none
      · exact absurd none (lowerOf_ne_nil c)

/-- A character that has no other lower case stays where a text is brought to lower case. -/
theorem mem_lowerFrom {c : Char} {cs : List Char} (same : lowerOf c = [c]) (noSigma : c.toNat ≠ 0x3A3)
    (inside : c ∈ cs) (casedBefore : Bool) : c ∈ lowerFrom casedBefore cs := by
  induction cs generalizing casedBefore with
  | nil => cases inside
  | cons first rest ih =>
      rw [lowerFrom, List.mem_append]
      rcases List.mem_cons.mp inside with rfl | later
      · left
        rw [if_neg noSigma, same]
        exact List.mem_singleton_self c
      · exact .inr (ih later _)

theorem visible_of_all {cs : List Char} (all : (cs.all fun c => !isBlank c) = true) :
    ∀ c ∈ cs, isBlank c = false := by
  simpa using all

/-- However an opening without blanks is spelled, it has none. -/
theorem visible_of_spelled {spelled : List Char} (same : spelled.map asciiLower = opening.map asciiLower)
    (visible : ∀ c ∈ opening, isBlank c = false) : ∀ c ∈ spelled, isBlank c = false := by
  intro c inside
  obtain ⟨d, member, lower⟩ := List.mem_map.mp (same ▸ List.mem_map_of_mem (f := asciiLower) inside)
  rw [← isBlank_asciiLower, ← lower, isBlank_asciiLower, visible d member]

/-- A text has an opening when it begins with a spelling of it. -/
theorem afterOpening?_eq_some_iff :
    afterOpening? opening text = some rest ↔
      ∃ spelled, text = spelled ++ rest ∧ spelled.map asciiLower = opening.map asciiLower := by
  induction opening generalizing text with
  | nil =>
      simp only [afterOpening?, Option.some.injEq, List.map_nil, List.map_eq_nil_iff]
      constructor
      · rintro rfl
        exact ⟨[], rfl, rfl⟩
      · rintro ⟨_, rfl, rfl⟩
        rfl
  | cons expected opening ih =>
      cases text with
      | nil =>
          simp only [afterOpening?, reduceCtorEq, false_iff]
          rintro ⟨spelled, none, same⟩
          obtain ⟨rfl, -⟩ := List.append_eq_nil_iff.mp none.symm
          cases same
      | cons c text =>
          by_cases agrees : asciiLower expected = asciiLower c
          · rw [afterOpening?, if_pos agrees, ih]
            constructor
            · rintro ⟨spelled, rfl, same⟩
              exact ⟨c :: spelled, rfl, by rw [List.map_cons, List.map_cons, same, agrees]⟩
            · rintro ⟨spelled, split, same⟩
              cases spelled with
              | nil => cases same
              | cons first spelled =>
                  obtain ⟨-, later⟩ := List.cons.inj split
                  exact ⟨spelled, later, (List.cons.inj same).2⟩
          · rw [afterOpening?, if_neg agrees]
            simp only [reduceCtorEq, false_iff]
            rintro ⟨spelled, split, same⟩
            cases spelled with
            | nil => cases same
            | cons first spelled =>
                obtain ⟨rfl, -⟩ := List.cons.inj split
                exact agrees (List.cons.inj same).1.symm

/-- A text ends here, or goes on with a space. -/
def EndsHere (rest : List Char) : Prop :=
  rest = [] ∨ ∃ later, rest = ' ' :: later

theorem prefix_of_prefix_append {passage before : List Char} (begins : passage <+: before ++ rest)
    (ends : EndsHere rest) (absent : ' ' ∉ passage) : passage <+: before := by
  rcases ends with rfl | ⟨later, rfl⟩
  · rwa [List.append_nil] at begins
  · exact prefix_of_prefix_append_cons begins absent

/-- An opening without spaces that is spelled nowhere in a stretch is found at none of its places, however
the text goes on after a space. -/
theorem afterOpening?_eq_none {stretch suffix : List Char}
    (lacks : ¬ opening.map asciiLower <:+: stretch.map asciiLower)
    (spaceless : ' ' ∉ opening.map asciiLower) (within : suffix <:+ stretch) (ends : EndsHere rest) :
    afterOpening? opening (suffix ++ rest) = none := by
  rw [Option.eq_none_iff_forall_ne_some]
  intro after opens
  obtain ⟨spelled, split, same⟩ := afterOpening?_eq_some_iff.mp opens
  have absent : ' ' ∉ spelled := by
    intro space
    exact spaceless (same ▸ List.mem_map.mpr ⟨' ', space, rfl⟩)
  have begins : spelled <+: suffix := prefix_of_prefix_append ⟨after, split.symm⟩ ends absent
  exact lacks (same ▸ (begins.isInfix.trans within.isInfix).map asciiLower)

end NoteDialogue.Text
