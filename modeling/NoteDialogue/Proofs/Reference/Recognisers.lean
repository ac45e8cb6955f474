import NoteDialogue.Proofs.Reference.Grammar
import NoteDialogue.Proofs.Reference.Segments

/-!
# What is recognised

What a recogniser has recognised at the start of a text is written as its syntax says: a spelled opening, a
title without excluded characters and a closing (`enclosed_eq_some`), or a spelled tag and a token
(`bareTag_eq_some`).  So it is a stretch of the text, and its first character tells that it may be a mention.
-/

set_option autoImplicit false

namespace NoteDialogue

open Text (asciiLower)

variable {opening closing text rest : List Char} {excluded : Char → Bool} {found : Recognised} {c : Char}

/-! ## Titles -/

theorem upTo_eq_some {body : List Char} (reaches : upTo excluded closing text = some body) :
    (∀ c ∈ body, excluded c = false) ∧ ∃ rest, text = body ++ (closing ++ rest) := by
  simp only [upTo] at reaches
  split at reaches
  case isFalse => cases reaches
  case isTrue closes =>
      cases reaches
      obtain ⟨-, closes⟩ := Bool.and_eq_true_iff.mp closes
      obtain ⟨rest, closed⟩ := List.isPrefixOf_iff_prefix.mp closes
      refine ⟨fun c inside => by simpa using List.all_eq_true.mp List.all_takeWhile c inside, rest, ?_⟩
      rw [closed]
      exact (List.prefix_iff_eq_append.mp (List.takeWhile_prefix _)).symm

/-- A recognised title stands between a spelled opening and the closing. -/
theorem enclosed_eq_some (reads : enclosed opening closing excluded text = some found) :
    ∃ spelled title rest, text = spelled ++ (title ++ (closing ++ rest)) ∧
      spelled.map asciiLower = opening.map asciiLower ∧ (∀ c ∈ title, excluded c = false) ∧
      Text.trimChars title ≠ [] ∧
      found = ⟨opening.length + title.length + closing.length, Text.trimChars title⟩ := by
  unfold enclosed at reads
  split at reads
  case h_1 => cases reads
  case h_2 after opens =>
      split at reads
      case h_1 => cases reads
      case h_2 title reaches =>
          obtain ⟨spelled, rfl, same⟩ := Text.afterOpening?_eq_some_iff.mp opens
          obtain ⟨inside, rest, rfl⟩ := upTo_eq_some reaches
          simp only [List.isEmpty_iff, Option.ite_none_left_eq_some, Option.some.injEq] at reads
          obtain ⟨visible, rfl⟩ := reads
          exact ⟨spelled, title, rest, rfl, same, inside, visible, rfl⟩

/-! ## Tokens -/

/-- A recognised token stands after a spelled tag, and does not end like a clause. -/
theorem bareTag_eq_some (reads : bareTag text = some found) :
    ∃ tag token rest, text = tag ++ (token ++ rest) ∧ tag.map asciiLower = referenceTag ∧
      token ≠ [] ∧ (∀ c ∈ token, isTokenChar c = true) ∧
      (∀ c ∈ token.getLast?, isClauseMark c = false) ∧
      found = ⟨referenceTag.length + token.length, token⟩ := by
  unfold bareTag at reads
  split at reads
  case h_1 => cases reads
  case h_2 after opens =>
      obtain ⟨tag, rfl, same⟩ := Text.afterOpening?_eq_some_iff.mp opens
      simp only [List.isEmpty_iff, Option.ite_none_left_eq_some, Option.some.injEq] at reads
      obtain ⟨some, rfl⟩ := reads
      have begins := Text.dropTrailing_prefix isClauseMark (after.takeWhile isTokenChar)
      obtain ⟨rest, split⟩ := begins.trans (List.takeWhile_prefix isTokenChar)
      refine ⟨tag, _, rest, by rw [split], same, some, fun c inside => ?_,
        Text.getLast?_dropTrailing isClauseMark _, rfl⟩
      exact List.all_eq_true.mp List.all_takeWhile c (begins.subset inside)

/-- Neither the tag nor the token has a space. -/
theorem space_notMem_bare {tag token : List Char} (same : tag.map asciiLower = referenceTag)
    (inside : ∀ c ∈ token, isTokenChar c = true) : ' ' ∉ tag ++ token := by
  intro space
  rcases List.mem_append.mp space with inTag | inToken
  · have absent : asciiLower ' ' ∉ referenceTag := by decide
    exact absent (same ▸ List.mem_map_of_mem inTag)
  · have blank : isTokenChar ' ' = false := rfl
    exact absurd (inside ' ' inToken) (by simp [blank])

/-! ## Stretches of a text -/

theorem enclosed_fits (some : opening ++ closing ≠ []) : (enclosed opening closing excluded).Fits := by
  intro text found reads
  obtain ⟨spelled, title, rest, rfl, same, -, -, rfl⟩ := enclosed_eq_some reads
  have spelledLength := congrArg List.length same
  have someLength := List.length_pos_of_ne_nil some
  simp only [List.length_map, List.length_append] at spelledLength someLength ⊢
  omega

theorem quotedTag_fits : quotedTag.Fits := enclosed_fits (by decide)

theorem wikiLink_fits : wikiLink.Fits := enclosed_fits (by decide)

theorem bareTag_fits : bareTag.Fits := by
  intro text found reads
  obtain ⟨tag, token, rest, rfl, same, -, -, -, rfl⟩ := bareTag_eq_some reads
  have tagLength := congrArg List.length same
  have someLength : 0 < referenceTag.length := by decide
  simp only [List.length_map, List.length_append] at tagLength ⊢
  omega

/-! ## Mentions that are cut out -/

section Divided

variable {α : Type} {letter : α → Char} {items within : List α} {segments : List (Segment α)}
  {value : List Char}

/-- A title that is cut out stands between a spelled opening and the closing. -/
theorem Divides.enclosed_mention
    (divides : Divides (enclosed opening closing excluded) letter items segments)
    (member : Segment.mention within value ∈ segments) :
    ∃ spelled title, within.map letter = spelled ++ (title ++ closing) ∧
      spelled.map asciiLower = opening.map asciiLower ∧ (∀ c ∈ title, excluded c = false) ∧
      Text.trimChars title ≠ [] ∧ value = Text.trimChars title := by
  obtain ⟨-, rest, reads⟩ := divides.reads member
  obtain ⟨spelled, title, after, split, same, inside, visible, found⟩ := enclosed_eq_some reads
  obtain ⟨length, rfl⟩ := Recognised.mk.inj found
  refine ⟨spelled, title, ?_, same, inside, visible, rfl⟩
  have spelledLength := congrArg List.length same
  simp only [List.length_map] at spelledLength
  have regrouped : within.map letter ++ rest.map letter = (spelled ++ (title ++ closing)) ++ after := by
    rw [split, List.append_assoc, List.append_assoc]
  refine (List.append_inj regrouped ?_).1
  simp only [List.length_map, List.length_append]
  omega

/-- A token that is cut out stands after a spelled tag. -/
theorem Divides.bareTag_mention (divides : Divides bareTag letter items segments)
    (member : Segment.mention within value ∈ segments) :
    ∃ tag, within.map letter = tag ++ value ∧ tag.map asciiLower = referenceTag ∧ value ≠ [] ∧
      (∀ c ∈ value, isTokenChar c = true) ∧ ∀ c ∈ value.getLast?, isClauseMark c = false := by
  obtain ⟨-, rest, reads⟩ := divides.reads member
  obtain ⟨tag, token, after, split, same, some, inside, last, found⟩ := bareTag_eq_some reads
  obtain ⟨length, rfl⟩ := Recognised.mk.inj found
  refine ⟨tag, ?_, same, some, inside, last⟩
  have tagLength := congrArg List.length same
  simp only [List.length_map] at tagLength
  have regrouped : within.map letter ++ rest.map letter = (tag ++ value) ++ after := by
    rw [split, List.append_assoc]
  refine (List.append_inj regrouped ?_).1
  simp only [List.length_map, List.length_append]
  omega

end Divided

end NoteDialogue
