import NoteDialogue.Text.Blank

/-!
# Trimmed texts

A text without blanks at either end stays as it is when it is trimmed (`trimChars_eq_self`).  What was trimmed
is such a text, and so is what is put together from words.
-/

set_option autoImplicit false

namespace NoteDialogue.Text

/-- Neither the first character nor the last one is blank. -/
def HasBareEnds (cs : List Char) : Prop :=
  (∀ c ∈ cs.head?, isBlank c = false) ∧ ∀ c ∈ cs.getLast?, isBlank c = false

/-- Only the characters at the ends are looked at. -/
instance (cs : List Char) : Decidable (HasBareEnds cs) :=
  decidable_of_iff (cs.head?.all (!isBlank ·) = true ∧ cs.getLast?.all (!isBlank ·) = true) <| by
    simp [HasBareEnds, Option.all_eq_true]

theorem dropWhile_eq_self {inClass : Char → Bool} {cs : List Char}
    (first : ∀ c ∈ cs.head?, inClass c = false) : cs.dropWhile inClass = cs := by
  cases cs with
  | nil => rfl
  | cons c rest =>
      have seen : inClass c = false := first c rfl
      rw [List.dropWhile_cons_of_neg]
      simp [seen]

theorem takeWhile_append_of_stop {kept : Char → Bool} {stretch rest : List Char}
    (all : ∀ c ∈ stretch, kept c = true) (stop : ∀ c ∈ rest.head?, kept c = false) :
    (stretch ++ rest).takeWhile kept = stretch := by
  rw [List.takeWhile_append_of_pos all]
  cases rest with
  | nil => simp
  | cons c rest => simp [stop c rfl]

theorem dropWhile_append_of_stop {dropped : Char → Bool} {stretch rest : List Char}
    (all : ∀ c ∈ stretch, dropped c = true) (stop : ∀ c ∈ rest.head?, dropped c = false) :
    (stretch ++ rest).dropWhile dropped = rest := by
  rw [List.dropWhile_append_of_pos all, dropWhile_eq_self stop]

theorem dropTrailing_eq_self {inClass : Char → Bool} {cs : List Char}
    (last : ∀ c ∈ cs.getLast?, inClass c = false) : dropTrailing inClass cs = cs := by
  rw [← List.head?_reverse] at last
  rw [dropTrailing, dropWhile_eq_self last, List.reverse_reverse]

theorem head?_dropWhile_bare (cs : List Char) :
    ∀ c ∈ (cs.dropWhile isBlank).head?, isBlank c = false := by
  intro c first
  have notBlank := List.head?_dropWhile_not isBlank cs
  rw [Option.mem_def.mp first] at notBlank
  exact notBlank

theorem trimChars_eq_self {cs : List Char} (bare : HasBareEnds cs) : trimChars cs = cs := by
  rw [trimChars, trimLeftChars, dropWhile_eq_self bare.1, dropTrailing_eq_self bare.2]

/-- Only characters of the class are dropped. -/
theorem exists_dropTrailing_append (inClass : Char → Bool) (cs : List Char) :
    ∃ dropped, cs = dropTrailing inClass cs ++ dropped ∧ ∀ c ∈ dropped, inClass c = true := by
  refine ⟨(cs.reverse.takeWhile inClass).reverse, ?_, fun c member => ?_⟩
  · rw [dropTrailing, ← List.reverse_append, List.takeWhile_append_dropWhile, List.reverse_reverse]
  · exact List.all_eq_true.mp List.all_takeWhile c (List.mem_reverse.mp member)

theorem dropTrailing_ne_nil {inClass : Char → Bool} {cs : List Char} {c : Char} (inside : c ∈ cs)
    (outside : inClass c = false) : dropTrailing inClass cs ≠ [] := by
  intro none
  obtain ⟨dropped, split, all⟩ := exists_dropTrailing_append inClass cs
  rw [none, List.nil_append] at split
  exact Bool.false_ne_true (outside.symm.trans (all c (split ▸ inside)))

theorem dropTrailing_prefix (inClass : Char → Bool) (cs : List Char) : dropTrailing inClass cs <+: cs := by
  obtain ⟨dropped, split, -⟩ := exists_dropTrailing_append inClass cs
  exact ⟨dropped, split.symm⟩

/-- What is kept does not end with a character of the class. -/
theorem getLast?_dropTrailing (inClass : Char → Bool) (cs : List Char) :
    ∀ c ∈ (dropTrailing inClass cs).getLast?, inClass c = false := by
  intro c last
  rw [dropTrailing, List.getLast?_reverse] at last
  have notInClass := List.head?_dropWhile_not inClass cs.reverse
  rw [Option.mem_def.mp last] at notInClass
  exact notInClass

theorem head?_dropTrailing_bare {cs : List Char} (bare : ∀ c ∈ cs.head?, isBlank c = false) :
    ∀ c ∈ (dropTrailing isBlank cs).head?, isBlank c = false := by
  intro c first
  obtain ⟨dropped, split, -⟩ := exists_dropTrailing_append isBlank cs
  refine bare c ?_
  rw [split, List.head?_append, Option.mem_def.mp first]
  rfl

/-- What was trimmed has no blanks at its ends. -/
theorem hasBareEnds_trimChars (cs : List Char) : HasBareEnds (trimChars cs) := by
  exact ⟨head?_dropTrailing_bare (head?_dropWhile_bare cs), getLast?_dropTrailing isBlank _⟩

/-- Of blanks around a passage nothing is left. -/
theorem trimChars_surrounded {before passage after : List Char} (blankBefore : ∀ c ∈ before, isBlank c = true)
    (blankAfter : ∀ c ∈ after, isBlank c = true) (bare : HasBareEnds passage) (some : passage ≠ []) :
    trimChars (before ++ (passage ++ after)) = passage := by
  have leading : (before ++ (passage ++ after)).dropWhile isBlank = passage ++ after := by
    refine dropWhile_append_of_stop blankBefore fun c first => bare.1 c ?_
    rwa [List.head?_append, Option.or_of_isSome (List.isSome_head?.mpr some)] at first
  have trailing : (after.reverse ++ passage.reverse).dropWhile isBlank = passage.reverse :=
    dropWhile_append_of_stop (by simpa using blankAfter) (by simpa using bare.2)
  rw [trimChars, trimLeftChars, leading, dropTrailing, List.reverse_append, trailing, List.reverse_reverse]

theorem trimChars_trim (text : String) : trimChars (trim text).toList = trimChars text.toList := by
  rw [trim, String.toList_ofList, trimChars_eq_self (hasBareEnds_trimChars _)]

theorem trim_trim (text : String) : trim (trim text) = trim text := by
  rw [trim, trimChars_trim, trim]

/-- A trimmed text is a stretch of the text. -/
theorem infix_trimChars (cs : List Char) : trimChars cs <:+: cs := by
  have leading : (cs.dropWhile isBlank) <:+ cs := List.dropWhile_suffix isBlank
  have trailing : trimChars cs <+: cs.dropWhile isBlank := dropTrailing_prefix isBlank _
  exact trailing.isInfix.trans leading.isInfix

theorem dropWhile_around {passage : List Char} (before after : List Char) (some : passage ≠ [])
    (bare : ∀ c ∈ passage.head?, isBlank c = false) :
    (before ++ (passage ++ after)).dropWhile isBlank = before.dropWhile isBlank ++ (passage ++ after) := by
  have kept : (passage ++ after).dropWhile isBlank = passage ++ after := by
    refine dropWhile_eq_self fun c first => bare c ?_
    rwa [List.head?_append, Option.or_of_isSome (List.isSome_head?.mpr some)] at first
  rw [List.dropWhile_append, kept]
  split
  case isTrue none => rw [List.isEmpty_iff.mp none, List.nil_append]
  case isFalse => rfl

theorem dropTrailing_around {passage : List Char} (before after : List Char) (some : passage ≠ [])
    (bare : ∀ c ∈ passage.getLast?, isBlank c = false) :
    dropTrailing isBlank (before ++ (passage ++ after)) =
      before ++ (passage ++ dropTrailing isBlank after) := by
  have reversed : ∀ c ∈ passage.reverse.head?, isBlank c = false := by
    rw [List.head?_reverse]
    exact bare
  have flipped : (before ++ (passage ++ after)).reverse =
      after.reverse ++ (passage.reverse ++ before.reverse) := by simp
  rw [dropTrailing, dropTrailing, flipped,
    dropWhile_around _ _ (List.reverse_ne_nil_iff.mpr some) reversed]
  simp

/-- What stands around a passage is trimmed on its outer side only. -/
theorem trimChars_around {passage : List Char} (before after : List Char) (some : passage ≠ [])
    (bare : HasBareEnds passage) :
    trimChars (before ++ (passage ++ after)) =
      trimLeftChars before ++ (passage ++ dropTrailing isBlank after) := by
  rw [trimChars, trimLeftChars, dropWhile_around before after some bare.1,
    dropTrailing_around _ after some bare.2, trimLeftChars]

theorem trimChars_cons_blank {c : Char} (blank : isBlank c = true) (cs : List Char) :
    trimChars (c :: cs) = trimChars cs := by
  rw [trimChars, trimLeftChars, List.dropWhile_cons_of_pos blank, trimChars, trimLeftChars]

theorem dropTrailing_append_of_all {inClass : Char → Bool} {dropped : List Char}
    (all : ∀ c ∈ dropped, inClass c = true) (cs : List Char) :
    dropTrailing inClass (cs ++ dropped) = dropTrailing inClass cs := by
  rw [dropTrailing, List.reverse_append, List.dropWhile_append_of_pos (by simpa using all), dropTrailing]

/-- Blanks at the end may be dropped before a text is trimmed. -/
theorem trimChars_dropTrailing (cs : List Char) : trimChars (dropTrailing isBlank cs) = trimChars cs := by
  obtain ⟨dropped, split, all⟩ := exists_dropTrailing_append isBlank cs
  have none : dropped.dropWhile isBlank = [] := by
    rw [← List.append_nil dropped, List.dropWhile_append_of_pos all, List.dropWhile_nil]
  have trimmed : trimChars cs = trimChars (dropTrailing isBlank cs ++ dropped) := congrArg trimChars split
  rw [trimmed, trimChars, trimChars, trimLeftChars, trimLeftChars, List.dropWhile_append, none]
  split
  case isTrue empty => rw [List.isEmpty_iff.mp empty]
  case isFalse => exact (dropTrailing_append_of_all all _).symm

/-- A passage without blanks at its ends that occurs in a text is not touched by trimming it. -/
theorem infix_trimChars_of_infix {passage cs : List Char} (bare : HasBareEnds passage)
    (some : passage ≠ []) (occurs : passage <:+: cs) : passage <:+: trimChars cs := by
  obtain ⟨before, after, rfl⟩ := occurs
  rw [List.append_assoc, trimChars_around before after some bare]
  exact ⟨_, _, List.append_assoc _ _ _⟩

/-- Something is left of a text when it is trimmed if it is not blank. -/
theorem trimChars_ne_nil_iff {cs : List Char} : trimChars cs ≠ [] ↔ ∃ c ∈ cs, isBlank c = false := by
  constructor
  · intro some
    obtain ⟨c, rest, trimmed⟩ := List.exists_cons_of_ne_nil some
    exact ⟨c, (infix_trimChars cs).subset (by simp [trimmed]),
      (hasBareEnds_trimChars cs).1 c (by simp [trimmed])⟩
  · rintro ⟨c, inside, visible⟩ none
    obtain ⟨before, after, rfl⟩ := List.append_of_mem inside
    have bareEnds : HasBareEnds [c] := ⟨by simp [visible], by simp [visible]⟩
    have occurs : [c] <:+: before ++ c :: after := ⟨before, after, by simp⟩
    have kept := infix_trimChars_of_infix bareEnds nofun occurs
    rw [none] at kept
    cases List.infix_nil.mp kept

theorem trimChars_ne_nil {text : String} (notBlank : isBlankText text = false) :
    trimChars text.toList ≠ [] := by
  obtain ⟨c, inside, visible⟩ := List.all_eq_false.mp notBlank
  exact trimChars_ne_nil_iff.mpr ⟨c, inside, Bool.eq_false_iff.mpr visible⟩

/-! ## Words -/

/-- A word has a character, and none that is blank. -/
def IsWord (word : List Char) : Prop :=
  word ≠ [] ∧ ∀ c ∈ word, isBlank c = false

theorem forall_mem_pieces (separates : Char → Bool) (cs : List Char) :
    ∀ piece ∈ pieces separates cs, ∀ c ∈ piece, separates c = false := by
  induction cs with
  | nil => simp [pieces]
  | cons c rest ih =>
      cases splits : separates c with
      | true => simpa [pieces, splits] using ih
      | false =>
          simp only [pieces, splits]
          cases later : pieces separates rest with
          | nil => simp [splits]
          | cons first others =>
              rw [later] at ih
              simpa [splits] using ih

theorem isWord_of_mem {cs word : List Char} (member : word ∈ wordsOfChars cs) : IsWord word := by
  obtain ⟨piece, nonempty⟩ := List.mem_filter.mp member
  refine ⟨?_, forall_mem_pieces isBlank cs word piece⟩
  rintro rfl
  cases nonempty

theorem pieces_ne_nil (separates : Char → Bool) (cs : List Char) : pieces separates cs ≠ [] := by
  cases cs with
  | nil => exact nofun
  | cons c rest =>
      unfold pieces
      split
      · exact nofun
      · split <;> exact nofun

theorem pieces_append_cons {separates : Char → Bool} {mark : Char} (separated : separates mark = true)
    (before after : List Char) :
    pieces separates (before ++ mark :: after) = pieces separates before ++ pieces separates after := by
  induction before with
  | nil => simp [pieces, separated]
  | cons first rest ih =>
      cases splits : separates first with
      | true => simp [pieces, splits, ih]
      | false =>
          simp only [List.cons_append, pieces, splits, ih]
          cases kept : pieces separates rest with
          | nil => exact absurd kept (pieces_ne_nil separates rest)
          | cons piece others => rfl

/-- The words on both sides of a space. -/
theorem wordsOfChars_append_space (before after : List Char) :
    wordsOfChars (before ++ ' ' :: after) = wordsOfChars before ++ wordsOfChars after := by
  have space : isBlank ' ' = true := rfl
  rw [wordsOfChars, stretchesWithout, pieces_append_cons space, List.filter_append]
  rfl

/-- The words of what is joined by spaces. -/
theorem wordsOfChars_intercalate (parts : List (List Char)) :
    wordsOfChars ([' '].intercalate parts) = parts.flatMap wordsOfChars := by
  induction parts with
  | nil => rfl
  | cons part rest ih =>
      cases rest with
      | nil => simp
      | cons next others =>
          rw [List.intercalate_cons_cons, List.append_assoc, List.singleton_append,
            wordsOfChars_append_space, ih]
          rfl

theorem pieces_eq_singleton {separates : Char → Bool} {cs : List Char}
    (none : ∀ c ∈ cs, separates c = false) : pieces separates cs = [cs] := by
  induction cs with
  | nil => rfl
  | cons first rest ih =>
      obtain ⟨kept, later⟩ := List.forall_mem_cons.mp none
      simp [pieces, kept, ih later]

theorem IsWord.wordsOfChars_eq {word : List Char} (isWord : IsWord word) :
    wordsOfChars word = [word] := by
  rw [wordsOfChars, stretchesWithout, pieces_eq_singleton isWord.2]
  simp [isWord.1]

theorem IsWord.hasBareEnds {word : List Char} (isWord : IsWord word) : HasBareEnds word :=
  ⟨fun c first => isWord.2 c (List.mem_of_head? first),
    fun c last => isWord.2 c (List.mem_of_getLast? last)⟩

theorem HasBareEnds.append {left right : List Char} (leftBare : HasBareEnds left)
    (rightBare : HasBareEnds right) (leftSome : left ≠ []) (rightSome : right ≠ [])
    (between : List Char) : HasBareEnds (left ++ (between ++ right)) := by
  refine ⟨fun c first => leftBare.1 c ?_, fun c last => rightBare.2 c ?_⟩
  · rwa [List.head?_append, Option.or_of_isSome (List.isSome_head?.mpr leftSome)] at first
  · rwa [← List.append_assoc, List.getLast?_append,
      Option.or_of_isSome (List.getLast?_isSome.mpr rightSome)] at last

/-- Words with single spaces between them. -/
theorem hasBareEnds_intercalate (word : List Char) (rest : List (List Char))
    (all : ∀ each ∈ word :: rest, IsWord each) :
    [' '].intercalate (word :: rest) ≠ [] ∧ HasBareEnds ([' '].intercalate (word :: rest)) := by
  induction rest generalizing word with
  | nil =>
      have isWord := all word List.mem_cons_self
      rw [List.intercalate_singleton]
      exact ⟨isWord.1, isWord.hasBareEnds⟩
  | cons next further ih =>
      have isWord := all word List.mem_cons_self
      obtain ⟨someLater, bareLater⟩ := ih next fun each member => all each (List.mem_cons_of_mem _ member)
      rw [List.intercalate_cons_cons, List.append_assoc]
      exact ⟨List.append_ne_nil_of_left_ne_nil isWord.1 _,
        isWord.hasBareEnds.append bareLater isWord.1 someLater [' ']⟩

theorem toList_intercalate (words : List (List Char)) :
    (String.intercalate " " (words.map String.ofList)).toList = [' '].intercalate words := by
  have same : (words.map String.ofList).map String.toList = words := by simp
  rw [String.toList_intercalate, same]
  rfl

/-- A text of words has no blanks at its ends. -/
theorem trim_intercalate_words (cs : List Char) :
    trim (String.intercalate " " ((wordsOfChars cs).map String.ofList)) =
      String.intercalate " " ((wordsOfChars cs).map String.ofList) := by
  have bare : HasBareEnds ([' '].intercalate (wordsOfChars cs)) := by
    cases given : wordsOfChars cs with
    | nil => exact ⟨by simp, by simp⟩
    | cons word rest =>
        refine (hasBareEnds_intercalate word rest fun each member => ?_).2
        rw [← given] at member
        exact isWord_of_mem member
  rw [trim, toList_intercalate, trimChars_eq_self bare, ← toList_intercalate, String.ofList_toList]

end NoteDialogue.Text
