import NoteDialogue.Proofs.Text.Trim

/-!
# Collapsed blanks

When the words of a text are joined by single spaces, its blanks are collapsed: each run of them becomes one
space (`squeeze`), and none is left at the ends (`trimChars_squeeze`).  A passage without blanks at its ends
occurs in the collapsed text exactly if some stretch of the text collapses to it (`infix_collapsed_iff`).
-/

set_option autoImplicit false

namespace NoteDialogue.Text

variable {passage before after cs rest : List Char} {c d : Char}

/-! ## Runs of blanks -/

/-- A blank is written as a space. -/
def spaced (c : Char) : Char :=
  if isBlank c then ' ' else c

/-- Of each run of blanks one is left, as a space. -/
def squeeze : List Char → List Char
  | [] => []
  | [c] => [spaced c]
  | c :: d :: rest =>
      if isBlank c && isBlank d then squeeze (d :: rest) else spaced c :: squeeze (d :: rest)

theorem spaced_of_visible (visible : isBlank c = false) : spaced c = c := by
  simp [spaced, visible]

theorem isBlank_spaced (c : Char) : isBlank (spaced c) = isBlank c := by
  cases blank : isBlank c with
  | true =>
      rw [spaced, if_pos blank]
      rfl
  | false => rw [spaced_of_visible blank, blank]

theorem eq_of_spaced (visible : isBlank c = false) (same : spaced d = c) : d = c := by
  rw [← same, isBlank_spaced] at visible
  rwa [spaced_of_visible visible] at same

theorem squeeze_cons_visible (visible : isBlank c = false) (rest : List Char) :
    squeeze (c :: rest) = c :: squeeze rest := by
  cases rest with
  | nil => simp [squeeze, spaced_of_visible visible]
  | cons d rest => simp [squeeze, visible, spaced_of_visible]

theorem squeeze_cons_blank (blank : isBlank c = true) (rest : List Char) :
    squeeze (c :: rest) = ' ' :: squeeze (rest.dropWhile isBlank) := by
  induction rest generalizing c with
  | nil => simp [squeeze, spaced, blank]
  | cons d rest ih =>
      cases next : isBlank d with
      | true => simp [squeeze, blank, next, ih next]
      | false => simp [squeeze, blank, next, spaced]

/-- A squeezed text starts as the text does. -/
theorem head?_squeeze (cs : List Char) : (squeeze cs).head? = cs.head?.map spaced := by
  cases cs with
  | nil => rfl
  | cons c rest =>
      cases blank : isBlank c with
      | true =>
          rw [squeeze_cons_blank blank, List.head?_cons, List.head?_cons, Option.map_some, spaced,
            if_pos blank]
      | false =>
          rw [squeeze_cons_visible blank, List.head?_cons, List.head?_cons, Option.map_some,
            spaced_of_visible blank]

/-- Behind its first character a text stays squeezed. -/
theorem squeeze_cons (c : Char) (rest : List Char) :
    squeeze (c :: rest) = squeeze rest ∨ squeeze (c :: rest) = spaced c :: squeeze rest := by
  cases rest with
  | nil => exact .inr rfl
  | cons d rest =>
      rw [squeeze]
      split
      · exact .inl rfl
      · exact .inr rfl

/-! ## Stretches of a squeezed text -/

theorem exists_prefix_of_squeeze (begins : passage <+: squeeze cs) :
    ∃ origin, origin <+: cs ∧ squeeze origin = passage := by
  induction cs using squeeze.induct generalizing passage with
  | case1 => exact ⟨[], List.nil_prefix, (List.prefix_nil.mp begins).symm⟩
  | case2 c =>
      rcases List.prefix_cons_iff.mp begins with rfl | ⟨rest, rfl, later⟩
      · exact ⟨[], List.nil_prefix, rfl⟩
      · exact ⟨[c], List.prefix_refl _, by rw [List.prefix_nil.mp later]; rfl⟩
  | case3 c d rest run ih =>
      rw [squeeze, if_pos run] at begins
      obtain ⟨origin, within, rfl⟩ := ih begins
      cases origin with
      | nil => exact ⟨[], List.nil_prefix, rfl⟩
      | cons first origin =>
          obtain ⟨rfl, -⟩ := List.cons_prefix_cons.mp within
          exact ⟨c :: first :: origin, (List.prefix_cons_inj c).mpr within, by rw [squeeze, if_pos run]⟩
  | case4 c d rest noRun ih =>
      rw [squeeze, if_neg noRun] at begins
      rcases List.prefix_cons_iff.mp begins with rfl | ⟨later, rfl, further⟩
      · exact ⟨[], List.nil_prefix, rfl⟩
      · obtain ⟨origin, within, rfl⟩ := ih further
        refine ⟨c :: origin, (List.prefix_cons_inj c).mpr within, ?_⟩
        cases origin with
        | nil => rfl
        | cons first origin =>
            obtain ⟨rfl, -⟩ := List.cons_prefix_cons.mp within
            rw [squeeze, if_neg noRun]

/-- What occurs in a squeezed text comes from a stretch of the text. -/
theorem exists_infix_of_squeeze (occurs : passage <:+: squeeze cs) :
    ∃ origin, origin <:+: cs ∧ squeeze origin = passage := by
  induction cs with
  | nil => exact ⟨[], List.nil_infix, (List.infix_nil.mp occurs).symm⟩
  | cons c rest ih =>
      have later (further : passage <:+: squeeze rest) :
          ∃ origin, origin <:+: c :: rest ∧ squeeze origin = passage := by
        obtain ⟨origin, within, same⟩ := ih further
        exact ⟨origin, List.infix_cons within, same⟩
      rcases squeeze_cons c rest with skipped | written
      · exact later (skipped ▸ occurs)
      · rw [written] at occurs
        rcases List.infix_cons_iff.mp occurs with begins | further
        · obtain ⟨origin, within, same⟩ := exists_prefix_of_squeeze (written ▸ begins)
          exact ⟨origin, within.isInfix, same⟩
        · exact later further

theorem suffix_squeeze (before after : List Char) : squeeze after <:+ squeeze (before ++ after) := by
  induction before with
  | nil => exact List.suffix_refl _
  | cons c before ih =>
      rw [List.cons_append]
      rcases squeeze_cons c (before ++ after) with skipped | written
      · rwa [skipped]
      · rw [written]
        exact ih.trans (List.suffix_cons _ _)

theorem prefix_squeeze (before after : List Char) : squeeze before <+: squeeze (before ++ after) := by
  induction before using squeeze.induct with
  | case1 => exact List.nil_prefix
  | case2 c =>
      obtain ⟨later, starts⟩ := List.head?_eq_some_iff.mp (head?_squeeze (c :: after))
      exact ⟨later, starts.symm⟩
  | case3 c d rest run ih =>
      simp only [List.cons_append] at ih ⊢
      rwa [squeeze, if_pos run, squeeze, if_pos run]
  | case4 c d rest noRun ih =>
      simp only [List.cons_append] at ih ⊢
      rw [squeeze, if_neg noRun, squeeze, if_neg noRun]
      exact (List.prefix_cons_inj _).mpr ih

theorem infix_squeeze {stretch : List Char} (within : stretch <:+: cs) : squeeze stretch <:+: squeeze cs := by
  obtain ⟨before, after, rfl⟩ := within
  rw [List.append_assoc]
  exact (prefix_squeeze stretch after).isInfix.trans (suffix_squeeze before _).isInfix

/-! ## Visible characters stay where they are -/

/-- A visible character of a squeezed text divides the text. -/
theorem exists_of_squeeze_eq (visible : isBlank c = false) (same : squeeze cs = before ++ c :: after) :
    ∃ left right, cs = left ++ c :: right ∧ squeeze left = before ∧ squeeze right = after := by
  induction cs using squeeze.induct generalizing before with
  | case1 => simp [squeeze] at same
  | case2 d =>
      obtain ⟨rfl, here, rfl⟩ : before = [] ∧ c = spaced d ∧ after = [] := by
        simpa [squeeze, List.singleton_eq_append_iff] using same
      obtain rfl := eq_of_spaced visible here.symm
      exact ⟨[], [], rfl, rfl, rfl⟩
  | case3 d e rest run ih =>
      rw [squeeze, if_pos run] at same
      obtain ⟨left, right, split, rfl, rfl⟩ := ih same
      cases left with
      | nil =>
          obtain ⟨rfl, -⟩ := List.cons.inj split
          simp [visible] at run
      | cons first left =>
          obtain ⟨rfl, -⟩ := List.cons.inj split
          exact ⟨d :: e :: left, right, by rw [split]; rfl, by rw [squeeze, if_pos run], rfl⟩
  | case4 d e rest noRun ih =>
      rw [squeeze, if_neg noRun] at same
      cases before with
      | nil =>
          obtain ⟨here, rfl⟩ := List.cons.inj same
          obtain rfl := eq_of_spaced visible here
          exact ⟨[], e :: rest, rfl, rfl, rfl⟩
      | cons first before =>
          obtain ⟨rfl, later⟩ := List.cons.inj same
          obtain ⟨left, right, split, rfl, rfl⟩ := ih later
          refine ⟨d :: left, right, by rw [split]; rfl, ?_, rfl⟩
          cases left with
          | nil => rfl
          | cons first left =>
              obtain ⟨rfl, -⟩ := List.cons.inj split
              rw [squeeze, if_neg noRun]

theorem eq_nil_of_squeeze_eq_nil (none : squeeze cs = []) : cs = [] := by
  have noFirst := head?_squeeze cs
  rw [none] at noFirst
  exact List.head?_eq_none_iff.mp (Option.map_eq_none_iff.mp noFirst.symm)

/-- Visible characters at the start of a squeezed text stand at the start of the text. -/
theorem exists_of_squeeze_eq_append {start : List Char} (visible : ∀ c ∈ start, isBlank c = false)
    (same : squeeze cs = start ++ after) : ∃ right, cs = start ++ right ∧ squeeze right = after := by
  induction start generalizing cs with
  | nil => exact ⟨cs, rfl, same⟩
  | cons c start ih =>
      obtain ⟨here, later⟩ := List.forall_mem_cons.mp visible
      have starts : squeeze cs = [] ++ c :: (start ++ after) := same
      obtain ⟨left, right, rfl, none, squeezed⟩ := exists_of_squeeze_eq here starts
      obtain rfl := eq_nil_of_squeeze_eq_nil none
      obtain ⟨further, rfl, ends⟩ := ih later squeezed
      exact ⟨further, rfl, ends⟩

/-- The visible characters are all there. -/
theorem mem_squeeze_iff (visible : isBlank c = false) : c ∈ squeeze cs ↔ c ∈ cs := by
  constructor
  · intro inside
    obtain ⟨before, after, same⟩ := List.append_of_mem inside
    obtain ⟨left, right, rfl, -, -⟩ := exists_of_squeeze_eq visible same
    exact List.mem_append_right left List.mem_cons_self
  · intro inside
    obtain ⟨before, after, rfl⟩ := List.append_of_mem inside
    refine (suffix_squeeze before (c :: after)).subset ?_
    rw [squeeze_cons_visible visible]
    exact List.mem_cons_self

theorem trimChars_squeeze_ne_nil_iff : trimChars (squeeze cs) ≠ [] ↔ trimChars cs ≠ [] := by
  rw [trimChars_ne_nil_iff, trimChars_ne_nil_iff]
  exact exists_congr fun c => and_congr_left mem_squeeze_iff

/-! ## Words and squeezed texts -/

/-- The words of a text with single spaces between them. -/
def collapsed (cs : List Char) : List Char :=
  [' '].intercalate (wordsOfChars cs)

theorem toList_collapseBlanks (text : String) : (collapseBlanks text).toList = collapsed text.toList :=
  toList_intercalate _

theorem wordsOfChars_cons_blank (blank : isBlank c = true) (rest : List Char) :
    wordsOfChars (c :: rest) = wordsOfChars rest := by
  simp [wordsOfChars, stretchesWithout, pieces, blank]

theorem collapsed_cons_blank (blank : isBlank c = true) (rest : List Char) :
    collapsed (c :: rest) = collapsed rest := by
  rw [collapsed, wordsOfChars_cons_blank blank, collapsed]

theorem collapsed_dropWhile (cs : List Char) : collapsed (cs.dropWhile isBlank) = collapsed cs := by
  induction cs with
  | nil => rfl
  | cons c rest ih =>
      cases blank : isBlank c with
      | true => rw [List.dropWhile_cons_of_pos blank, ih, collapsed_cons_blank blank]
      | false => rw [List.dropWhile_cons_of_neg (by simp [blank])]

/-- Two visible characters at the start are of one word. -/
theorem collapsed_visible_visible (visible : isBlank c = false) (next : isBlank d = false)
    (rest : List Char) : collapsed (c :: d :: rest) = c :: collapsed (d :: rest) := by
  simp only [collapsed, wordsOfChars, stretchesWithout, pieces, visible, next]
  cases pieces isBlank rest with
  | nil => simp
  | cons piece others => cases kept : others.filter (!·.isEmpty) <;> simp [kept]

theorem collapsed_visible_blank (visible : isBlank c = false) (blank : isBlank d = true)
    (rest : List Char) :
    collapsed (c :: d :: rest) = if collapsed rest = [] then [c] else c :: ' ' :: collapsed rest := by
  have words : wordsOfChars (c :: d :: rest) = [c] :: wordsOfChars rest := by
    simp [wordsOfChars, stretchesWithout, pieces, blank, visible]
  rw [collapsed, words, collapsed]
  cases later : wordsOfChars rest with
  | nil => rfl
  | cons word others =>
      have some := (hasBareEnds_intercalate word others fun each member =>
        isWord_of_mem (later ▸ member)).1
      rw [if_neg some]
      rfl

theorem dropTrailing_cons_visible (visible : isBlank c = false) (rest : List Char) :
    dropTrailing isBlank (c :: rest) = c :: dropTrailing isBlank rest := by
  rw [dropTrailing, dropTrailing, List.reverse_cons, List.dropWhile_append]
  split
  case isTrue none => simp [List.isEmpty_iff.mp none, visible]
  case isFalse => rw [List.reverse_append, List.reverse_singleton, List.singleton_append]

theorem dropTrailing_cons_blank (blank : isBlank c = true) (rest : List Char) :
    dropTrailing isBlank (c :: rest) =
      if dropTrailing isBlank rest = [] then [] else c :: dropTrailing isBlank rest := by
  rw [dropTrailing, dropTrailing, List.reverse_cons, List.dropWhile_append]
  split
  case isTrue none => simp [List.isEmpty_iff.mp none, blank]
  case isFalse some =>
      rw [List.isEmpty_iff] at some
      rw [if_neg (by simpa using some), List.reverse_append, List.reverse_singleton, List.singleton_append]

theorem dropWhile_squeeze (cs : List Char) :
    (squeeze cs).dropWhile isBlank = squeeze (cs.dropWhile isBlank) := by
  have kept (cs : List Char) :
      (squeeze (cs.dropWhile isBlank)).dropWhile isBlank = squeeze (cs.dropWhile isBlank) := by
    refine dropWhile_eq_self fun c first => ?_
    rw [head?_squeeze, Option.mem_def, Option.map_eq_some_iff] at first
    obtain ⟨d, first, rfl⟩ := first
    rw [isBlank_spaced, head?_dropWhile_bare cs d first]
  cases cs with
  | nil => rfl
  | cons c rest =>
      cases blank : isBlank c with
      | false =>
          rw [squeeze_cons_visible blank, List.dropWhile_cons_of_neg (by simp [blank]),
            List.dropWhile_cons_of_neg (by simp [blank]), squeeze_cons_visible blank]
      | true =>
          have space : isBlank ' ' = true := rfl
          rw [squeeze_cons_blank blank, List.dropWhile_cons_of_pos space, kept,
            List.dropWhile_cons_of_pos blank]

/-- Without a blank at the start, the squeezed text is the collapsed one but for its end. -/
theorem dropTrailing_squeeze (bare : ∀ c ∈ cs.head?, isBlank c = false) :
    dropTrailing isBlank (squeeze cs) = collapsed cs := by
  induction sized : cs.length using Nat.strongRecOn generalizing cs with
  | _ size ih =>
      match cs with
      | [] => rfl
      | [c] =>
          have visible : isBlank c = false := bare c rfl
          have isWord : IsWord [c] := ⟨nofun, by simp [visible]⟩
          rw [squeeze_cons_visible visible, dropTrailing_cons_visible visible, collapsed,
            isWord.wordsOfChars_eq, List.intercalate_singleton]
          rfl
      | c :: d :: rest =>
          have visible : isBlank c = false := bare c rfl
          rw [List.length_cons, List.length_cons] at sized
          cases next : isBlank d with
          | false =>
              have bareNext : ∀ c ∈ (d :: rest).head?, isBlank c = false := by simp [next]
              rw [squeeze_cons_visible visible, dropTrailing_cons_visible visible,
                collapsed_visible_visible visible next, ih (rest.length + 1) (by omega) bareNext rfl]
          | true =>
              have shorter : (rest.dropWhile isBlank).length ≤ rest.length :=
                (List.dropWhile_suffix isBlank).length_le
              have later := ih _ (by omega) (head?_dropWhile_bare rest) rfl
              rw [squeeze_cons_visible visible, squeeze_cons_blank next, dropTrailing_cons_visible visible,
                dropTrailing_cons_blank rfl, later, collapsed_dropWhile, collapsed_visible_blank visible next]
              split <;> rfl

/-- **A collapsed text is the squeezed one without blanks at its ends.** -/
theorem trimChars_squeeze (cs : List Char) : trimChars (squeeze cs) = collapsed cs := by
  rw [trimChars, trimLeftChars, dropWhile_squeeze, dropTrailing_squeeze (head?_dropWhile_bare cs),
    collapsed_dropWhile]

/-- What occurs in a collapsed text is what some stretch of the text is squeezed to. -/
theorem exists_squeeze_of_infix_collapsed (occurs : passage <:+: collapsed cs) :
    ∃ stretch, stretch <:+: cs ∧ squeeze stretch = passage := by
  rw [← trimChars_squeeze] at occurs
  exact exists_infix_of_squeeze (occurs.trans (infix_trimChars _))

/-- **A passage without blanks at its ends occurs in a collapsed text** if some stretch of the text collapses
to it, and only then. -/
theorem infix_collapsed_iff (bare : HasBareEnds passage) (some : passage ≠ []) :
    passage <:+: collapsed cs ↔ ∃ stretch, stretch <:+: cs ∧ collapsed stretch = passage := by
  constructor
  · intro occurs
    obtain ⟨stretch, within, rfl⟩ := exists_squeeze_of_infix_collapsed occurs
    exact ⟨stretch, within, by rw [← trimChars_squeeze, trimChars_eq_self bare]⟩
  · simp only [← trimChars_squeeze]
    rintro ⟨stretch, within, rfl⟩
    exact infix_trimChars_of_infix bare some ((infix_trimChars _).trans (infix_squeeze within))

/-! ## Visible characters -/

/-- The characters of a text that are not blank. -/
def visibleChars (cs : List Char) : List Char :=
  cs.filter fun c => !isBlank c

theorem visibleChars_append (before after : List Char) :
    visibleChars (before ++ after) = visibleChars before ++ visibleChars after :=
  List.filter_append before after

theorem flatten_pieces (separates : Char → Bool) (cs : List Char) :
    (pieces separates cs).flatten = cs.filter fun c => !separates c := by
  induction cs with
  | nil => rfl
  | cons c rest ih =>
      cases splits : separates c with
      | true => simp [pieces, splits, ih]
      | false =>
          rw [List.filter_cons_of_pos (by simp [splits]), ← ih]
          cases later : pieces separates rest with
          | nil => exact absurd later (pieces_ne_nil separates rest)
          | cons first others => simp [pieces, splits, later]

/-- The words hold the visible characters, in order. -/
theorem flatten_wordsOfChars (cs : List Char) : (wordsOfChars cs).flatten = visibleChars cs := by
  rw [wordsOfChars, stretchesWithout, List.flatten_filter_not_isEmpty, flatten_pieces, visibleChars]

theorem visibleChars_intercalate (words : List (List Char)) (all : ∀ word ∈ words, IsWord word) :
    visibleChars ([' '].intercalate words) = words.flatten := by
  induction words with
  | nil => rfl
  | cons word rest ih =>
      obtain ⟨isWord, others⟩ := List.forall_mem_cons.mp all
      have here : visibleChars word = word := List.filter_eq_self.mpr (by simpa using isWord.2)
      cases rest with
      | nil => simp [here]
      | cons next further =>
          have space : visibleChars [' '] = [] := rfl
          rw [List.intercalate_cons_cons, visibleChars_append, visibleChars_append, ih others, here, space]
          simp

/-- **Collapsing blanks leaves the visible characters as they are.** -/
theorem visibleChars_collapsed (cs : List Char) : visibleChars (collapsed cs) = visibleChars cs := by
  rw [collapsed, visibleChars_intercalate _ fun _ => isWord_of_mem, flatten_wordsOfChars]

end NoteDialogue.Text
