import NoteDialogue.Proofs.Plan.Decoding
import NoteDialogue.Proofs.Text.Passage

/-!
# What stands around a plan

A model may put a fence, prose and line breaks around the object that it was asked for.  Nothing of this
changes the plan, as long as no brace stands in it and a fence that opens the text has a line of its own
(`objectText_decorated`): the line of that fence is dropped as a whole, and then the first brace and the last
one are those of the object.

An object that stands on the line of the opening fence is dropped with it.  What is read in its place has
fewer braces than the object (`objectText_ne_of_fenceLine`), so the object is read exactly if no fence opens on
its line (`ActionPlan.ofText_decorated`).
-/

set_option autoImplicit false

namespace NoteDialogue

/-- A text that starts with an opening brace and ends with a closing one. -/
def IsBraced (text : List Char) : Prop :=
  text.head? = some openBrace ∧ text.getLast? = some closeBrace

/-- A text without braces. -/
def IsBraceless (text : List Char) : Prop :=
  openBrace ∉ text ∧ closeBrace ∉ text

/-- A text that starts with a fence, blanks apart, whose line has not ended yet. -/
def EndsOnFenceLine (text : List Char) : Prop :=
  codeFence <+: Text.trimLeftChars text ∧ '\n' ∉ Text.trimLeftChars text

instance (text : List Char) : Decidable (IsBraced text) := inferInstanceAs (Decidable (_ ∧ _))

instance (text : List Char) : Decidable (IsBraceless text) := inferInstanceAs (Decidable (_ ∧ _))

instance (text : List Char) : Decidable (EndsOnFenceLine text) := inferInstanceAs (Decidable (_ ∧ _))

variable {text before object after : List Char}

namespace IsBraced

theorem exists_inside (braced : IsBraced object) : ∃ inside, object = openBrace :: (inside ++ [closeBrace]) := by
  obtain ⟨rest, rfl⟩ := List.head?_eq_some_iff.mp braced.1
  obtain ⟨inside, split⟩ := List.getLast?_eq_some_iff.mp braced.2
  cases inside with
  | nil => cases split
  | cons first inside =>
      obtain ⟨rfl, rfl⟩ := List.cons.inj split
      exact ⟨inside, rfl⟩

theorem ne_nil (braced : IsBraced object) : object ≠ [] := by
  rintro rfl
  cases braced.1

theorem hasBareEnds (braced : IsBraced object) : Text.HasBareEnds object := by
  refine ⟨fun c first => ?_, fun c last => ?_⟩
  · obtain rfl := Option.some.inj (braced.1.symm.trans first)
    rfl
  · obtain rfl := Option.some.inj (braced.2.symm.trans last)
    rfl

end IsBraced

theorem IsBraceless.of_subset (braceless : IsBraceless text) {part : List Char} (within : part ⊆ text) :
    IsBraceless part :=
  ⟨fun inside => braceless.1 (within inside), fun inside => braceless.2 (within inside)⟩

theorem trimLeftChars_subset (text : List Char) : Text.trimLeftChars text ⊆ text :=
  (List.dropWhile_suffix _).subset

theorem dropTrailing_subset (text : List Char) : Text.dropTrailing Text.isBlank text ⊆ text :=
  (Text.dropTrailing_prefix _ text).subset

/-! ## Between the braces -/

/-- Of a text around an object, only the object is between the braces. -/
theorem betweenBraces_around (braced : IsBraced object) (bareBefore : IsBraceless before)
    (bareAfter : IsBraceless after) : betweenBraces (before ++ (object ++ after)) = object := by
  have opened : (before ++ (object ++ after)).dropWhile (· != openBrace) = object ++ after := by
    refine Text.dropWhile_append_of_stop (fun c inside => ?_) fun c first => ?_
    · exact bne_iff_ne.mpr (ne_of_mem_of_not_mem inside bareBefore.1)
    · rw [List.head?_append, braced.1] at first
      obtain rfl := Option.some.inj first
      exact bne_self_eq_false _
  have closed : (after.reverse ++ object.reverse).dropWhile (· != closeBrace) = object.reverse := by
    refine Text.dropWhile_append_of_stop (fun c inside => ?_) fun c first => ?_
    · exact bne_iff_ne.mpr (ne_of_mem_of_not_mem (List.mem_reverse.mp inside) bareAfter.2)
    · rw [List.head?_reverse, braced.2] at first
      obtain rfl := Option.some.inj first
      exact bne_self_eq_false _
  simp [betweenBraces, opened, List.reverse_append, closed, braced.ne_nil]

/-- What is between the braces is a stretch of the text. -/
theorem infix_betweenBraces (text : List Char) : betweenBraces text <:+: text := by
  have opened : text.dropWhile (· != openBrace) <:+ text := List.dropWhile_suffix _
  have closed : Text.dropTrailing (· != closeBrace) (text.dropWhile (· != openBrace)) <+:
      text.dropWhile (· != openBrace) := Text.dropTrailing_prefix _ _
  unfold betweenBraces
  simp only
  split
  · exact Text.infix_trimChars text
  · exact closed.isInfix.trans opened.isInfix

/-! ## The line of a fence -/

/-- A fence holds no brace, so it does not reach into an object. -/
theorem fence_prefix_iff (braced : IsBraced object) :
    codeFence <+: before ++ (object ++ after) ↔ codeFence <+: before := by
  obtain ⟨inside, rfl⟩ := braced.exists_inside
  refine ⟨fun begins => ?_, fun begins => begins.trans (List.prefix_append _ _)⟩
  exact Text.prefix_of_prefix_append_cons begins (by decide)

/-- The same at the end of a text. -/
theorem fence_suffix_of_object (braced : IsBraced object)
    (ends : codeFence <:+ before ++ (object ++ after)) : codeFence <:+ after := by
  obtain ⟨inside, rfl⟩ := braced.exists_inside
  have flipped : (before ++ (openBrace :: (inside ++ [closeBrace]) ++ after)).reverse =
      after.reverse ++ closeBrace :: (before ++ openBrace :: inside).reverse := by simp
  rw [← List.reverse_prefix, flipped] at ends
  exact List.reverse_prefix.mp (Text.prefix_of_prefix_append_cons ends (by decide))

theorem beforeEnding?_eq_some {ending rest : List Char} (cut : beforeEnding? ending text = some rest) :
    text = rest ++ ending := by
  unfold beforeEnding? at cut
  split at cut
  case isFalse => cases cut
  case isTrue ends =>
    obtain ⟨start, rfl⟩ := List.reverse_prefix.mp (List.isPrefixOf_iff_prefix.mp ends)
    cases cut
    simp

/-- Closing the block of code takes nothing away but what stands after the object. -/
theorem closed_around (before : List Char) (braced : IsBraced object) (bareAfter : IsBraceless after) :
    ∃ left, IsBraceless left ∧
      (beforeEnding? codeFence (Text.dropTrailing Text.isBlank (before ++ (object ++ after)))).getD
        (before ++ (object ++ after)) = before ++ (object ++ left) := by
  rw [Text.dropTrailing_around before after braced.ne_nil braced.hasBareEnds.2]
  cases cut : beforeEnding? codeFence (before ++ (object ++ Text.dropTrailing Text.isBlank after)) with
  | none => exact ⟨after, bareAfter, rfl⟩
  | some rest =>
      have split := beforeEnding?_eq_some cut
      obtain ⟨left, isLeft⟩ := fence_suffix_of_object braced ⟨rest, split.symm⟩
      have within : left ⊆ after := fun c inside =>
        dropTrailing_subset after (isLeft ▸ List.mem_append_left _ inside)
      refine ⟨left, bareAfter.of_subset within, ?_⟩
      rw [← isLeft, ← List.append_assoc, ← List.append_assoc] at split
      rw [Option.getD_some, ← List.append_cancel_right split, List.append_assoc]

theorem afterFirstLine_of_absent (absent : '\n' ∉ text) : afterFirstLine text = [] := by
  rw [afterFirstLine, Text.splitAtChar?_eq_none absent]

theorem afterFirstLine_cut {line : List Char} (absent : '\n' ∉ line) (rest : List Char) :
    afterFirstLine (line ++ '\n' :: rest) = rest := by
  rw [afterFirstLine, Text.splitAtChar?_append absent]

/-- What a line goes on with ends where the line ends. -/
theorem afterFirstLine_append {line : List Char} (absent : '\n' ∉ line) (rest : List Char) :
    afterFirstLine (line ++ rest) = afterFirstLine rest := by
  by_cases newline : '\n' ∈ rest
  · obtain ⟨start, rest, rfl, absentStart⟩ := List.eq_append_cons_of_mem newline
    have absentBoth : '\n' ∉ line ++ start := by simp [absent, absentStart]
    rw [← List.append_assoc, afterFirstLine_cut absentBoth, afterFirstLine_cut absentStart]
  · rw [afterFirstLine_of_absent newline, afterFirstLine_of_absent (by simp [absent, newline])]

/-- A block of code without its opening line and without its closing fence. -/
theorem insideFence_of_fence (info rest : List Char) :
    insideFence (codeFence ++ info ++ rest) =
      (beforeEnding? codeFence (Text.dropTrailing Text.isBlank (afterFirstLine (info ++ rest)))).getD
        (afterFirstLine (info ++ rest)) := by
  have opened : codeFence.isPrefixOf (codeFence ++ (info ++ rest)) = true :=
    List.isPrefixOf_iff_prefix.mpr (List.prefix_append _ _)
  rw [List.append_assoc, insideFence, if_pos opened, List.drop_left]

/-- **What stands around an object is stripped**, unless the object is on the line of the fence that opens the
text. -/
theorem objectText_decorated (braced : IsBraced object) (bareBefore : IsBraceless before)
    (bareAfter : IsBraceless after) (ownLine : ¬ EndsOnFenceLine before) :
    objectText (before ++ (object ++ after)) = object := by
  have bareStart := bareBefore.of_subset (trimLeftChars_subset before)
  have bareEnd := bareAfter.of_subset (dropTrailing_subset after)
  rw [objectText, Text.trimChars_around before after braced.ne_nil braced.hasBareEnds]
  by_cases fenced : codeFence <+: Text.trimLeftChars before
  · have newline : '\n' ∈ Text.trimLeftChars before :=
      Decidable.not_not.mp fun absent => ownLine ⟨fenced, absent⟩
    obtain ⟨info, isInfo⟩ := fenced
    rw [← isInfo] at bareStart newline ⊢
    obtain ⟨line, rest, rfl, absent⟩ :=
      List.eq_append_cons_of_mem ((List.mem_append.mp newline).resolve_left (by decide))
    obtain ⟨left, bareLeft, closed⟩ := closed_around rest braced bareEnd
    rw [insideFence_of_fence, List.append_assoc, List.cons_append, afterFirstLine_cut absent, closed]
    have within : rest ⊆ codeFence ++ (line ++ '\n' :: rest) := fun c inside =>
      List.mem_append_right _ (List.mem_append_right _ (List.mem_cons_of_mem _ inside))
    exact betweenBraces_around braced (bareStart.of_subset within) bareLeft
  · rw [insideFence, if_neg (by rwa [List.isPrefixOf_iff_prefix, fence_prefix_iff braced])]
    exact betweenBraces_around braced bareStart bareEnd

/-! ## An object on the line of a fence -/

/-- What is left of an object on the line of a fence, and of what stands after it. -/
theorem objectText_of_fenceLine (after : List Char) (braced : IsBraced object)
    (onLine : EndsOnFenceLine before) :
    ∃ body, body = afterFirstLine (object ++ Text.dropTrailing Text.isBlank after) ∧
      objectText (before ++ (object ++ after)) =
        betweenBraces ((beforeEnding? codeFence (Text.dropTrailing Text.isBlank body)).getD body) := by
  obtain ⟨⟨info, isInfo⟩, absent⟩ := onLine
  rw [← isInfo] at absent
  have absentInfo : '\n' ∉ info := fun inside => absent (List.mem_append_right _ inside)
  refine ⟨_, rfl, ?_⟩
  rw [objectText, Text.trimChars_around before after braced.ne_nil braced.hasBareEnds, ← isInfo,
    insideFence_of_fence, afterFirstLine_append absentInfo]

theorem closed_sublist (body : List Char) :
    ((beforeEnding? codeFence (Text.dropTrailing Text.isBlank body)).getD body).Sublist body := by
  cases cut : beforeEnding? codeFence (Text.dropTrailing Text.isBlank body) with
  | none => exact List.Sublist.refl _
  | some rest =>
      have start : rest <+: Text.dropTrailing Text.isBlank body := ⟨codeFence, (beforeEnding?_eq_some cut).symm⟩
      exact (start.trans (Text.dropTrailing_prefix _ body)).sublist

/-- Without its first line a text has lost its first character. -/
theorem afterFirstLine_suffix {c : Char} (other : c ≠ '\n') (rest : List Char) :
    afterFirstLine (c :: rest) <:+ rest := by
  by_cases newline : '\n' ∈ rest
  · obtain ⟨line, rest, rfl, absent⟩ := List.eq_append_cons_of_mem newline
    have lineAbsent : '\n' ∉ c :: line := by simp [other.symm, absent]
    rw [← List.cons_append, afterFirstLine_cut lineAbsent]
    exact ⟨line ++ ['\n'], by simp⟩
  · rw [afterFirstLine_of_absent (by simp [other.symm, newline])]
    exact List.nil_suffix

/-- **An object on the line of a fence is not read**: what is read in its place has fewer braces. -/
theorem objectText_ne_of_fenceLine (braced : IsBraced object) (bareAfter : IsBraceless after)
    (onLine : EndsOnFenceLine before) : objectText (before ++ (object ++ after)) ≠ object := by
  intro same
  obtain ⟨body, isBody, read⟩ := objectText_of_fenceLine after braced onLine
  have kept : object.Sublist body := by
    rw [← same, read]
    exact (infix_betweenBraces _).sublist.trans (closed_sublist body)
  have bareEnd := bareAfter.of_subset (dropTrailing_subset after)
  obtain ⟨inside, rfl⟩ := braced.exists_inside
  rw [List.cons_append] at isBody
  have lost : body <:+ inside ++ [closeBrace] ++ Text.dropTrailing Text.isBlank after :=
    isBody ▸ afterFirstLine_suffix (by decide) _
  have fewer := (kept.trans lost.sublist).count_le openBrace
  rw [List.count_append, List.count_eq_zero.mpr bareEnd.1, List.count_cons_self] at fewer
  omega

/-! ## Plans -/

/-- **Decoration does not change a plan**, unless a fence opens on the line of its object.  Of an object with
texts around it that hold no braces, the object is read exactly if the text before it does not end on the line
of a fence that opens it, and then the plan is that of the object alone.  With a fence on the line of the
object and no further line there is nothing to read. -/
theorem ActionPlan.ofText_decorated {before object after : String} (braced : IsBraced object.toList)
    (bareBefore : IsBraceless before.toList) (bareAfter : IsBraceless after.toList) (candidates : Nat) :
    (objectText (before ++ object ++ after).toList = objectText object.toList ↔
        ¬ EndsOnFenceLine before.toList) ∧
      (¬ EndsOnFenceLine before.toList →
        ofText (before ++ object ++ after) candidates = ofText object candidates) ∧
      (EndsOnFenceLine before.toList → '\n' ∉ object.toList ++ after.toList →
        ofText (before ++ object ++ after) candidates = .clarify unreadablePlan) := by
  have alone : objectText object.toList = object.toList := by
    have bareNothing : IsBraceless [] := by decide
    have nothing := objectText_decorated braced bareNothing bareNothing (by decide)
    rwa [List.nil_append, List.append_nil] at nothing
  have written : (before ++ object ++ after).toList =
      before.toList ++ (object.toList ++ after.toList) := by simp
  rw [ofText, ofText, written, alone]
  refine ⟨⟨fun same onLine => ?_, objectText_decorated braced bareBefore bareAfter⟩, fun ownLine => ?_,
    fun onLine oneLine => ?_⟩
  · exact objectText_ne_of_fenceLine braced bareAfter onLine same
  · rw [objectText_decorated braced bareBefore bareAfter ownLine]
  · obtain ⟨body, isBody, read⟩ := objectText_of_fenceLine after.toList braced onLine
    have nothing : body = [] := by
      rw [isBody]
      refine afterFirstLine_of_absent fun inside => oneLine ?_
      exact (List.mem_append.mp inside).elim (List.mem_append_left _)
        fun later => List.mem_append_right _ (dropTrailing_subset _ later)
    rw [read, nothing]
    rfl

/-- A plan in a block of code between prose is the plan. -/
theorem ActionPlan.ofText_decorated_in_block :
    let before := "Here you are:\n```json\n"
    let object := "\x7b\"action\": \"SELECT\", \"target_index\": 1\x7d"
    let after := "\n```\nAnything else?"
    IsBraced object.toList ∧ IsBraceless before.toList ∧ IsBraceless after.toList ∧
      ¬ EndsOnFenceLine before.toList ∧
      ofText (before ++ object ++ after) 2 = ⟨.select 1, ""⟩ := by
  intro before object after
  have braced : IsBraced object.toList := by decide
  have bareBefore : IsBraceless before.toList := by decide
  have bareAfter : IsBraceless after.toList := by decide
  have ownLine : ¬ EndsOnFenceLine before.toList := by decide
  have alone : ofText object 2 = ⟨.select 1, ""⟩ := by decide +kernel
  refine ⟨braced, bareBefore, bareAfter, ownLine, ?_⟩
  rw [(ofText_decorated braced bareBefore bareAfter 2).2.1 ownLine, alone]

/-- On the line of the fence the object is lost. -/
example : ActionPlan.ofText "```json \x7b\"action\": \"ANSWER_ALL\"\x7d ```" 3 = .clarify unreadablePlan := by
  decide +kernel

end NoteDialogue
