import Mathlib.Data.List.Chain
import NoteDialogue.Notes.Chunk

/-!
# Sentences packed into chunks

Sentences are packed when they are cut into groups of consecutive ones such that each group, joined by spaces,
stays within the limit or is a single sentence, and such that no group leaves out a sentence for which it has room
(`IsPacking`).  There is only one packing of some sentences (`IsPacking.unique`), and its groups are the chunks
(`packed_into_chunks`).  Nothing is asked of the sentences but that none is empty.
-/

set_option autoImplicit false

namespace NoteDialogue

variable {limit : Nat} {sentences group rest : List String} {groups others : List (List String)} {sentence : String}

/-! ## Joined sentences -/

/-- Some sentences with single spaces between them. -/
def joined (sentences : List String) : String :=
  String.intercalate " " sentences

theorem joined_append (some : group ≠ []) (more : rest ≠ []) :
    joined (group ++ rest) = joined group ++ " " ++ joined rest :=
  String.intercalate_append_of_ne_nil some more

theorem joined_singleton (sentence : String) : joined [sentence] = sentence :=
  String.intercalate_singleton

theorem length_joined_concat (some : group ≠ []) :
    (joined (group ++ [sentence])).length = (joined group).length + 1 + sentence.length := by
  rw [joined_append some (List.cons_ne_nil _ _), joined_singleton, String.length_append, String.length_append]
  rfl

theorem length_joined_le (group rest : List String) : (joined group).length ≤ (joined (group ++ rest)).length := by
  by_cases none : group = []
  · rw [none]
    exact Nat.zero_le _
  · by_cases noMore : rest = []
    · rw [noMore, List.append_nil]
    · rw [joined_append none noMore, String.length_append, String.length_append]
      omega

theorem joined_ne_empty (some : group ≠ []) (full : ∀ sentence ∈ group, sentence ≠ "") : joined group ≠ "" := by
  obtain ⟨sentence, later, rfl⟩ := List.exists_cons_of_ne_nil some
  have hasLetter : 0 < sentence.length :=
    Nat.pos_of_ne_zero (mt String.length_eq_zero_iff.mp (full sentence List.mem_cons_self))
  have longer : (joined [sentence]).length ≤ (joined (sentence :: later)).length := length_joined_le [sentence] later
  rw [joined_singleton] at longer
  intro empty
  rw [empty, String.length_empty] at longer
  omega

theorem not_isEmpty_joined (some : group ≠ []) (full : ∀ sentence ∈ group, sentence ≠ "") :
    ¬ (joined group).isEmpty = true :=
  mt String.isEmpty_iff.mp (joined_ne_empty some full)

/-- Joining groups that were joined is joining all of their sentences. -/
theorem joined_map_joined (some : ∀ group ∈ groups, group ≠ []) :
    joined (groups.map joined) = joined groups.flatten := by
  induction groups with
  | nil => rfl
  | cons group later ih =>
      obtain ⟨thisSome, laterSome⟩ := List.forall_mem_cons.mp some
      by_cases last : later = []
      · rw [last, List.map_singleton, joined_singleton, List.flatten_singleton]
      · have more : later.flatten ≠ [] := by
          intro none
          obtain ⟨next, member⟩ := List.exists_mem_of_ne_nil later last
          exact laterSome next member (List.flatten_eq_nil_iff.mp none next member)
        rw [List.map_cons, ← List.singleton_append, joined_append (List.cons_ne_nil _ _) (by simpa using last),
          joined_singleton, ih laterSome, List.flatten_cons, joined_append thisSome more]

/-! ## Packings -/

/-- Groups of consecutive sentences, of which none is empty.  Each group stays within the limit or is a single
sentence, and would exceed the limit with the first sentence of the next one. -/
structure IsPacking (limit : Nat) (sentences : List String) (groups : List (List String)) : Prop where
  flatten : groups.flatten = sentences
  nonempty : ∀ group ∈ groups, group ≠ []
  fits : ∀ group ∈ groups, (joined group).length ≤ limit ∨ group.length = 1
  full : groups.IsChain fun group next => ∀ sentence ∈ next.head?, limit < (joined (group ++ [sentence])).length

namespace IsPacking

theorem nil (limit : Nat) : IsPacking limit [] [] :=
  ⟨rfl, by simp, by simp, .nil⟩

theorem single (some : group ≠ []) (fits : (joined group).length ≤ limit ∨ group.length = 1) :
    IsPacking limit group [group] :=
  ⟨List.flatten_singleton, by simpa using some, by simpa using fits, .singleton _⟩

theorem tail (packing : IsPacking limit sentences (group :: groups)) : IsPacking limit groups.flatten groups :=
  ⟨rfl, (List.forall_mem_cons.mp packing.nonempty).2, (List.forall_mem_cons.mp packing.fits).2, packing.full.tail⟩

/-- A further group in front, for which the first of the sentences is too much. -/
theorem cons (packing : IsPacking limit (sentence :: rest) groups) (some : group ≠ [])
    (fits : (joined group).length ≤ limit ∨ group.length = 1)
    (tooMuch : limit < (joined (group ++ [sentence])).length) :
    IsPacking limit (group ++ sentence :: rest) (group :: groups) where
  flatten := by rw [List.flatten_cons, packing.flatten]
  nonempty := List.forall_mem_cons.mpr ⟨some, packing.nonempty⟩
  fits := List.forall_mem_cons.mpr ⟨fits, packing.fits⟩
  full := by
    refine List.isChain_cons.mpr ⟨fun next isNext first isFirst => ?_, packing.full⟩
    -- The next group opens with the sentence that was too much.
    obtain ⟨later, rfl⟩ := List.head?_eq_some_iff.mp isNext
    obtain ⟨further, rfl⟩ := List.head?_eq_some_iff.mp isFirst
    obtain ⟨rfl, -⟩ := List.cons.inj packing.flatten
    exact tooMuch

/-- The first group has no room for the sentence after it. -/
theorem tooMuch (packing : IsPacking limit sentences (group :: groups)) (after : groups.flatten = sentence :: rest) :
    limit < (joined (group ++ [sentence])).length := by
  cases groups with
  | nil => cases after
  | cons next later =>
      obtain ⟨head, further, rfl⟩ := List.exists_cons_of_ne_nil
        (packing.nonempty next (List.mem_cons_of_mem _ List.mem_cons_self))
      obtain ⟨rfl, -⟩ := List.cons.inj after
      exact packing.full.rel head rfl

/-- A first group that was longer would have had no room for all of its sentences. -/
theorem eq_of_prefix {other : List String} (one : IsPacking limit sentences (group :: groups))
    (two : IsPacking limit sentences (other :: others)) (within : group <+: other) : group = other := by
  obtain ⟨extra, rfl⟩ := within
  cases extra with
  | nil => exact (List.append_nil group).symm
  | cons first further =>
      exfalso
      have after : groups.flatten = first :: further ++ others.flatten := by
        have same := one.flatten.trans two.flatten.symm
        rw [List.flatten_cons, List.flatten_cons, List.append_assoc] at same
        exact List.append_cancel_left same
      have tooMuch : limit < (joined (group ++ [first])).length := one.tooMuch after
      have grows := length_joined_le (group ++ [first]) further
      rw [List.append_assoc, List.singleton_append] at grows
      have several : 0 < group.length := List.length_pos_iff.mpr (one.nonempty group List.mem_cons_self)
      rcases two.fits _ List.mem_cons_self with short | single
      · omega
      · rw [List.length_append, List.length_cons] at single
        omega

/-- **There is one packing of some sentences.** -/
theorem unique (one : IsPacking limit sentences groups) (two : IsPacking limit sentences others) :
    others = groups := by
  induction groups generalizing sentences others with
  | nil =>
      cases others with
      | nil => rfl
      | cons other later =>
          have none : (other :: later).flatten = [] := two.flatten.trans one.flatten.symm
          exact absurd (List.flatten_eq_nil_iff.mp none other List.mem_cons_self)
            (two.nonempty other List.mem_cons_self)
  | cons group rest ih =>
      cases others with
      | nil =>
          have none : (group :: rest).flatten = [] := one.flatten.trans two.flatten.symm
          exact absurd (List.flatten_eq_nil_iff.mp none group List.mem_cons_self)
            (one.nonempty group List.mem_cons_self)
      | cons other later =>
          have same : group ++ rest.flatten = other ++ later.flatten := one.flatten.trans two.flatten.symm
          have first : group = other := by
            rcases List.prefix_or_prefix_of_prefix (List.prefix_append group rest.flatten)
              (same ▸ List.prefix_append other later.flatten) with within | beyond
            · exact one.eq_of_prefix two within
            · exact (two.eq_of_prefix one beyond).symm
          subst first
          have sameLater : rest.flatten = later.flatten := List.append_cancel_left same
          exact congrArg (List.cons _) (ih one.tail (by rw [sameLater]; exact two.tail))

end IsPacking

/-! ## Chunks -/

/-- Sentences are packed behind a group that has been begun, which takes what it has room for. -/
theorem exists_packing_begun (limit : Nat) (some : group ≠ [])
    (fits : (joined group).length ≤ limit ∨ group.length = 1) (full : ∀ sentence ∈ group ++ rest, sentence ≠ "") :
    ∃ groups, IsPacking limit (group ++ rest) groups ∧
      packSentences limit (joined group) rest = groups.map joined := by
  induction rest generalizing group with
  | nil =>
      rw [List.append_nil] at full ⊢
      refine ⟨[group], .single some fits, ?_⟩
      rw [packSentences, if_neg (not_isEmpty_joined some full), List.map_singleton]
  | cons sentence rest ih =>
      obtain ⟨groupFull, restFull⟩ := List.forall_mem_append.mp full
      rw [packSentences, if_neg (not_isEmpty_joined some groupFull)]
      by_cases tooMuch : limit < (joined group).length + 1 + sentence.length
      · obtain ⟨groups, packing, packed⟩ := ih (List.cons_ne_nil sentence []) (.inr rfl) restFull
        rw [joined_singleton] at packed
        rw [← length_joined_concat some] at tooMuch
        refine ⟨group :: groups, packing.cons some fits tooMuch, ?_⟩
        rw [if_pos (length_joined_concat some ▸ tooMuch), packed, List.map_cons]
      · have room : (joined (group ++ [sentence])).length ≤ limit := by
          rw [length_joined_concat some]
          exact Nat.not_lt.mp tooMuch
        have begins : group ++ [sentence] ≠ [] := by simp
        have asBefore : group ++ [sentence] ++ rest = group ++ sentence :: rest := by simp
        obtain ⟨groups, packing, packed⟩ := ih begins (.inl room) (asBefore ▸ full)
        rw [joined_append some (List.cons_ne_nil _ _), joined_singleton] at packed
        rw [asBefore] at packing
        exact ⟨groups, packing, by rw [if_neg tooMuch, packed]⟩

theorem exists_packing (limit : Nat) (full : ∀ sentence ∈ sentences, sentence ≠ "") :
    ∃ groups, IsPacking limit sentences groups ∧ packSentences limit "" sentences = groups.map joined := by
  cases sentences with
  | nil => exact ⟨[], .nil limit, rfl⟩
  | cons sentence rest =>
      have begun : packSentences limit "" (sentence :: rest) = packSentences limit (joined [sentence]) rest := by
        rw [packSentences, if_pos (String.isEmpty_iff.mpr rfl), joined_singleton]
      rw [begun]
      exact exists_packing_begun limit (List.cons_ne_nil sentence []) (.inr rfl) full

theorem ne_empty_of_mem_trimmedSentences (member : sentence ∈ trimmedSentences sentences) : sentence ≠ "" := by
  have kept := (List.mem_filter.mp member).2
  rintro rfl
  cases kept

/-- The chunks of some sentences.  Joined they are the sentences joined, none is empty, and they are the joined
groups of the only packing. -/
structure IsChunking (limit : Nat) (sentences chunks : List String) : Prop where
  joined_eq : joined chunks = joined sentences
  nonempty : ∀ chunk ∈ chunks, chunk ≠ ""
  packed : ∃ groups, IsPacking limit sentences groups ∧
    (∀ others, IsPacking limit sentences others → others = groups) ∧ chunks = groups.map joined

theorem isChunking_packSentences (limit : Nat) (full : ∀ sentence ∈ sentences, sentence ≠ "") :
    IsChunking limit sentences (packSentences limit "" sentences) := by
  obtain ⟨groups, packing, packed⟩ := exists_packing limit full
  refine ⟨?_, ?_, groups, packing, fun others => packing.unique, packed⟩
  · rw [packed, joined_map_joined packing.nonempty, packing.flatten]
  · intro chunk member
    rw [packed] at member
    obtain ⟨group, isGroup, rfl⟩ := List.mem_map.mp member
    refine joined_ne_empty (packing.nonempty group isGroup) fun sentence inside => full sentence ?_
    rw [← packing.flatten]
    exact List.mem_flatten_of_mem isGroup inside

/-- **The sentences of a text are packed into chunks**, whatever counts as a sentence: nothing is lost, no chunk is
empty or too long unless it is a single sentence, and none has room for the sentence that opens the next one. -/
theorem packed_into_chunks (limit : Nat) :
    (∀ sentences, IsChunking limit (trimmedSentences sentences)
      (packSentences limit "" (trimmedSentences sentences))) ∧
    ∀ text, IsChunking limit (trimmedSentences (Text.sentences text)) (chunksOf limit text) := by
  have packs (sentences : List String) := isChunking_packSentences limit
    fun _ (member : _ ∈ trimmedSentences sentences) => ne_empty_of_mem_trimmedSentences member
  exact ⟨packs, fun text => packs (Text.sentences text)⟩

/-- The third sentence would make it a chunk of fifty-seven characters. -/
example :
    chunksOf 45 "First sentence here. Second one follows. Third closes it." =
      ["First sentence here. Second one follows.", "Third closes it."] := by
  decide +kernel

end NoteDialogue
