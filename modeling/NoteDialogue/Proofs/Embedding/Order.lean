import NoteDialogue.Embedding.Client

/-!
# Embeddings in the order of their texts

A provider of embeddings may number the items of a reply with the places of their texts.  The items are sorted by
number if all have one (`pairwise_ordered`), and left as they came if some has none (`ordered_of_unnumbered`).  Only
their count is compared with the texts: no number is.

So an item stands at its number exactly if the reply is well numbered.  Either its numbers are all the places, in any
order, or no item came at another place than its number (`standing_ordered_iff`).  A reply that leaves a number out,
repeats one or counts from one is not, and then an embedding is taken for that of another text
(`embeddings_follow_numbers`).  In any case each text is given one of the embeddings of the reply (`Arranges`).
-/

set_option autoImplicit false

namespace NoteDialogue.EmbeddingItem

variable {items : List EmbeddingItem} {expected : Nat} {vectors : List Vector32}

/-! ## Numbers and places -/

/-- Every item that has a number stands at that place. -/
def Standing (items : List EmbeddingItem) : Prop :=
  ∀ (place : Nat) (item : EmbeddingItem), items[place]? = some item →
    ∀ number, item.index = some number → number = place

/-- The numbers of a reply agree with the places that its items are given. -/
inductive WellNumbered (items : List EmbeddingItem) : Prop where
  /-- All places are numbers, each once, in any order. -/
  | shuffled (places : (items.map (·.index)).Perm ((List.range items.length).map some))
  /-- No item came at another place than its number. -/
  | standing (stands : Standing items)

/-- Where all items have numbers, they stand at them if the numbers count the places. -/
theorem standing_iff_of_numbered (numbered : ∀ item ∈ items, item.index.isSome = true) :
    Standing items ↔ items.map (·.index) = (List.range items.length).map some := by
  constructor
  · intro stands
    refine List.ext_getElem (by simp) fun place within _ => ?_
    rw [List.length_map] at within
    obtain ⟨number, given⟩ := Option.isSome_iff_exists.mp (numbered _ (List.getElem_mem within))
    have same : number = place := stands place _ (List.getElem?_eq_getElem within) number given
    simp only [List.getElem_map, given, same, List.getElem_range]
  · intro counted place item stands number given
    obtain ⟨within, -⟩ := List.getElem?_eq_some_iff.mp stands
    have index : (items.map (·.index))[place]? = some item.index := by rw [List.getElem?_map, stands, Option.map_some]
    rw [counted, List.getElem?_map, List.getElem?_range within, Option.map_some, given] at index
    exact (Option.some.inj (Option.some.inj index)).symm

/-! ## The order of a reply -/

theorem ordered_perm (items : List EmbeddingItem) : (ordered items).Perm items := by
  unfold ordered
  split
  · exact List.mergeSort_perm _ _
  · exact List.Perm.refl items

/-- With an item that has no number all stay as they came. -/
theorem ordered_of_unnumbered (missing : ∃ item ∈ items, item.index = none) : ordered items = items := by
  refine if_neg fun all => ?_
  obtain ⟨item, member, none⟩ := missing
  have numbered := List.all_eq_true.mp all item member
  rw [none] at numbered
  cases numbered

/-- With numbers on all items these ascend. -/
theorem pairwise_ordered (numbered : ∀ item ∈ items, item.index.isSome = true) :
    (ordered items).Pairwise fun left right => left.index.getD 0 ≤ right.index.getD 0 := by
  rw [ordered, if_pos (List.all_eq_true.mpr numbered)]
  refine (List.pairwise_mergeSort ?_ ?_ items).imp of_decide_eq_true
  · intro first second third one two
    exact decide_eq_true (Nat.le_trans (of_decide_eq_true one) (of_decide_eq_true two))
  · intro first second
    rcases Nat.le_total (first.index.getD 0) (second.index.getD 0) with before | after
    · rw [decide_eq_true before, Bool.true_or]
    · rw [decide_eq_true after, Bool.or_true]

theorem numbered_of_shuffled (places : (items.map (·.index)).Perm ((List.range items.length).map some)) :
    ∀ item ∈ items, item.index.isSome = true := by
  intro item member
  obtain ⟨place, -, given⟩ := List.mem_map.mp (places.mem_iff.mp (List.mem_map_of_mem member))
  rw [← given, Option.isSome_some]

/-- Numbers that are all the places come out counting them. -/
theorem index_ordered_of_shuffled (places : (items.map (·.index)).Perm ((List.range items.length).map some)) :
    (ordered items).map (·.index) = (List.range items.length).map some := by
  have shuffled := ((ordered_perm items).map (·.index)).trans places
  have ascend := pairwise_ordered (numbered_of_shuffled places)
  have count : ((List.range items.length).map some).Pairwise fun left right => left.getD 0 ≤ right.getD 0 := by
    rw [List.pairwise_map]
    exact List.pairwise_lt_range.imp Nat.le_of_lt
  refine shuffled.eq_of_pairwise ?_ (List.pairwise_map.mpr ascend) count
  intro left right inside counted before after
  obtain ⟨one, -, rfl⟩ := List.mem_map.mp (shuffled.mem_iff.mp inside)
  obtain ⟨two, -, rfl⟩ := List.mem_map.mp counted
  exact congrArg some (Nat.le_antisymm before after)

/-- **The items of a reply are brought to their numbers exactly if it is well numbered.** -/
theorem standing_ordered_iff : Standing (ordered items) ↔ WellNumbered items := by
  by_cases numbered : ∀ item ∈ items, item.index.isSome = true
  · have inOrder : ∀ item ∈ ordered items, item.index.isSome = true :=
      fun item member => numbered item ((ordered_perm items).mem_iff.mp member)
    rw [standing_iff_of_numbered inOrder, (ordered_perm items).length_eq]
    constructor
    · intro counted
      exact .shuffled (((ordered_perm items).map (·.index)).symm.trans (.of_eq counted))
    · rintro (places | stands)
      · exact index_ordered_of_shuffled places
      · exact index_ordered_of_shuffled (.of_eq ((standing_iff_of_numbered numbered).mp stands))
  · have missing : ∃ item ∈ items, item.index = none := by simpa using numbered
    rw [ordered_of_unnumbered missing]
    constructor
    · exact .standing
    · rintro (places | stands)
      · exact absurd (numbered_of_shuffled places) numbered
      · exact stands

/-! ## The embeddings of a reply -/

/-- A reply is taken exactly if it has as many items as there are texts. -/
theorem embeddings_eq_ok_iff :
    embeddings items expected = .ok vectors ↔
      items.length = expected ∧ (ordered items).map (·.embedding) = vectors := by
  unfold embeddings
  split
  case isTrue same => simp [same]
  case isFalse differ => simp [differ]

/-- In a list that stands at its numbers every number leads to the embedding of its item. -/
theorem Standing.embedding_at {stood : List EmbeddingItem} (stands : Standing stood) {item : EmbeddingItem}
    (member : item ∈ stood) {number : Nat} (given : item.index = some number) :
    number < stood.length ∧ (stood.map (·.embedding))[number]? = some item.embedding := by
  obtain ⟨place, here⟩ := List.mem_iff_getElem?.mp member
  obtain rfl : number = place := stands place item here number given
  obtain ⟨within, -⟩ := List.getElem?_eq_some_iff.mp here
  exact ⟨within, by rw [List.getElem?_map, here, Option.map_some]⟩

/-- The embeddings that a reply gives to so many texts: one to each, and those of all its items.  They are at their
numbers if the reply is well numbered, and as they came if some item has no number. -/
structure Arranges (items : List EmbeddingItem) (expected : Nat) (vectors : List Vector32) : Prop where
  length_eq : vectors.length = expected
  perm : vectors.Perm (items.map (·.embedding))
  placed : WellNumbered items → ∀ item ∈ items, ∀ number, item.index = some number →
    number < expected ∧ vectors[number]? = some item.embedding
  arrived : (∃ item ∈ items, item.index = none) → vectors = items.map (·.embedding)

theorem arranges_ordered (counted : items.length = expected) :
    Arranges items expected ((ordered items).map (·.embedding)) where
  length_eq := by rw [List.length_map, (ordered_perm items).length_eq, counted]
  perm := (ordered_perm items).map (·.embedding)
  placed := by
    intro wellNumbered item member number numbered
    have stands : Standing (ordered items) := standing_ordered_iff.mpr wellNumbered
    have placed := stands.embedding_at ((ordered_perm items).mem_iff.mpr member) numbered
    rwa [(ordered_perm items).length_eq, counted] at placed
  arrived := fun missing => by rw [ordered_of_unnumbered missing]

/-- Embeddings that all differ show where their items stand. -/
theorem standing_of_embedding_at {stood : List EmbeddingItem} (differ : (stood.map (·.embedding)).Nodup)
    (placed : ∀ item ∈ stood, ∀ number, item.index = some number →
      (stood.map (·.embedding))[number]? = some item.embedding) : Standing stood := by
  intro place item here number given
  have atNumber := placed item (List.mem_of_getElem? here) number given
  have atPlace : (stood.map (·.embedding))[place]? = some item.embedding := by
    rw [List.getElem?_map, here, Option.map_some]
  obtain ⟨within, -⟩ := List.getElem?_eq_some_iff.mp atNumber
  exact (List.getElem?_inj within differ).mp (atNumber.trans atPlace.symm)

/-- **Embeddings stand at their numbers if the reply is well numbered, and otherwise not.**  A reply that is taken
gives each text one of its embeddings.  Where it is well numbered, the number of every item is the place of a text,
and the embedding of the item is given to that text.  Where it is not, some embedding is given to another text, as can
be seen when no two embeddings are the same. -/
theorem embeddings_follow_numbers (given : embeddings items expected = .ok vectors) :
    vectors.length = expected ∧ vectors.Perm (items.map (·.embedding)) ∧
      (WellNumbered items → ∀ item ∈ items, ∀ number, item.index = some number →
        number < expected ∧ vectors[number]? = some item.embedding) ∧
      ((items.map (·.embedding)).Nodup →
        (∀ item ∈ items, ∀ number, item.index = some number → vectors[number]? = some item.embedding) →
          WellNumbered items) := by
  obtain ⟨counted, rfl⟩ := embeddings_eq_ok_iff.mp given
  have arranges := arranges_ordered counted
  refine ⟨arranges.length_eq, arranges.perm, arranges.placed, fun differ placed => ?_⟩
  refine standing_ordered_iff.mp (standing_of_embedding_at (arranges.perm.nodup_iff.mpr differ) ?_)
  intro item member
  exact placed item ((ordered_perm items).mem_iff.mp member)

/-- A reply in another order than the texts. -/
def shuffledReply : List EmbeddingItem :=
  [⟨some 2, [0.3]⟩, ⟨some 0, [0.1]⟩, ⟨some 1, [0.2]⟩]

theorem embeddings_follow_numbers_of_shuffledReply :
    embeddings shuffledReply 3 = .ok [[0.1], [0.2], [0.3]] ∧ WellNumbered shuffledReply ∧
      ∀ item ∈ shuffledReply, ∀ number, item.index = some number →
        number < 3 ∧ ([[0.1], [0.2], [0.3]] : List Vector32)[number]? = some item.embedding := by
  have given : embeddings shuffledReply 3 = .ok [[0.1], [0.2], [0.3]] := by
    simp [embeddings, ordered, shuffledReply, List.mergeSort]
  have wellNumbered : WellNumbered shuffledReply := .shuffled (by decide)
  obtain ⟨-, -, placed, -⟩ := embeddings_follow_numbers given
  exact ⟨given, wellNumbered, placed wellNumbered⟩

/-- An item without a number leaves the other at the place of a text that it does not belong to. -/
example : embeddings [⟨some 1, [0, 1]⟩, ⟨none, [1, 0]⟩] 2 = .ok [[0, 1], [1, 0]] := rfl

end NoteDialogue.EmbeddingItem
