import Mathlib.Algebra.Order.Field.Rat
import Mathlib.Data.Finset.Card
import Mathlib.Tactic.NormNum
import NoteDialogue.Ambiguity

/-!
# The overlap of two titles

Titles are compared as sets of words (`wordSet`).  Their overlap counts the words that they share and the words of
either, and so it does not depend on how often or in which order a title has its words (`titleOverlap_eq`).  Two
titles are nearly the same when they share three fifths of all words or more, and two titles without words always
are (`nearDuplicates_iff`).
-/

set_option autoImplicit false

namespace NoteDialogue

/-! ## Words as a set -/

/-- The words of a title, without regard to their order and number. -/
def wordSet (title : String) : Finset (List Char) :=
  (titleWords title).toFinset

/-- How much two sets of words share.  Empty sets are the same for this purpose. -/
def overlapOfSets (left right : Finset (List Char)) : TitleOverlap :=
  if left ∪ right = ∅ then ⟨1, 1⟩ else ⟨(left ∩ right).card, (left ∪ right).card⟩

theorem overlapOfSets_comm (left right : Finset (List Char)) :
    overlapOfSets left right = overlapOfSets right left := by
  rw [overlapOfSets, overlapOfSets, Finset.union_comm, Finset.inter_comm]

theorem nodup_eraseDups (words : List (List Char)) : words.eraseDups.Nodup := by
  match words with
  | [] => exact List.nodup_nil
  | word :: rest =>
      rw [List.eraseDups_cons, List.nodup_cons]
      refine ⟨fun again => ?_, nodup_eraseDups _⟩
      simpa using List.of_mem_filter (List.mem_eraseDups.mp again)
termination_by words.length
decreasing_by exact Nat.lt_succ_of_le (List.length_filter_le _ _)

theorem toFinset_eraseDups (words : List (List Char)) : words.eraseDups.toFinset = words.toFinset := by
  ext word
  simp only [List.mem_toFinset, List.mem_eraseDups]

/-- Counting among words without repetition is counting in their set. -/
theorem countP_eraseDups (words : List (List Char)) (counts : List Char → Bool) :
    words.eraseDups.countP counts = (words.toFinset.filter fun word => counts word = true).card := by
  rw [List.countP_eq_length_filter, ← List.toFinset_card_of_nodup ((nodup_eraseDups words).filter _),
    List.toFinset_filter, toFinset_eraseDups]

/-- **The overlap of two titles depends on their sets of words alone.** -/
theorem titleOverlap_eq (left right : String) :
    titleOverlap left right = overlapOfSets (wordSet left) (wordSet right) := by
  have empty (words : List (List Char)) : words.eraseDups.isEmpty = true ↔ words.toFinset = ∅ := by
    rw [List.isEmpty_iff, ← List.toFinset_eq_empty_iff, toFinset_eraseDups]
  have shared : (titleWords left).eraseDups.countP (titleWords right).eraseDups.contains =
      (wordSet left ∩ wordSet right).card := by
    rw [countP_eraseDups]
    congr 1
    ext word
    simp [wordSet, List.mem_eraseDups]
  have length : (titleWords left).eraseDups.length = (wordSet left).card := by
    rw [wordSet, ← toFinset_eraseDups, List.toFinset_card_of_nodup (nodup_eraseDups _)]
  have onlyRight : ((titleWords right).eraseDups.countP fun word => !(titleWords left).eraseDups.contains word) =
      (wordSet right \ wordSet left).card := by
    rw [countP_eraseDups]
    congr 1
    ext word
    simp [wordSet, List.mem_eraseDups]
  have total : (wordSet left).card + (wordSet right \ wordSet left).card = (wordSet left ∪ wordSet right).card := by
    rw [Nat.add_comm, Finset.card_sdiff_add_card, Finset.union_comm]
  rw [titleOverlap, overlapOfSets]
  simp only [Bool.and_eq_true, empty, shared, length, onlyRight, total, Finset.union_eq_empty]
  rfl

theorem titleOverlap_comm (left right : String) : titleOverlap left right = titleOverlap right left := by
  rw [titleOverlap_eq, titleOverlap_eq, overlapOfSets_comm]

theorem titleOverlap_congr {left right left' right' : String} (sameLeft : wordSet left = wordSet left')
    (sameRight : wordSet right = wordSet right') : titleOverlap left right = titleOverlap left' right' := by
  rw [titleOverlap_eq, titleOverlap_eq, sameLeft, sameRight]

/-! ## Titles that are nearly the same -/

/-- The share of the words of two sets that is in both; empty sets are the same. -/
def sharedPart (left right : Finset (List Char)) : ℚ :=
  if left ∪ right = ∅ then 1 else (left ∩ right).card / (left ∪ right).card

/-- Three fifths of the words of two titles or more are in both. -/
def AreNearDuplicates (left right : String) : Prop :=
  3 / 5 ≤ sharedPart (wordSet left) (wordSet right)

theorem isNearDuplicate_overlapOfSets (left right : Finset (List Char)) :
    (overlapOfSets left right).isNearDuplicate = true ↔ 3 / 5 ≤ sharedPart left right := by
  unfold TitleOverlap.isNearDuplicate overlapOfSets sharedPart
  by_cases empty : left ∪ right = ∅
  · simp only [if_pos empty]
    norm_num
  · have some : (0 : ℚ) < (left ∪ right).card := by
      exact_mod_cast Finset.card_pos.mpr (Finset.nonempty_of_ne_empty empty)
    rw [if_neg empty, if_neg empty, decide_eq_true_iff, div_le_div_iff₀ (by norm_num) some,
      mul_comm ((left ∩ right).card : ℚ)]
    norm_cast

theorem nearDuplicates_iff (left right : String) :
    nearDuplicates left right = true ↔ AreNearDuplicates left right := by
  rw [nearDuplicates, titleOverlap_eq]
  exact isNearDuplicate_overlapOfSets _ _

theorem nearDuplicates_comm (left right : String) : nearDuplicates left right = nearDuplicates right left := by
  rw [nearDuplicates, nearDuplicates, titleOverlap_comm]

/-- No title is nearly the same as one that comes after it. -/
theorem anyNearDuplicates_eq_false_iff (titles : List String) :
    anyNearDuplicates titles = false ↔ titles.Pairwise fun left right => nearDuplicates left right = false := by
  induction titles with
  | nil => simp [anyNearDuplicates]
  | cons title rest ih =>
      rw [anyNearDuplicates, Bool.or_eq_false_iff, ih, List.pairwise_cons, List.any_eq_false]
      simp only [Bool.not_eq_true]

/-- Whether two titles are nearly the same does not depend on their order. -/
theorem anyNearDuplicates_perm {titles others : List String} (perm : titles.Perm others) :
    anyNearDuplicates titles = anyNearDuplicates others := by
  rw [Bool.eq_iff_iff, ← not_iff_not, Bool.not_eq_true, Bool.not_eq_true, anyNearDuplicates_eq_false_iff,
    anyNearDuplicates_eq_false_iff]
  exact perm.pairwise_iff fun {left right} differ => (nearDuplicates_comm right left).trans differ

/-- Some two documents at different places have titles that are nearly the same. -/
def HasNearDuplicates (documents : List Document) : Prop :=
  ∃ one other : Fin documents.length,
    one ≠ other ∧ AreNearDuplicates (documents.get one).title (documents.get other).title

/-- **Comparing each title with those after it finds all pairs.** -/
theorem anyNearDuplicates_iff (documents : List Document) :
    anyNearDuplicates (documents.map (·.title)) = true ↔ HasNearDuplicates documents := by
  rw [HasNearDuplicates, ← not_iff_not, Bool.not_eq_true, anyNearDuplicates_eq_false_iff, List.pairwise_map,
    List.pairwise_iff_get]
  push Not
  simp only [← nearDuplicates_iff, Bool.not_eq_true]
  constructor
  · intro apart one other differ
    rcases Nat.lt_or_gt_of_ne (Fin.val_ne_of_ne differ) with before | after
    · exact apart one other before
    · exact (nearDuplicates_comm _ _).trans (apart other one after)
  · intro apart one other before
    exact apart one other (Fin.ne_of_lt before)

end NoteDialogue
