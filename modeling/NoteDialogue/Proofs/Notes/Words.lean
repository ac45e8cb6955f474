import Mathlib.Data.List.Infix
import NoteDialogue.Notes.Store
import NoteDialogue.Proofs.Text.LetterCase
import NoteDialogue.Proofs.Text.Trim

/-!
# Notes found by their words

A note matches terms when its title or its body holds the phrase, or when each of the words occurs in one of the
two (`LiteralTerms.Matches`).  Matching notes fall into four groups, by where they hold the phrase and the words
(`LiteralTerms.group`).  A ranking orders them by their group and then by their time, the latest first, and leaves
notes that are equal in both as they stood (`LiteralTerms.IsRanking`).  There is only one ranking of some notes
(`LiteralTerms.IsRanking.unique`).

What a search by words returns is the beginning of the ranking of the notes that match and pass the restriction
(`searchLiteral_ranks`).
-/

set_option autoImplicit false

namespace NoteDialogue

open Text (lowerChars isBlankText)

/-! ## Times -/

theorem Timestamp.isBefore_iff {left right : Timestamp} :
    left.isBefore right = true ↔
      left.seconds < right.seconds ∨ left.seconds = right.seconds ∧ left.nanoseconds < right.nanoseconds := by
  simp only [Timestamp.isBefore, Bool.or_eq_true, Bool.and_eq_true, decide_eq_true_eq, beq_iff_eq]

/-- Of two different times one is before the other. -/
theorem Timestamp.eq_of_not_isBefore {left right : Timestamp} (one : ¬ left.isBefore right)
    (two : ¬ right.isBefore left) : left = right := by
  rw [isBefore_iff] at one two
  cases left
  cases right
  simp only at one two
  congr 1 <;> omega

/-! ## Notes that match -/

/-- The title of a note in lower case holds a passage. -/
def Note.TitleHolds (note : Note) (passage : List Char) : Prop :=
  passage <:+: lowerChars note.title.toList

/-- The body of a note in lower case holds a passage. -/
def Note.BodyHolds (note : Note) (passage : List Char) : Prop :=
  passage <:+: lowerChars note.plainContent.toList

instance (note : Note) (passage : List Char) : Decidable (note.TitleHolds passage) :=
  inferInstanceAs (Decidable (passage <:+: _))

instance (note : Note) (passage : List Char) : Decidable (note.BodyHolds passage) :=
  inferInstanceAs (Decidable (passage <:+: _))

namespace LiteralTerms

/-- The title or the body holds the phrase, or there are words and the title or the body holds each of them. -/
def Matches (terms : LiteralTerms) (note : Note) : Prop :=
  note.TitleHolds terms.phrase ∨ note.BodyHolds terms.phrase ∨
    terms.keywords ≠ [] ∧ ∀ word ∈ terms.keywords, note.TitleHolds word ∨ note.BodyHolds word

instance (terms : LiteralTerms) (note : Note) : Decidable (terms.Matches note) :=
  inferInstanceAs (Decidable (_ ∨ _ ∨ _ ∧ ∀ word ∈ terms.keywords, _ ∨ _))

/-- The group of a matching note.  First come the notes with the phrase in their title, then those with the phrase
in their body, then those with all words in their title, then the rest. -/
def group (terms : LiteralTerms) (note : Note) : Nat :=
  if note.TitleHolds terms.phrase then 0
  else if note.BodyHolds terms.phrase then 1
  else if ∀ word ∈ terms.keywords, note.TitleHolds word then 2
  else 3

variable {terms : LiteralTerms} {text : String}

theorem phrase_ofText_eq_nil_iff : (ofText text).phrase = [] ↔ isBlankText text = true := by
  rw [ofText, Text.lowerChars_eq_nil_iff, ← not_iff_not, ← ne_eq, Text.trimChars_ne_nil_iff, isBlankText,
    Bool.not_eq_true, List.all_eq_false]
  simp only [Bool.not_eq_true]

theorem matches_of_blank (blank : isBlankText text = true) (note : Note) : (ofText text).Matches note := by
  rw [Matches, phrase_ofText_eq_nil_iff.mpr blank]
  exact .inl List.nil_infix

/-- **A note has a rank exactly when it matches**, and the rank is its group. -/
theorem rankOf?_eq (terms : LiteralTerms) (note : Note) :
    terms.rankOf? note = if terms.Matches note then some (terms.group note) else none := by
  have ranked : terms.rankOf? note =
      if terms.phrase = [] then some 0
      else if note.TitleHolds terms.phrase then some 0
      else if note.BodyHolds terms.phrase then some 1
      else if terms.keywords = [] then none
      else if ∀ word ∈ terms.keywords, note.TitleHolds word then some 2
      else if ∀ word ∈ terms.keywords, note.TitleHolds word ∨ note.BodyHolds word then some 3
      else none := by
    simp only [rankOf?, rank?, List.isEmpty_iff, List.all_eq_true, Bool.or_eq_true, Text.containsChars_iff]
    rfl
  rw [ranked, group]
  by_cases inTitle : note.TitleHolds terms.phrase
  · have matched : terms.Matches note := .inl inTitle
    rw [if_pos inTitle, ite_self, if_pos matched, if_pos inTitle]
  have notBlank : terms.phrase ≠ [] := fun blank => inTitle (blank ▸ List.nil_infix)
  rw [if_neg notBlank, if_neg inTitle, if_neg inTitle]
  by_cases inBody : note.BodyHolds terms.phrase
  · have matched : terms.Matches note := .inr (.inl inBody)
    rw [if_pos inBody, if_pos matched, if_pos inBody]
  rw [if_neg inBody, if_neg inBody]
  by_cases wordless : terms.keywords = []
  · have unmatched : ¬ terms.Matches note := by simp [Matches, inTitle, inBody, wordless]
    rw [if_pos wordless, if_neg unmatched]
  rw [if_neg wordless]
  by_cases allInTitle : ∀ word ∈ terms.keywords, note.TitleHolds word
  · have matched : terms.Matches note := .inr (.inr ⟨wordless, fun word member => .inl (allInTitle word member)⟩)
    rw [if_pos allInTitle, if_pos matched, if_pos allInTitle]
  · have matched : terms.Matches note ↔
        ∀ word ∈ terms.keywords, note.TitleHolds word ∨ note.BodyHolds word := by
      simp [Matches, inTitle, inBody, wordless]
    simp only [if_neg allInTitle, matched]

/-! ## Rankings -/

/-- A note may come before another one if its group is less, or if the groups are the same and its time is not
before the other. -/
def MayPrecede (terms : LiteralTerms) (left right : Note) : Prop :=
  terms.group left < terms.group right ∨
    terms.group left = terms.group right ∧ ¬ left.updatedAt.isBefore right.updatedAt

instance (terms : LiteralTerms) (left right : Note) : Decidable (terms.MayPrecede left right) :=
  inferInstanceAs (Decidable (_ ∨ _ ∧ _))

/-- The notes of a group and of a time. -/
def alike (terms : LiteralTerms) (group : Nat) (time : Timestamp) (notes : List Note) : List Note :=
  notes.filter fun note => terms.group note = group ∧ note.updatedAt = time

/-- A ranking of some notes is an order of them in which each may precede those that come after it, and in which
notes of the same group and time stand as they stood. -/
structure IsRanking (terms : LiteralTerms) (notes ranking : List Note) : Prop where
  perm : ranking.Perm notes
  ordered : ranking.Pairwise terms.MayPrecede
  stable : ∀ group time, terms.alike group time ranking = terms.alike group time notes

theorem MayPrecede.trans {first second third : Note} (one : terms.MayPrecede first second)
    (two : terms.MayPrecede second third) : terms.MayPrecede first third := by
  simp only [MayPrecede, Timestamp.isBefore_iff] at *
  omega

theorem mayPrecede_total (terms : LiteralTerms) (left right : Note) :
    terms.MayPrecede left right ∨ terms.MayPrecede right left := by
  simp only [MayPrecede, Timestamp.isBefore_iff]
  omega

/-- Notes that may precede each other have the same group and time. -/
theorem MayPrecede.same {left right : Note} (one : terms.MayPrecede left right)
    (two : terms.MayPrecede right left) :
    terms.group left = terms.group right ∧ left.updatedAt = right.updatedAt := by
  rcases one with less | ⟨sameGroup, notBefore⟩
  · rcases two with more | ⟨sameGroup, -⟩ <;> omega
  · rcases two with more | ⟨-, alsoNotBefore⟩
    · omega
    · exact ⟨sameGroup, Timestamp.eq_of_not_isBefore notBefore alsoNotBefore⟩

theorem mayPrecede_of_same {left right : Note} (sameGroup : terms.group left = terms.group right)
    (sameTime : left.updatedAt = right.updatedAt) : terms.MayPrecede left right := by
  rw [MayPrecede, sameTime, Timestamp.isBefore_iff]
  omega

/-- Two orders of the same notes agree if the notes are ordered in both, and those of each group and time stand
alike. -/
theorem eq_of_ordered {one two : List Note} (perm : one.Perm two)
    (same : ∀ group time, terms.alike group time one = terms.alike group time two)
    (ordered : one.Pairwise terms.MayPrecede) (alsoOrdered : two.Pairwise terms.MayPrecede) : one = two := by
  induction one generalizing two with
  | nil => exact perm.nil_eq
  | cons best rest ih =>
      cases two with
      | nil => cases perm.eq_nil
      | cons other others =>
          obtain ⟨leads, restOrdered⟩ := List.pairwise_cons.mp ordered
          obtain ⟨alsoLeads, othersOrdered⟩ := List.pairwise_cons.mp alsoOrdered
          have sameBest : best = other := by
            rcases List.mem_cons.mp (perm.mem_iff.mp List.mem_cons_self) with here | later
            · exact here
            rcases List.mem_cons.mp (perm.mem_iff.mpr List.mem_cons_self) with here | alsoLater
            · exact here.symm
            -- Each is before the other in one of the orders, so they are of the same group and time.
            obtain ⟨sameGroup, sameTime⟩ := (leads other alsoLater).same (alsoLeads best later)
            have kept := same (terms.group best) best.updatedAt
            simp only [alike, List.filter_cons, sameGroup, sameTime, and_self, decide_true, if_true] at kept
            exact (List.cons.inj kept).1
          subst sameBest
          refine congrArg (best :: ·) (ih perm.cons_inv (fun group time => ?_) restOrdered othersOrdered)
          have kept := same group time
          simp only [alike, List.filter_cons] at kept ⊢
          split at kept
          · exact (List.cons.inj kept).2
          · exact kept

/-- **There is one ranking of some notes.** -/
theorem IsRanking.unique {notes one two : List Note} (first : terms.IsRanking notes one)
    (second : terms.IsRanking notes two) : one = two :=
  eq_of_ordered (first.perm.trans second.perm.symm)
    (fun group time => (first.stable group time).trans (second.stable group time).symm)
    first.ordered second.ordered

/-- Sorting stably gives the ranking. -/
theorem isRanking_mergeSort (terms : LiteralTerms) (notes : List Note) :
    terms.IsRanking notes (notes.mergeSort fun left right => terms.MayPrecede left right) := by
  have trans : ∀ first second third : Note, decide (terms.MayPrecede first second) = true →
      decide (terms.MayPrecede second third) = true → decide (terms.MayPrecede first third) = true :=
    fun _ _ _ one two => decide_eq_true ((of_decide_eq_true one).trans (of_decide_eq_true two))
  have total : ∀ left right : Note,
      (decide (terms.MayPrecede left right) || decide (terms.MayPrecede right left)) = true := by
    intro left right
    rw [Bool.or_eq_true, decide_eq_true_iff, decide_eq_true_iff]
    exact mayPrecede_total terms left right
  have perm := List.mergeSort_perm notes fun left right => terms.MayPrecede left right
  refine ⟨perm, (List.pairwise_mergeSort trans total notes).imp of_decide_eq_true, fun group time => ?_⟩
  -- The notes of a group and a time are sorted already, so sorting keeps them as they stand.
  have sorted : (terms.alike group time notes).Pairwise fun left right =>
      decide (terms.MayPrecede left right) = true := by
    refine List.pairwise_iff_forall_sublist.mpr fun {left right} both => decide_eq_true ?_
    have isLeft := both.subset List.mem_cons_self
    have isRight := both.subset (List.mem_cons_of_mem _ List.mem_cons_self)
    obtain ⟨rfl, rfl⟩ := of_decide_eq_true (List.mem_filter.mp isLeft).2
    obtain ⟨sameGroup, sameTime⟩ := of_decide_eq_true (List.mem_filter.mp isRight).2
    exact mayPrecede_of_same sameGroup.symm sameTime.symm
  have kept := (List.sublist_mergeSort trans total sorted List.filter_sublist).filter fun note =>
    terms.group note = group ∧ note.updatedAt = time
  rw [alike, List.filter_filter] at kept
  simp only [Bool.and_self] at kept
  exact (kept.eq_of_length (perm.filter _).length_eq.symm).symm

/-- Notes are ranked by sorting those that match and pass the restriction. -/
theorem rankNotes_eq (terms : LiteralTerms) (filter : NoteFilter) (notes : List Note) :
    rankNotes terms filter notes =
      (notes.filter fun note => filter.admits note ∧ terms.Matches note).mergeSort
        fun left right => terms.MayPrecede left right := by
  have ranked : (notes.filter filter.admits).filterMap (fun note =>
      (terms.rankOf? note).map fun rank => RankedNote.mk rank note) =
        (notes.filter fun note => filter.admits note ∧ terms.Matches note).map fun note =>
          RankedNote.mk (terms.group note) note := by
    rw [← List.filterMap_eq_map, List.filterMap_filter, List.filterMap_filter]
    refine congrArg (List.filterMap · notes) (funext fun note => ?_)
    rw [rankOf?_eq]
    by_cases matched : terms.Matches note <;> simp [matched]
  have sameOrder (left right : Note) : decide (terms.MayPrecede left right) =
      RankedNote.mayPrecede ⟨terms.group left, left⟩ ⟨terms.group right, right⟩ := by
    rw [Bool.eq_iff_iff, decide_eq_true_iff]
    simp only [MayPrecede, RankedNote.mayPrecede, Bool.or_eq_true, Bool.and_eq_true, decide_eq_true_eq,
      beq_iff_eq, Bool.not_eq_true', Bool.not_eq_true]
  rw [rankNotes, ranked, ← List.map_mergeSort fun left _ right _ => sameOrder left right, List.map_map]
  exact List.map_id _

end LiteralTerms

/-! ## Searches -/

namespace NoteStore

/-- **A search by words returns the beginning of the ranking** of the notes of the owner that pass the restriction
and match the terms; any note matches blank terms.  What it returns under a smaller limit comes first under a
greater one, and a search for a text that is not blank is the search without a restriction. -/
theorem searchLiteral_ranks (store : NoteStore) (ownerId text : String) (filter : NoteFilter) :
    (∃ ranking, (LiteralTerms.ofText text).IsRanking
        ((store.ownedNotes ownerId).filter fun note =>
          filter.admits note ∧ (isBlankText text ∨ (LiteralTerms.ofText text).Matches note)) ranking ∧
      ∀ limit, store.searchLiteral ownerId text filter limit = ranking.take limit) ∧
    (∀ limit more, store.searchLiteral ownerId text filter limit <+:
      store.searchLiteral ownerId text filter (limit + more)) ∧
    (isBlankText text = false → ∀ limit,
      store.searchFuzzy ownerId text limit = store.searchLiteral ownerId text {} limit) := by
  refine ⟨⟨rankNotes (LiteralTerms.ofText text) filter (store.ownedNotes ownerId), ?_, fun _ => rfl⟩, ?_, ?_⟩
  · have anyway (note : Note) : isBlankText text ∨ (LiteralTerms.ofText text).Matches note ↔
        (LiteralTerms.ofText text).Matches note :=
      or_iff_right_of_imp fun blank => LiteralTerms.matches_of_blank blank note
    simp only [anyway]
    rw [LiteralTerms.rankNotes_eq]
    exact LiteralTerms.isRanking_mergeSort _ _
  · exact fun limit more => List.take_prefix_take_left (Nat.le_add_right limit more)
  · intro notBlank limit
    rw [searchFuzzy, notBlank, if_neg Bool.false_ne_true]

end NoteStore

end NoteDialogue
