import Mathlib.Data.List.NodupEquivFin
import NoteDialogue.Proofs.Ambiguity.Overlap

/-!
# When a result is ambiguous

A keyword matches a word of a title by a rule that asks for a least size of the shorter of the two (`MatchesBy`).
The size that counts is in bytes.  By letters the rule would be stricter, for words of two letters that take three
bytes or more and open a keyword, and for no other ones (`matchesBy_byteLength_iff`).

A result of enough documents is clear when no two titles are nearly the same and the query has keywords of which
one document matches more than every other (`verdict_singles_out`).  All of this is about the documents at
different places and not about their order (`verdict_ignores_order`).
-/

set_option autoImplicit false

namespace NoteDialogue

variable {query title : String} {keyword word : List Char} {documents : List Document} {threshold : Nat}

/-! ## Keywords that match a word -/

theorem length_of_mem_titleWords (member : word ∈ titleWords title) : 1 < word.length := by
  have kept := (List.mem_filter.mp member).2
  exact of_decide_eq_true kept

theorem length_of_mem_queryKeywords (member : keyword ∈ queryKeywords query) : 2 < keyword.length := by
  have kept := (List.mem_filter.mp member).2
  rw [Bool.and_eq_true] at kept
  exact of_decide_eq_true kept.1

theorem length_le_byteLength (word : List Char) : word.length ≤ byteLength word := by
  induction word with
  | nil => exact Nat.le_refl 0
  | cons c rest ih =>
      have some : 0 < c.utf8Size := c.utf8Size_pos
      have total : byteLength (c :: rest) = c.utf8Size + byteLength rest := rfl
      rw [List.length_cons, total]
      omega

/-- A keyword matches a word that it equals, or when one of the two opens the other and the shorter has a size of
three or more. -/
def MatchesBy (size : List Char → Nat) (keyword word : List Char) : Prop :=
  keyword = word ∨ 3 ≤ min (size keyword) (size word) ∧ (word <+: keyword ∨ keyword <+: word)

instance (size : List Char → Nat) (keyword word : List Char) : Decidable (MatchesBy size keyword word) :=
  inferInstanceAs (Decidable (_ ∨ _ ∧ (_ ∨ _)))

/-- The size is taken in bytes. -/
theorem keywordMatches_iff (keyword word : List Char) :
    keywordMatches keyword word = true ↔ MatchesBy byteLength keyword word := by
  simp only [keywordMatches, MatchesBy, Bool.or_eq_true, Bool.and_eq_true, beq_iff_eq, decide_eq_true_eq,
    List.isPrefixOf_iff_prefix]

/-- A word of two letters that takes three bytes or more opens the keyword. -/
def OpensByBytes (keyword word : List Char) : Prop :=
  word.length = 2 ∧ 2 < byteLength word ∧ word <+: keyword

instance (keyword word : List Char) : Decidable (OpensByBytes keyword word) :=
  inferInstanceAs (Decidable (_ ∧ _ ∧ _))

/-- **By bytes a keyword matches what it matches by letters, and the words of two letters that open it and take
three bytes or more.** -/
theorem matchesBy_byteLength_iff (keywordLong : 2 < keyword.length) (wordLong : 1 < word.length) :
    MatchesBy byteLength keyword word ↔ MatchesBy List.length keyword word ∨ OpensByBytes keyword word := by
  have keywordBytes := length_le_byteLength keyword
  have wordBytes := length_le_byteLength word
  unfold MatchesBy OpensByBytes
  rcases Nat.lt_or_ge 2 word.length with long | short
  · have byBytes : 3 ≤ min (byteLength keyword) (byteLength word) := by omega
    have byLetters : 3 ≤ min keyword.length word.length := by omega
    have notTwo : word.length ≠ 2 := by omega
    simp only [byBytes, byLetters, notTwo, true_and, false_and, or_false]
  · have two : word.length = 2 := by omega
    have differ : keyword ≠ word := fun same => by rw [same] at keywordLong; omega
    have unopened : ¬ keyword <+: word := fun opens => by have := opens.length_le; omega
    have byBytes : 3 ≤ min (byteLength keyword) (byteLength word) ↔ 2 < byteLength word := by omega
    have byLetters : ¬ 3 ≤ min keyword.length 2 := by omega
    simp only [differ, unopened, byBytes, byLetters, two, false_or, or_false, false_and, true_and]

/-- A word of two letters and three bytes. -/
example : MatchesBy byteLength "élan".toList "él".toList ∧ ¬ MatchesBy List.length "élan".toList "él".toList := by
  decide

/-- How many of the keywords match a word of a title. -/
def matchCount (size : List Char → Nat) (keywords : List (List Char)) (title : String) : Nat :=
  keywords.countP fun keyword => ∃ word ∈ titleWords title, MatchesBy size keyword word

theorem titleScore_eq (keywords : List (List Char)) (title : String) :
    titleScore keywords title = matchCount byteLength keywords title := by
  refine List.countP_congr fun keyword _ => ?_
  rw [List.any_eq_true, decide_eq_true_iff]
  simp only [keywordMatches_iff]

theorem matchCount_congr
    (apart : ∀ keyword ∈ queryKeywords query, ∀ word ∈ titleWords title, ¬ OpensByBytes keyword word) :
    matchCount byteLength (queryKeywords query) title = matchCount List.length (queryKeywords query) title := by
  refine List.countP_congr fun keyword isKeyword => ?_
  rw [decide_eq_true_iff, decide_eq_true_iff]
  refine exists_congr fun word => and_congr_right fun member => ?_
  rw [matchesBy_byteLength_iff (length_of_mem_queryKeywords isKeyword) (length_of_mem_titleWords member)]
  exact or_iff_left (apart keyword isKeyword word member)

/-! ## The largest number -/

theorem largest_spec {numbers : List Nat} (some : numbers ≠ []) :
    largest numbers ∈ numbers ∧ ∀ number ∈ numbers, number ≤ largest numbers := by
  obtain ⟨top, isTop⟩ := Option.ne_none_iff_exists'.mp fun none => some (List.max?_eq_none_iff.mp none)
  have same : largest numbers = top := by
    rw [largest, List.foldl_max, isTop, Option.getD_some, Nat.zero_max]
  rw [same]
  exact List.max?_eq_some_iff.mp isTop

theorem isTopTied_iff (scores : List Nat) :
    isTopTied scores = true ↔
      ∃ one other : Fin scores.length,
        one < other ∧ scores[one] = largest scores ∧ scores[other] = largest scores := by
  rw [isTopTied, decide_eq_true_iff, ← List.duplicate_iff_two_le_count, List.duplicate_iff_exists_distinct_get]
  simp only [List.get_eq_getElem, exists_prop, eq_comm (a := largest scores), Fin.getElem_fin]

theorem isTopTied_perm {scores others : List Nat} (perm : scores.Perm others) :
    isTopTied scores = isTopTied others := by
  have same : largest scores = largest others := perm.foldl_eq 0
  rw [isTopTied, isTopTied, same, perm.count_eq]

/-- **The largest number occurs once exactly if the number at one place exceeds those at all others.** -/
theorem isTopTied_eq_false_iff {scores : List Nat} (some : scores ≠ []) :
    isTopTied scores = false ↔
      ∃ best : Fin scores.length, ∀ other, other ≠ best → scores[other] < scores[best] := by
  obtain ⟨occurs, bounds⟩ := largest_spec some
  have atMost (place : Fin scores.length) : scores[place] ≤ largest scores := bounds _ (List.getElem_mem _)
  rw [← Bool.not_eq_true, isTopTied_iff]
  constructor
  · intro untied
    obtain ⟨best, within, isBest⟩ := List.getElem_of_mem occurs
    refine ⟨⟨best, within⟩, fun other differ => ?_⟩
    rw [Fin.getElem_fin scores ⟨best, within⟩, isBest]
    refine Nat.lt_of_le_of_ne (atMost other) fun alsoBest => untied ?_
    rcases Nat.lt_or_gt_of_ne (Fin.val_ne_of_ne differ) with before | after
    · exact ⟨other, ⟨best, within⟩, before, alsoBest, isBest⟩
    · exact ⟨⟨best, within⟩, other, after, isBest, alsoBest⟩
  · rintro ⟨best, ahead⟩ ⟨one, other, before, isTop, alsoTop⟩
    have leads := atMost best
    -- Of two places with the largest number one is not the best, and so it falls short of the largest.
    by_cases same : other = best
    · have short := ahead one (same ▸ Fin.ne_of_lt before)
      omega
    · have short := ahead other same
      omega

/-! ## Documents that stand out -/

/-- Exactly one document matches more of the keywords than every other. -/
def SinglesOut (size : List Char → Nat) (query : String) (documents : List Document) : Prop :=
  ∃! best : Fin documents.length, ∀ other, other ≠ best →
    matchCount size (queryKeywords query) (documents.get other).title <
      matchCount size (queryKeywords query) (documents.get best).title

/-- There is no second such document. -/
theorem singlesOut_iff {size : List Char → Nat} :
    SinglesOut size query documents ↔
      ∃ best : Fin documents.length, ∀ other, other ≠ best →
        matchCount size (queryKeywords query) (documents.get other).title <
          matchCount size (queryKeywords query) (documents.get best).title := by
  refine ⟨ExistsUnique.exists, ?_⟩
  rintro ⟨best, ahead⟩
  refine ⟨best, ahead, fun rival alsoAhead => ?_⟩
  by_contra differ
  exact Nat.lt_asymm (ahead rival differ) (alsoAhead best (Ne.symm differ))

instance (size : List Char → Nat) (query : String) (documents : List Document) :
    Decidable (SinglesOut size query documents) :=
  decidable_of_iff' _ singlesOut_iff

theorem singlesOut_congr
    (apart : ∀ keyword ∈ queryKeywords query, ∀ document ∈ documents, ∀ word ∈ titleWords document.title,
      ¬ OpensByBytes keyword word) :
    SinglesOut byteLength query documents ↔ SinglesOut List.length query documents := by
  have same (place : Fin documents.length) :
      matchCount byteLength (queryKeywords query) (documents.get place).title =
        matchCount List.length (queryKeywords query) (documents.get place).title :=
    matchCount_congr fun keyword isKeyword => apart keyword isKeyword _ (List.getElem_mem _)
  simp only [SinglesOut, same]

theorem untied_iff (some : documents ≠ []) :
    isTopTied ((documents.map (·.title)).map (titleScore (queryKeywords query))) = false ↔
      SinglesOut byteLength query documents := by
  rw [singlesOut_iff, isTopTied_eq_false_iff (by simpa using some)]
  simp only [Fin.exists_iff, Fin.forall_iff, Fin.getElem_fin, List.getElem_map, List.length_map, List.get_eq_getElem,
    titleScore_eq, ne_eq, Fin.mk.injEq]

/-! ## The verdict -/

theorem ambiguity_of_few (few : documents.length < max threshold 2) : ambiguity query documents threshold = none := by
  rw [ambiguity, ambiguityOfTitles, List.length_map, if_pos few]

theorem ambiguity_of_near (enough : max threshold 2 ≤ documents.length) (near : HasNearDuplicates documents) :
    ambiguity query documents threshold = some .nearDuplicateTitles := by
  rw [ambiguity, ambiguityOfTitles, List.length_map, if_neg (Nat.not_lt.mpr enough),
    if_pos ((anyNearDuplicates_iff documents).mpr near)]

/-- Documents with titles apart are unclear unless the query has keywords and one document stands out. -/
theorem ambiguity_of_apart (enough : max threshold 2 ≤ documents.length) (apart : ¬ HasNearDuplicates documents) :
    ambiguity query documents threshold =
      if queryKeywords query ≠ [] ∧ SinglesOut byteLength query documents then none else some .genericTitles := by
  have several : documents ≠ [] := by
    rintro rfl
    rw [List.length_nil] at enough
    omega
  rw [ambiguity, ambiguityOfTitles, List.length_map, if_neg (Nat.not_lt.mpr enough),
    if_neg (mt (anyNearDuplicates_iff documents).mp apart)]
  simp only [List.isEmpty_iff]
  by_cases keywordless : queryKeywords query = []
  · rw [if_pos keywordless, if_neg fun singled => singled.1 keywordless]
  · rw [if_neg keywordless]
    by_cases singled : SinglesOut byteLength query documents
    · rw [(untied_iff several).mpr singled, if_neg Bool.false_ne_true, if_pos ⟨keywordless, singled⟩]
    · rw [if_pos (by simpa using mt (untied_iff several).mp singled), if_neg fun both => singled both.2]

/-- **The verdict does not depend on the order of the documents**, and the overlap of two titles neither on their
order nor on anything but their sets of words.  The same is true of their score, the number that is shown. -/
theorem verdict_ignores_order :
    (∀ (query : String) (threshold : Nat) (documents reordered : List Document), documents.Perm reordered →
      ambiguity query documents threshold = ambiguity query reordered threshold) ∧
    (∀ left right, titleOverlap left right = titleOverlap right left) ∧
    (∀ left right left' right', wordSet left = wordSet left' → wordSet right = wordSet right' →
      titleOverlap left right = titleOverlap left' right') ∧
    (∀ left right, (titleOverlap left right).score = (titleOverlap right left).score) ∧
    ∀ left right left' right', wordSet left = wordSet left' → wordSet right = wordSet right' →
      (titleOverlap left right).score = (titleOverlap left' right').score := by
  refine ⟨?_, titleOverlap_comm, fun _ _ _ _ => titleOverlap_congr, ?_, ?_⟩
  · intro query threshold documents reordered perm
    have titles : (documents.map (·.title)).Perm (reordered.map (·.title)) := perm.map _
    have scores := isTopTied_perm (titles.map (titleScore (queryKeywords query)))
    simp only [ambiguity, ambiguityOfTitles, titles.length_eq, anyNearDuplicates_perm titles, scores]
  · intro left right
    rw [titleOverlap_comm]
  · intro left right left' right' sameLeft sameRight
    rw [titleOverlap_congr sameLeft sameRight]

/-- Documents with these titles. -/
def titled (titles : List String) : List Document :=
  titles.map fun title => { id := title, title, plainContent := "" }

theorem verdict_ignores_order_of_bills :
    let documents := titled ["Rent 2024", "Groceries", "Utilities"]
    let reordered := titled ["Utilities", "Rent 2024", "Groceries"]
    documents.Perm reordered ∧ ambiguity "rent" documents 3 = none ∧ ambiguity "rent" reordered 3 = none ∧
      wordSet "Rent, rent!" = wordSet "rent 2024" ∧ wordSet "rent paid" = wordSet "Paid rent" ∧
      titleOverlap "Rent, rent!" "rent paid" = titleOverlap "rent 2024" "Paid rent" := by
  intro documents reordered
  have perm : (titled ["Rent 2024", "Groceries"] ++ titled ["Utilities"]).Perm
      (titled ["Utilities"] ++ titled ["Rent 2024", "Groceries"]) := List.perm_append_comm
  have clear : ambiguity "rent" documents 3 = none := by decide +kernel
  have one : wordSet "Rent, rent!" = wordSet "rent 2024" := by decide +kernel
  have other : wordSet "rent paid" = wordSet "Paid rent" := by decide +kernel
  have alsoClear := (verdict_ignores_order.1 "rent" 3 documents reordered perm).symm.trans clear
  exact ⟨perm, clear, alsoClear, one, other, verdict_ignores_order.2.2.1 _ _ _ _ one other⟩

/-- **A result is clear exactly when it has few documents, or when no two titles are nearly the same and the
keywords of the query single one document out**, a match being judged by bytes.  It has titles that are nearly the
same exactly when it has enough documents and two such titles.  Judged by letters a keyword matches the same words
but for words of two letters that take three bytes or more and open it; so where there are none the letters
decide. -/
theorem verdict_singles_out (query : String) (documents : List Document) (threshold : Nat) :
    (ambiguity query documents threshold = none ↔
      documents.length < max threshold 2 ∨
        ¬ HasNearDuplicates documents ∧ queryKeywords query ≠ [] ∧ SinglesOut byteLength query documents) ∧
    (ambiguity query documents threshold = some .nearDuplicateTitles ↔
      max threshold 2 ≤ documents.length ∧ HasNearDuplicates documents) ∧
    (∀ keyword ∈ queryKeywords query, ∀ document ∈ documents, ∀ word ∈ titleWords document.title,
      (MatchesBy byteLength keyword word ↔ MatchesBy List.length keyword word ∨ OpensByBytes keyword word)) ∧
    ((∀ keyword ∈ queryKeywords query, ∀ document ∈ documents, ∀ word ∈ titleWords document.title,
        ¬ OpensByBytes keyword word) →
      (SinglesOut byteLength query documents ↔ SinglesOut List.length query documents)) := by
  refine ⟨?_, ?_, ?_, singlesOut_congr⟩
  · rcases Nat.lt_or_ge documents.length (max threshold 2) with few | enough
    · simp only [ambiguity_of_few few, few, true_or]
    · by_cases near : HasNearDuplicates documents
      · simp [ambiguity_of_near enough near, Nat.not_lt.mpr enough, near]
      · rw [ambiguity_of_apart enough near, ite_eq_left_iff]
        simp [Nat.not_lt.mpr enough, near]
  · rcases Nat.lt_or_ge documents.length (max threshold 2) with few | enough
    · simp [ambiguity_of_few few, Nat.not_le.mpr few]
    · by_cases near : HasNearDuplicates documents
      · simp only [ambiguity_of_near enough near, enough, near, and_self]
      · rw [ambiguity_of_apart enough near]
        split <;> simp [near]
  · intro keyword isKeyword document _ word isWord
    exact matchesBy_byteLength_iff (length_of_mem_queryKeywords isKeyword) (length_of_mem_titleWords isWord)

theorem verdict_singles_out_of_errands :
    let documents := titled ["Rent contract", "Groceries list", "Utilities bills"]
    let query := "groceries list for june"
    (∀ keyword ∈ queryKeywords query, ∀ document ∈ documents, ∀ word ∈ titleWords document.title,
        ¬ OpensByBytes keyword word) ∧
      SinglesOut List.length query documents ∧ ambiguity query documents 3 = none := by
  intro documents query
  have apart : ∀ keyword ∈ queryKeywords query, ∀ document ∈ documents, ∀ word ∈ titleWords document.title,
      ¬ OpensByBytes keyword word := by decide +kernel
  have singled : SinglesOut List.length query documents := by decide +kernel
  obtain ⟨clear, -, -, alike⟩ := verdict_singles_out query documents 3
  have differ : ¬ HasNearDuplicates documents := mt (anyNearDuplicates_iff documents).mpr (by decide +kernel)
  exact ⟨apart, singled, clear.mpr (.inr ⟨differ, by decide +kernel, (alike apart).mpr singled⟩)⟩

end NoteDialogue
