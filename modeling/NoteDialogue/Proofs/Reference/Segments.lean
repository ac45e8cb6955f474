import NoteDialogue.Proofs.Reference.Cut

/-!
# The segments of a text

A pass over a text divides it into segments: items that it leaves where they are, and mentions that it cuts
out, each of them whole (`Divides`).  The items may be more than characters, as long as a character stands for
each of them; after one pass they are the segments of the pass before.  So a later pass, which sees only the
spaces that an earlier one has left, can still be told what it cuts out of the text.

Every recogniser that recognises stretches of a text divides every text (`exists_divides`), and what the pass
returns is read off the segments (`Divides.cut_eq`).
-/

set_option autoImplicit false

namespace NoteDialogue

/-- What a pass makes of some items of a text: it leaves an item, or cuts out a mention. -/
inductive Segment (α : Type)
  | left (item : α)
  | mention (items : List α) (value : List Char)

variable {α : Type}

namespace Segment

/-- What the segment was in the text before the pass. -/
def items : Segment α → List α
  | left item => [item]
  | mention items _ => items

/-- The character that stands for the segment after the pass. -/
def letter (ofItem : α → Char) : Segment α → Char
  | left item => ofItem item
  | mention _ _ => ' '

/-- The mention that was cut out. -/
def cut? (ofItem : α → Char) : Segment α → Option Cut
  | left _ => none
  | mention items value => some ⟨items.map ofItem, value⟩

theorem flatMap_items_left (stretch : List α) (after : List (Segment α)) :
    (stretch.map left ++ after).flatMap items = stretch ++ after.flatMap items := by
  rw [List.flatMap_append, List.flatMap_map]
  congr 1
  exact List.flatMap_singleton' stretch

/-- Segments without a mention among them are items that were left. -/
theorem exists_eq_map_left {segments : List (Segment α)}
    (noMention : ¬ ∃ within value, mention within value ∈ segments) :
    ∃ stretch : List α, segments = stretch.map left := by
  induction segments with
  | nil => exact ⟨[], rfl⟩
  | cons segment segments ih =>
      cases segment with
      | mention within value => exact absurd ⟨within, value, List.mem_cons_self⟩ noMention
      | left item =>
          obtain ⟨stretch, rfl⟩ := ih fun ⟨within, value, member⟩ =>
            noMention ⟨within, value, List.mem_cons_of_mem _ member⟩
          exact ⟨item :: stretch, rfl⟩

end Segment

variable {recognise : Recogniser} {letter : α → Char}

/-- What is recognised is a stretch at the start of the text. -/
def Recogniser.Fits (recognise : Recogniser) : Prop :=
  ∀ text found, recognise text = some found → 0 < found.length ∧ found.length ≤ text.length

/-- How a pass divides some items into segments: it leaves an item where nothing is recognised, and cuts out
what is recognised. -/
inductive Divides (recognise : Recogniser) (letter : α → Char) : List α → List (Segment α) → Prop where
  | nil : Divides recognise letter [] []
  | left {item : α} {rest : List α} {segments : List (Segment α)}
      (unread : recognise (letter item :: rest.map letter) = none) :
      Divides recognise letter rest segments →
        Divides recognise letter (item :: rest) (.left item :: segments)
  | mention {items rest : List α} {value : List Char} {segments : List (Segment α)} (some : items ≠ [])
      (reads : recognise (items.map letter ++ rest.map letter) = .some ⟨items.length, value⟩) :
      Divides recognise letter rest segments →
        Divides recognise letter (items ++ rest) (.mention items value :: segments)

/-- **Every text is divided into segments.** -/
theorem exists_divides (fits : recognise.Fits) (letter : α → Char) (items : List α) :
    ∃ segments, Divides recognise letter items segments := by
  induction sized : items.length using Nat.strongRecOn generalizing items with
  | _ size ih =>
      cases items with
      | nil => exact ⟨[], .nil⟩
      | cons item rest =>
          rw [List.length_cons] at sized
          cases reads : recognise ((item :: rest).map letter) with
          | none =>
              obtain ⟨segments, divides⟩ := ih rest.length (by omega) rest rfl
              exact ⟨_, .left reads divides⟩
          | some found =>
              obtain ⟨some, within⟩ := fits _ _ reads
              obtain ⟨front, back, split, taken⟩ :
                  ∃ front back, item :: rest = front ++ back ∧ front.length = found.length := by
                refine ⟨_, _, (List.take_append_drop found.length _).symm, ?_⟩
                rw [List.length_map] at within
                exact List.length_take_of_le within
              have shorter := congrArg List.length split
              rw [List.length_append, List.length_cons] at shorter
              obtain ⟨segments, divides⟩ := ih back.length (by omega) back rfl
              rw [split, List.map_append] at reads
              rw [split]
              refine ⟨.mention front found.value :: segments,
                .mention (List.ne_nil_of_length_pos (taken ▸ some)) ?_ divides⟩
              rw [reads, taken]

namespace Divides

variable {items : List α} {segments before after : List (Segment α)}

/-- The segments hold all items, in order. -/
theorem items_eq (divides : Divides recognise letter items segments) :
    segments.flatMap Segment.items = items := by
  induction divides with
  | nil => rfl
  | left _ _ ih => rw [List.flatMap_cons, ih, Segment.items, List.singleton_append]
  | mention _ _ _ ih => rw [List.flatMap_cons, ih, Segment.items]

/-- **What a pass returns is read off the segments.** -/
theorem cut_eq (divides : Divides recognise letter items segments) :
    cut recognise (items.map letter) =
      (segments.map (Segment.letter letter), segments.filterMap (Segment.cut? letter)) := by
  induction divides with
  | nil => rfl
  | left unread _ ih =>
      rw [List.map_cons, cut, cutFrom, unread]
      rw [cut] at ih
      simp only [ih, List.map_cons, Segment.letter, List.filterMap_cons, Segment.cut?]
  | @mention items rest value _ some reads _ ih =>
      have someLetters : items.map letter ≠ [] := by simpa using some
      rw [List.map_append, cut_of_mention someLetters (by rw [reads, List.length_map]), ih]
      simp only [List.map_cons, Segment.letter, List.filterMap_cons, Segment.cut?]

/-- From any segment on, the pass divides what comes then. -/
theorem of_append (divides : Divides recognise letter items (before ++ after)) :
    Divides recognise letter (after.flatMap Segment.items) after := by
  induction before generalizing items with
  | nil =>
      rw [List.nil_append] at divides
      rwa [divides.items_eq]
  | cons segment before ih =>
      cases divides with
      | left _ later => exact ih later
      | mention _ _ later => exact ih later

/-- An item is left where nothing is recognised. -/
theorem unread {item : α} (divides : Divides recognise letter items (before ++ .left item :: after)) :
    recognise (letter item :: (after.flatMap Segment.items).map letter) = none := by
  obtain ⟨items, divides⟩ : ∃ items, Divides recognise letter items (.left item :: after) :=
    ⟨_, divides.of_append⟩
  cases divides with
  | left unread later => rwa [later.items_eq]

/-- A stretch that was left is recognised nowhere. -/
theorem unread_stretch {stretch : List α} (divides : Divides recognise letter items segments)
    (some : stretch ≠ []) (within : stretch.map .left ++ after <:+ segments) :
    stretch ++ after.flatMap Segment.items <:+ items ∧
      recognise ((stretch ++ after.flatMap Segment.items).map letter) = none := by
  obtain ⟨before, rfl⟩ := within
  constructor
  · refine ⟨before.flatMap Segment.items, ?_⟩
    rw [← divides.items_eq, List.flatMap_append, Segment.flatMap_items_left]
  · cases stretch with
    | nil => exact absurd rfl some
    | cons item stretch =>
        have unread : recognise (letter item ::
            ((stretch.map Segment.left ++ after).flatMap Segment.items).map letter) = none :=
          divides.unread
        rwa [Segment.flatMap_items_left] at unread

/-- A mention is cut out where it is recognised. -/
theorem reads {value : List Char} {within : List α}
    (divides : Divides recognise letter items segments)
    (member : Segment.mention within value ∈ segments) :
    within ≠ [] ∧ ∃ rest : List α, recognise (within.map letter ++ rest.map letter) =
      some ⟨within.length, value⟩ := by
  obtain ⟨before, after, rfl⟩ := List.append_of_mem member
  obtain ⟨items, divides⟩ : ∃ items, Divides recognise letter items (.mention within value :: after) :=
    ⟨_, divides.of_append⟩
  cases divides with
  | mention some reads _ => exact ⟨some, _, reads⟩

end Divides

/-- A pass over a text divides it and returns what is read off the segments. -/
theorem exists_divides_cut (fits : recognise.Fits) (text : List Char) :
    ∃ segments, Divides recognise id text segments ∧
      cut recognise text =
        (segments.map (Segment.letter id), segments.filterMap (Segment.cut? id)) := by
  obtain ⟨segments, divides⟩ := exists_divides fits id text
  have cuts := divides.cut_eq
  rw [List.map_id] at cuts
  exact ⟨segments, divides, cuts⟩

/-- What is cut out of a text is a segment of it. -/
theorem exists_divides_of_mem_cut (fits : recognise.Fits) {text : List Char} {found : Cut}
    (member : found ∈ (cut recognise text).2) :
    ∃ segments, Divides recognise id text segments ∧ .mention found.span found.value ∈ segments := by
  obtain ⟨segments, divides, cuts⟩ := exists_divides_cut fits text
  rw [cuts] at member
  obtain ⟨segment, inside, isCut⟩ := List.mem_filterMap.mp member
  cases segment with
  | left => cases isCut
  | mention items value =>
      cases isCut
      rw [List.map_id]
      exact ⟨segments, divides, inside⟩

end NoteDialogue
