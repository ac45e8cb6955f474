import Mathlib.Data.List.Basic
import NoteDialogue.Proofs.Reference.Cut
import NoteDialogue.Proofs.Text.Trim

/-!
# The grammar of mentions

An utterance may be put together from parts with single spaces between them: filler words, tags with a title
in double quotes, tags with a bare token, and titles in double square brackets (`UtterancePart`).  When every
part is well-formed, reading the utterance gives the parts back (`MentionReading.ofText_parts`): one mention
for each part that is no filler word, those of each way of writing together and in the order of the text, and
the filler words as the rest of the utterance.

A title in quotes may hold anything but a quote, tags and brackets included.  The passes over the text find
the parts all the same, since each of them reads every part that is left on its own (`Reads`).
-/

set_option autoImplicit false

namespace NoteDialogue

open Text (EndsHere asciiLower)

/-! ## Utterances in parts -/

/-- A part of an utterance. -/
inductive UtterancePart
  | filler (word : String)
  /-- The tag, in some letter case, with a title in double quotes. -/
  | quoted (tag title : String)
  /-- The tag, in some letter case, with a bare token. -/
  | bare (tag token : String)
  | link (title : String)
  deriving DecidableEq, Repr

/-- Whether a text is the tag in some letter case. -/
def SpellsTag (text : String) : Prop :=
  text.toList.map asciiLower = referenceTag

/-- Whether a text holds the tag in some letter case. -/
def HoldsTag (text : String) : Prop :=
  referenceTag <:+: text.toList.map asciiLower

namespace UtterancePart

/-- The text of a part. -/
def text : UtterancePart → String
  | filler word => word
  | quoted tag title => tag ++ "\"" ++ title ++ "\""
  | bare tag token => tag ++ token
  | link title => "[[" ++ title ++ "]]"

/-- A filler word has no blanks, quotes or brackets and does not hold the tag; a title in quotes has no
quotes; a bare token has no blanks, quotes or brackets and does not end like a clause; a title in brackets has
neither brackets nor quotes and does not hold the tag; and no title is blank. -/
def WellFormed : UtterancePart → Prop
  | filler word => word ≠ "" ∧ (∀ c ∈ word.toList, isTokenChar c = true) ∧ ¬ HoldsTag word
  | quoted tag title => SpellsTag tag ∧ Text.isBlankText title = false ∧ '"' ∉ title.toList
  | bare tag token =>
      SpellsTag tag ∧ token ≠ "" ∧ (∀ c ∈ token.toList, isTokenChar c = true) ∧
        ∀ c ∈ token.toList.getLast?, isClauseMark c = false
  | link title =>
      Text.isBlankText title = false ∧ (∀ c ∈ title.toList, isBracket c = false) ∧
        '"' ∉ title.toList ∧ ¬ HoldsTag title

instance (text : String) : Decidable (SpellsTag text) :=
  inferInstanceAs (Decidable (_ = _))

instance (text : String) : Decidable (HoldsTag text) :=
  inferInstanceAs (Decidable (_ <:+: _))

/-- Whether a part is well-formed can be checked. -/
instance : (part : UtterancePart) → Decidable part.WellFormed
  | filler word =>
      -- What is asked of the characters of a text is checked along the text, not for all characters there are.
      have := List.decidableBAll (fun c => isTokenChar c = true) word.toList
      inferInstanceAs (Decidable (_ ∧ _ ∧ _))
  | quoted _ _ => inferInstanceAs (Decidable (_ ∧ _ ∧ _))
  | bare _ token =>
      have := List.decidableBAll (fun c => isTokenChar c = true) token.toList
      have : Decidable (∀ c ∈ token.toList.getLast?, isClauseMark c = false) :=
        Option.decidableForallMem _
      inferInstanceAs (Decidable (_ ∧ _ ∧ _ ∧ _))
  | link title =>
      have := List.decidableBAll (fun c => isBracket c = false) title.toList
      inferInstanceAs (Decidable (_ ∧ _ ∧ _ ∧ _))

/-- The mention that a part is, unless it is a filler word. -/
def mention? : UtterancePart → Option Mention
  | filler _ => none
  | quoted tag title => some ⟨.quotedTitle, Text.trim title, (quoted tag title).text⟩
  | bare tag token =>
      some ⟨if UniqueId.isWritten token.toList then .exactId else .freeText, token,
        (bare tag token).text⟩
  | link title => some ⟨.quotedTitle, Text.trim title, (link title).text⟩

/-- The word of a filler word. -/
def filler? : UtterancePart → Option String
  | filler word => some word
  | quoted _ _ | bare _ _ | link _ => none

def isQuoted : UtterancePart → Bool
  | quoted _ _ => true
  | filler _ | bare _ _ | link _ => false

def isBare : UtterancePart → Bool
  | bare _ _ => true
  | filler _ | quoted _ _ | link _ => false

def isLink : UtterancePart → Bool
  | link _ => true
  | filler _ | quoted _ _ | bare _ _ => false

end UtterancePart

/-! ## Spellings of the tag -/

theorem map_asciiLower_referenceTag : referenceTag.map asciiLower = referenceTag := rfl

theorem SpellsTag.length {tag : String} (spells : SpellsTag tag) :
    tag.toList.length = referenceTag.length := by
  rw [← spells, List.length_map]

/-- A text without some mark holds no opening with it. -/
theorem lacks_of_notMem (opening : List Char) {stretch : List Char} {mark : Char}
    (member : mark ∈ opening.map asciiLower) (noLetter : ¬ ('a' ≤ mark ∧ mark ≤ 'z'))
    (absent : mark ∉ stretch) : ¬ opening.map asciiLower <:+: stretch.map asciiLower := by
  intro holds
  obtain ⟨c, inside, same⟩ := List.mem_map.mp (holds.subset member)
  exact absent (Text.eq_of_asciiLower_eq same noLetter ▸ inside)

theorem visible_of_token {c : Char} (token : isTokenChar c = true) : Text.isBlank c = false := by
  simp only [isTokenChar, Bool.and_eq_true, Bool.not_eq_true'] at token
  exact token.1.1

theorem SpellsTag.notMem {tag : String} (spells : SpellsTag tag) {mark : Char}
    (plain : asciiLower mark ∉ referenceTag) : mark ∉ tag.toList := by
  intro inside
  exact plain (spells ▸ List.mem_map.mpr ⟨mark, inside, rfl⟩)

/-! ## What the recognisers read -/

section Recognisers

variable {opening closing spelled title rest : List Char} {excluded : Char → Bool}

theorem enclosed_eq_none {text : List Char} (lacks : Text.afterOpening? opening text = none) :
    enclosed opening closing excluded text = none := by
  rw [enclosed, lacks]

theorem bareTag_eq_none {text : List Char} (lacks : Text.afterOpening? referenceTag text = none) :
    bareTag text = none := by
  rw [bareTag, lacks]

/-- A title between a spelled opening and a closing is recognised. -/
theorem enclosed_of_spelled (same : spelled.map asciiLower = opening.map asciiLower)
    (inside : ∀ c ∈ title, excluded c = false) (closes : ∀ c ∈ (closing ++ rest).head?, excluded c = true)
    (visible : Text.trimChars title ≠ []) :
    enclosed opening closing excluded (spelled ++ (title ++ (closing ++ rest))) =
      some ⟨opening.length + title.length + closing.length, Text.trimChars title⟩ := by
  have opens : Text.afterOpening? opening (spelled ++ (title ++ (closing ++ rest))) =
      some (title ++ (closing ++ rest)) :=
    Text.afterOpening?_eq_some_iff.mpr ⟨spelled, rfl, same⟩
  have some : title ≠ [] := by
    rintro rfl
    exact visible rfl
  have body : (title ++ (closing ++ rest)).takeWhile (fun c => !excluded c) = title :=
    Text.takeWhile_append_of_stop (by simpa using inside) (by simpa using closes)
  have reaches : upTo excluded closing (title ++ (closing ++ rest)) = .some title := by
    unfold upTo
    simp [body, some]
  simp [enclosed, opens, reaches, visible]

/-- A token after a spelled tag is recognised. -/
theorem bareTag_of_spelled {tag token : List Char} (same : tag.map asciiLower = referenceTag)
    (some : token ≠ []) (inside : ∀ c ∈ token, isTokenChar c = true)
    (last : ∀ c ∈ token.getLast?, isClauseMark c = false) (ends : EndsHere rest) :
    bareTag (tag ++ (token ++ rest)) = .some ⟨referenceTag.length + token.length, token⟩ := by
  have opens : Text.afterOpening? referenceTag (tag ++ (token ++ rest)) = .some (token ++ rest) :=
    Text.afterOpening?_eq_some_iff.mpr ⟨tag, rfl, same⟩
  have stop : ∀ c ∈ rest.head?, isTokenChar c = false := by
    rcases ends with rfl | ⟨later, rfl⟩
    · exact nofun
    · rintro c first
      cases first
      rfl
  simp [bareTag, opens, Text.takeWhile_append_of_stop inside stop, Text.dropTrailing_eq_self last, some]

end Recognisers

/-! ## The three passes over a part -/

namespace UtterancePart

/-- What the first pass cuts out of a part. -/
def quotedCut? : UtterancePart → Option Cut
  | quoted tag title => some ⟨(quoted tag title).text.toList, Text.trimChars title.toList⟩
  | filler _ | bare _ _ | link _ => none

/-- What the first pass leaves of a part. -/
def afterQuoted : UtterancePart → List Char
  | quoted _ _ => [' ']
  | filler word => word.toList
  | bare tag token => (bare tag token).text.toList
  | link title => (link title).text.toList

/-- What the second pass cuts out of a part. -/
def bareCut? : UtterancePart → Option Cut
  | bare tag token => some ⟨(bare tag token).text.toList, token.toList⟩
  | filler _ | quoted _ _ | link _ => none

/-- What the second pass leaves of a part. -/
def afterBare : UtterancePart → List Char
  | quoted _ _ | bare _ _ => [' ']
  | filler word => word.toList
  | link title => (link title).text.toList

/-- What the third pass cuts out of a part. -/
def linkCut? : UtterancePart → Option Cut
  | link title => some ⟨(link title).text.toList, Text.trimChars title.toList⟩
  | filler _ | quoted _ _ | bare _ _ => none

/-- What the third pass leaves of a part. -/
def afterLinks : UtterancePart → List Char
  | quoted _ _ | bare _ _ | link _ => [' ']
  | filler word => word.toList

variable {part : UtterancePart}

theorem toList_quoted (tag title : String) :
    (quoted tag title).text.toList = (tag.toList ++ ['"']) ++ (title.toList ++ ['"']) := by
  simp [text]

theorem toList_bare (tag token : String) :
    (bare tag token).text.toList = tag.toList ++ token.toList :=
  String.toList_append

theorem toList_link (title : String) :
    (link title).text.toList = ['[', '['] ++ (title.toList ++ [']', ']']) := by
  simp [text]

theorem quote_notMem_of_token {word : String} (inside : ∀ c ∈ word.toList, isTokenChar c = true) :
    '"' ∉ word.toList := by
  intro quote
  cases inside _ quote

/-- Only a title in quotes has quotes around it. -/
theorem quote_notMem (wellFormed : part.WellFormed) (notQuoted : part.isQuoted = false) :
    '"' ∉ part.text.toList := by
  cases part with
  | filler word => exact quote_notMem_of_token wellFormed.2.1
  | quoted => cases notQuoted
  | bare tag token =>
      obtain ⟨spells, -, inside, -⟩ := wellFormed
      have noTag : '"' ∉ tag.toList := spells.notMem (by decide)
      simp [text, noTag, quote_notMem_of_token inside]
  | link title =>
      obtain ⟨-, -, unquoted, -⟩ := wellFormed
      simp [text, unquoted]

/-- **The first pass** reads tags with titles in quotes. -/
theorem reads_quotedTag (wellFormed : part.WellFormed) :
    Reads quotedTag part.text.toList part.quotedCut? part.afterQuoted := by
  have unread (notQuoted : part.isQuoted = false) :
      Reads quotedTag part.text.toList none part.text.toList := by
    have inside : '"' ∈ (referenceTag ++ ['"']).map asciiLower := by decide
    have lacks := lacks_of_notMem _ inside (by decide) (quote_notMem wellFormed notQuoted)
    exact .unread fun rest ends suffix _ within =>
      enclosed_eq_none (Text.afterOpening?_eq_none lacks (by decide) within ends)
  cases part with
  | filler | bare | link => exact unread rfl
  | quoted tag title =>
      obtain ⟨spells, visible, unquoted⟩ := wellFormed
      have same : (tag.toList ++ ['"']).map asciiLower = (referenceTag ++ ['"']).map asciiLower := by
        rw [List.map_append, List.map_append, spells, map_asciiLower_referenceTag]
      have inside : ∀ c ∈ title.toList, decide (c = '"') = false := by
        intro c member
        exact decide_eq_false fun quote => unquoted (quote ▸ member)
      simp only [quotedCut?, afterQuoted, toList_quoted]
      refine .mention (by simp) fun rest _ => ?_
      have recognised := @enclosed_of_spelled (referenceTag ++ ['"']) ['"'] (tag.toList ++ ['"'])
        title.toList rest (· = '"') same inside (by simp) (Text.trimChars_ne_nil visible)
      rw [List.append_assoc, List.append_assoc title.toList, quotedTag, recognised]
      simp only [List.length_append, spells.length, Nat.add_assoc]

theorem reads_of_lacks {stretch : List Char}
    (lacks : ¬ referenceTag <:+: stretch.map asciiLower) : Reads bareTag stretch none stretch :=
  .unread fun _ ends _ _ within =>
    bareTag_eq_none (Text.afterOpening?_eq_none (map_asciiLower_referenceTag.symm ▸ lacks) (by decide)
      within ends)

/-- A link holds the tag only inside its title. -/
theorem lacks_link {title : String} (lacks : ¬ HoldsTag title) :
    ¬ referenceTag <:+: (link title).text.toList.map asciiLower := by
  have shown : (link title).text.toList.map asciiLower =
      [] ++ '[' :: ([] ++ '[' :: (title.toList.map asciiLower ++ ']' :: ([] ++ ']' :: []))) := by
    simp [text]
    decide
  have beyond : ∀ {before after : List Char} {mark : Char}, mark ∉ referenceTag →
      ¬ referenceTag <:+: before → ¬ referenceTag <:+: after →
      ¬ referenceTag <:+: before ++ mark :: after := by
    intro before after mark absent notBefore notAfter holds
    rcases Text.infix_of_infix_append_cons absent holds with early | late
    · exact notBefore early
    · exact notAfter late
  rw [shown]
  exact beyond (by decide) (by decide) (beyond (by decide) (by decide)
    (beyond (by decide) lacks (beyond (by decide) (by decide) (by decide))))

/-- **The second pass** reads tags with bare tokens. -/
theorem reads_bareTag (wellFormed : part.WellFormed) :
    Reads bareTag part.afterQuoted part.bareCut? part.afterBare := by
  cases part with
  | filler word => exact reads_of_lacks wellFormed.2.2
  | quoted => exact reads_space fun _ => rfl
  | link title => exact reads_of_lacks (lacks_link wellFormed.2.2.2)
  | bare tag token =>
      obtain ⟨spells, some, inside, last⟩ := wellFormed
      have someToken : token.toList ≠ [] := by simpa using some
      simp only [bareCut?, afterQuoted, afterBare, toList_bare]
      refine .mention (by simp [someToken]) fun rest ends => ?_
      rw [List.append_assoc, bareTag_of_spelled spells someToken inside last ends, List.length_append,
        spells.length]

/-- **The third pass** reads titles in brackets. -/
theorem reads_wikiLink (wellFormed : part.WellFormed) :
    Reads wikiLink part.afterBare part.linkCut? part.afterLinks := by
  cases part with
  | filler word =>
      have absent : '[' ∉ word.toList := by
        intro bracket
        cases wellFormed.2.1 _ bracket
      have inside : '[' ∈ ['[', '['].map asciiLower := by decide
      have lacks := lacks_of_notMem _ inside (by decide) absent
      exact .unread fun rest ends suffix _ within =>
        enclosed_eq_none (Text.afterOpening?_eq_none lacks (by decide) within ends)
  | quoted | bare => exact reads_space fun _ => rfl
  | link title =>
      obtain ⟨visible, unbracketed, -, -⟩ := wellFormed
      simp only [linkCut?, afterBare, afterLinks, toList_link]
      refine .mention (by simp) fun rest _ => ?_
      have recognised := @enclosed_of_spelled ['[', '['] [']', ']'] ['[', '['] title.toList rest
        isBracket rfl unbracketed (by simp; decide) (Text.trimChars_ne_nil visible)
      rw [List.append_assoc, List.append_assoc, wikiLink, recognised]
      simp only [List.length_append, Nat.add_assoc]

/-! ## The whole utterance -/

/-- What is left of a part in the end holds its word, if it is a filler word. -/
theorem wordsOfChars_afterLinks (wellFormed : part.WellFormed) :
    (Text.wordsOfChars part.afterLinks).map String.ofList = part.filler?.toList := by
  cases part with
  | quoted | bare | link => rfl
  | filler word =>
      obtain ⟨some, inside, -⟩ := wellFormed
      have isWord : Text.IsWord word.toList := by
        exact ⟨by simpa using some, fun c member => visible_of_token (inside c member)⟩
      simp [afterLinks, filler?, isWord.wordsOfChars_eq]

theorem quotedCut?_eq (part : UtterancePart) :
    part.quotedCut?.map Mention.ofTitleCut = if part.isQuoted then part.mention? else none := by
  cases part with
  | quoted => simp [quotedCut?, Mention.ofTitleCut, mention?, isQuoted, Text.trim]
  | filler | bare | link => rfl

theorem bareCut?_eq (part : UtterancePart) :
    part.bareCut?.map Mention.ofTokenCut = if part.isBare then part.mention? else none := by
  cases part with
  | bare => simp [bareCut?, Mention.ofTokenCut, mention?, isBare]
  | filler | quoted | link => rfl

theorem linkCut?_eq (part : UtterancePart) :
    part.linkCut?.map Mention.ofTitleCut = if part.isLink then part.mention? else none := by
  cases part with
  | link => simp [linkCut?, Mention.ofTitleCut, mention?, isLink, Text.trim]
  | filler | quoted | bare => rfl

/-- The mentions of the parts of one kind, given what is cut out of each. -/
theorem map_cuts {cut? : UtterancePart → Option Cut} {made : Cut → Mention}
    {kind : UtterancePart → Bool}
    (same : ∀ part, (cut? part).map made = if kind part then part.mention? else none)
    (parts : List UtterancePart) :
    (parts.filterMap cut?).map made = (parts.filter kind).filterMap mention? := by
  rw [List.map_filterMap, List.filterMap_filter]
  exact List.filterMap_congr fun part _ => same part

end UtterancePart

open UtterancePart

/-- **Reading an utterance gives back its parts.**  There is one mention for each part that is no filler
word: first the tags with titles in quotes, then those with bare tokens, then the titles in brackets, each of
them in the order of the text and with the text of its part as its span.  The rest of the utterance is its
filler words. -/
theorem MentionReading.ofText_parts {parts : List UtterancePart}
    (wellFormed : ∀ part ∈ parts, part.WellFormed) :
    MentionReading.ofText (String.intercalate " " (parts.map text)) =
      { mentions :=
          (parts.filter isQuoted ++ parts.filter isBare ++ parts.filter isLink).filterMap mention?
        cleanText := String.intercalate " " (parts.filterMap filler?) } := by
  have chars : (String.intercalate " " (parts.map text)).toList =
      [' '].intercalate (parts.map fun part => part.text.toList) := by
    rw [String.toList_intercalate, List.map_map]
    rfl
  have first := cut_intercalate (fun _ => rfl) parts fun part member =>
    reads_quotedTag (wellFormed part member)
  have second := cut_intercalate (fun _ => rfl) parts fun part member =>
    reads_bareTag (wellFormed part member)
  have third := cut_intercalate (fun _ => rfl) parts fun part member =>
    reads_wikiLink (wellFormed part member)
  have words : (Text.wordsOfChars ([' '].intercalate (parts.map afterLinks))).map String.ofList =
      parts.filterMap filler? := by
    rw [Text.wordsOfChars_intercalate, List.flatMap_map, List.map_flatMap, List.filterMap_eq_flatMap_toList]
    exact List.flatMap_congr fun part member => wordsOfChars_afterLinks (wellFormed part member)
  rw [MentionReading.ofText, MentionReading.ofChars, chars, first]
  simp only [second, third, words, List.filterMap_append, map_cuts quotedCut?_eq,
    map_cuts bareCut?_eq, map_cuts linkCut?_eq]

/-- A part of each kind, with tags and brackets inside the title in quotes. -/
def UtterancePart.oneOfEach : List UtterancePart :=
  [.link " e ", .filler "see", .bare "@NOTE:" "d", .quoted "@Note:" "a [[b]] @note:c"]

/-- The mentions of the three kinds come in the order of the passes. -/
theorem MentionReading.ofText_parts_of_each :
    String.intercalate " " (oneOfEach.map text) =
        "[[ e ]] see @NOTE:d @Note:\"a [[b]] @note:c\"" ∧
      (∀ part ∈ oneOfEach, part.WellFormed) ∧
      MentionReading.ofText (String.intercalate " " (oneOfEach.map text)) =
        { mentions :=
            [⟨.quotedTitle, "a [[b]] @note:c", "@Note:\"a [[b]] @note:c\""⟩,
              ⟨.freeText, "d", "@NOTE:d"⟩, ⟨.quotedTitle, "e", "[[ e ]]"⟩]
          cleanText := "see" } := by
  have wellFormed : ∀ part ∈ oneOfEach, part.WellFormed := by decide +kernel
  refine ⟨by decide +kernel, wellFormed, ?_⟩
  rw [MentionReading.ofText_parts wellFormed]
  decide +kernel

end NoteDialogue
