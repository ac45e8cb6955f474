import NoteDialogue.Note
import NoteDialogue.Text.Alphabetic
import NoteDialogue.Text.Blank
import NoteDialogue.Text.LetterCase

/-!
# Ambiguous results

When a search finds several notes, it may be unclear which one the user means.  A result is ambiguous
when two of its titles are nearly the same, or when the keywords of the query do not single out one
title.  Small results never are.

Titles are compared as sets of words in lower case, without digits and punctuation.  How much two of
them share is kept as a ratio of counts, so that the comparison with the threshold is exact.
-/

set_option autoImplicit false

namespace NoteDialogue

/-- Why a result is ambiguous. -/
inductive AmbiguityReason
  | nearDuplicateTitles
  | genericTitles
  deriving DecidableEq, Repr, Inhabited

namespace AmbiguityReason

/-- The written form. -/
def name : AmbiguityReason → String
  | .nearDuplicateTitles => "near_duplicate_titles"
  | .genericTitles => "generic_titles"

/-- The reason with this written form. -/
def ofName? (written : String) : Option AmbiguityReason :=
  [AmbiguityReason.nearDuplicateTitles, .genericTitles].find? (fun reason => reason.name == written)

end AmbiguityReason

/-! ## Titles as words -/

/-- The words of a title in lower case: its longest stretches of letters, of two letters or more. -/
def titleWords (title : String) : List (List Char) :=
  (Text.stretchesWithout (fun c => !Text.isAlphabetic c) (Text.lowerChars title.toList)).filter
    (fun word => 1 < word.length)

/-- How much two titles share: common words out of all words of both. -/
structure TitleOverlap where
  shared : Nat
  total : Nat
  deriving DecidableEq, Repr

/-- The overlap of two titles.  Titles without words are the same for this purpose. -/
def titleOverlap (left right : String) : TitleOverlap :=
  let leftWords := (titleWords left).eraseDups
  let rightWords := (titleWords right).eraseDups
  if leftWords.isEmpty && rightWords.isEmpty then ⟨1, 1⟩
  else
    ⟨leftWords.countP rightWords.contains,
      leftWords.length + rightWords.countP (fun word => !leftWords.contains word)⟩

namespace TitleOverlap

/-- The overlap as a fraction in double precision. -/
def score (overlap : TitleOverlap) : Float :=
  Float.ofNat overlap.shared / Float.ofNat overlap.total

/-- Three fifths of all words or more are common. -/
def isNearDuplicate (overlap : TitleOverlap) : Bool :=
  3 * overlap.total ≤ 5 * overlap.shared

end TitleOverlap

/-- Whether two titles are nearly the same. -/
def nearDuplicates (left right : String) : Bool :=
  (titleOverlap left right).isNearDuplicate

/-- Whether some two titles of a list are nearly the same. -/
def anyNearDuplicates : List String → Bool
  | [] => false
  | title :: rest => rest.any (nearDuplicates title) || anyNearDuplicates rest

/-! ## Keywords -/

/-- Words that say nothing about which note is meant. -/
def stopwords : List String :=
  ["the", "and", "for", "are", "was", "what", "which", "who", "how", "when", "where", "why",
    "did", "does", "about", "with", "from", "that", "this", "these", "those", "have", "has",
    "had", "you", "your", "my", "mine", "our", "all", "any", "can", "could", "would", "should",
    "tell", "show", "give", "write", "wrote", "written", "note", "notes", "there", "their",
    "into", "over", "is", "me", "in", "on", "of", "to", "it", "an", "or", "do", "i"]

/-- The keywords of a query: its words of three letters or more that are no stopwords. -/
def queryKeywords (query : String) : List (List Char) :=
  (titleWords query).filter (fun word =>
    2 < word.length && !stopwords.contains (String.ofList word))

/-- The bytes that a word takes. -/
def byteLength (word : List Char) : Nat :=
  word.foldr (fun c total => c.utf8Size + total) 0

/-- A keyword matches a word that it equals, or when one of the two opens the other and the shorter
takes three bytes or more; this covers plurals and verb forms. -/
def keywordMatches (keyword word : List Char) : Bool :=
  keyword == word ||
    (3 ≤ min (byteLength keyword) (byteLength word) &&
      (word.isPrefixOf keyword || keyword.isPrefixOf word))

/-- How many keywords match a word of the title. -/
def titleScore (keywords : List (List Char)) (title : String) : Nat :=
  keywords.countP (fun keyword => (titleWords title).any (keywordMatches keyword))

/-- The largest of some numbers. -/
def largest (numbers : List Nat) : Nat :=
  numbers.foldl max 0

/-- Whether the largest number occurs more than once. -/
def isTopTied (scores : List Nat) : Bool :=
  2 ≤ scores.count (largest scores)

/-! ## The verdict -/

/-- Why a result is ambiguous, if it is.  A result with fewer titles than the threshold is not, and
neither is one of a single title. -/
def ambiguityOfTitles (query : String) (titles : List String) (threshold : Nat) :
    Option AmbiguityReason :=
  if titles.length < max threshold 2 then none
  else if anyNearDuplicates titles then some .nearDuplicateTitles
  else
    let keywords := queryKeywords query
    if keywords.isEmpty then some .genericTitles
    else if isTopTied (titles.map (titleScore keywords)) then some .genericTitles
    else none

/-- Why a list of found notes is ambiguous, if it is. -/
def ambiguity (query : String) (documents : List Document) (threshold : Nat) :
    Option AmbiguityReason :=
  ambiguityOfTitles query (documents.map (·.title)) threshold

end NoteDialogue
