import NoteDialogue.Text.Blank
import NoteDialogue.Text.Grapheme
import NoteDialogue.Text.LetterCase
import NoteDialogue.Text.Passage

/-!
# Queries

How the text of a search decides the way in which notes are searched.  A query that looks like a key,
that is very short or that stands in quotes as a whole is looked up literally; any other is compared by
meaning.  A query may also open with a filter, `/notebook` with the name of a notebook or `/title` with
a title, which restricts the notes and leaves the rest of the query as literal terms.
-/

set_option autoImplicit false

namespace NoteDialogue

/-- The ways of searching. -/
inductive SearchStrategy
  /-- By the words in title and body. -/
  | literal
  /-- By similarity of meaning. -/
  | semantic
  /-- By words, within a restriction. -/
  | filtered
  deriving DecidableEq, Repr, Inhabited

namespace SearchStrategy

/-- The written form. -/
def name : SearchStrategy → String
  | .literal => "literal"
  | .semantic => "semantic"
  | .filtered => "filtered"

/-- The strategy with this written form. -/
def ofName? (written : String) : Option SearchStrategy :=
  [SearchStrategy.literal, .semantic, .filtered].find? (fun strategy => strategy.name == written)

end SearchStrategy

/-- A restriction on the notes that are searched. -/
structure NoteFilter where
  notebook : Option String := none
  title : Option String := none
  deriving DecidableEq, Repr, Inhabited

namespace NoteFilter

/-- Without any restriction. -/
def isEmpty (filter : NoteFilter) : Bool :=
  filter.notebook.isNone && filter.title.isNone

/-- Both restrictions; where both name something the second one wins. -/
def mergedWith (first second : NoteFilter) : NoteFilter :=
  { notebook := second.notebook.or first.notebook, title := second.title.or first.title }

end NoteFilter

/-- A restriction that opens a query, and the terms after it. -/
structure FilteredQuery where
  filter : NoteFilter
  terms : String
  deriving DecidableEq, Repr, Inhabited

namespace Query

/-! ## Strategy -/

/-- The characters that mark a key. -/
def isKeyMark (c : Char) : Bool :=
  c = '/' || c = ':' || c = '='

/-- The fewest characters of a query that is compared by meaning. -/
def leastSemanticLength : Nat := 4

/-- The inside of a text that stands in double quotes as a whole. -/
def insideQuotes? (cs : List Char) : Option (List Char) :=
  match cs with
  | '"' :: rest => if rest.getLast? = some '"' then some rest.dropLast else none
  | _ => none

/-- The strategy for a query. -/
def strategy (query : String) : SearchStrategy :=
  let trimmed := Text.trimChars query.toList
  if trimmed.any isKeyMark ||
      Text.graphemeCount (String.ofList trimmed) < leastSemanticLength ||
      (insideQuotes? trimmed).isSome then
    .literal
  else .semantic

/-- The terms of a trimmed text, without the quotes around the whole. -/
def termsOfTrimmed (trimmed : List Char) : List Char :=
  match insideQuotes? trimmed with
  | some inside => Text.trimChars inside
  | none => trimmed

/-- The terms that a literal search looks for. -/
def literalTerms (query : String) : String :=
  String.ofList (termsOfTrimmed (Text.trimChars query.toList))

/-! ## Filters -/

/-- The text after a command, trimmed, if a trimmed query opens with the command as a whole word. -/
def afterCommand? (command query : List Char) : Option (List Char) :=
  match Text.afterOpening? command query with
  | some [] => some []
  | some (c :: rest) => if Text.isBlank c then some (Text.trimChars (c :: rest)) else none
  | none => none

/-- A name in quotes or up to the next blank, and the trimmed text after it. -/
def nameAndTerms? (text : List Char) : Option (List Char × List Char) :=
  match text with
  | '"' :: quoted =>
      match Text.splitAtChar? '"' quoted with
      | some (name, rest) =>
          let name := Text.trimChars name
          if name.isEmpty then none else some (name, Text.trimChars rest)
      | none => none
  | _ =>
      let name := text.takeWhile (fun c => !Text.isBlank c)
      if name.isEmpty then none else some (name, Text.trimChars (text.drop name.length))

/-- The restriction to a notebook that opens the rest of a query. -/
def notebookQuery? (rest : List Char) : Option FilteredQuery :=
  (nameAndTerms? rest).map (fun (name, terms) =>
    { filter := { notebook := some (String.ofList name) }, terms := String.ofList terms })

/-- The restriction to a title, which is all of the rest of a query. -/
def titleQuery? (rest : List Char) : Option FilteredQuery :=
  let title := termsOfTrimmed rest
  if title.isEmpty then none
  else some { filter := { title := some (String.ofList title) }, terms := "" }

/-- The restriction that opens a query. -/
def filtered? (query : String) : Option FilteredQuery :=
  let trimmed := Text.trimChars query.toList
  match afterCommand? "/notebook".toList trimmed with
  | some rest => notebookQuery? rest
  | none => (afterCommand? "/title".toList trimmed).bind titleQuery?

end Query

end NoteDialogue
