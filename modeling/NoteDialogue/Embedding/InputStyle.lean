import NoteDialogue.Config
import NoteDialogue.Text.Passage

/-!
# Marking texts for a model of embeddings

Some models tell a query from a stored passage.  They are told by words in front of the text or by a
field of the request; other models get the text as it is.
-/

set_option autoImplicit false

namespace NoteDialogue

/-- Whether a text is looked for or stored. -/
inductive EmbeddingPurpose
  | query
  | document
  deriving DecidableEq, Repr, Inhabited

/-- The written form. -/
def EmbeddingPurpose.name : EmbeddingPurpose → String
  | .query => "query"
  | .document => "document"

/-- How texts are marked. -/
inductive InputStyle
  /-- Not at all. -/
  | plain
  /-- By words in front. -/
  | marked (query document : String)
  /-- By a field of the request. -/
  | field
  deriving DecidableEq, Repr, Inhabited

namespace InputStyle

/-- The style that a model is trained with, as far as it can be told from its name. -/
def forModel (model : String) : InputStyle :=
  let written := Text.lowercase model
  if Text.contains written "nomic-embed" then .marked "search_query: " "search_document: "
  else if Text.contains written "e5-" then .marked "query: " "passage: "
  else .plain

/-- The words in front of texts for a model; a model that is trained without gets common ones. -/
def marksFor (model : String) : InputStyle :=
  match forModel model with
  | .plain => .marked "query: " "passage: "
  | style => style

/-- The style that a setting asks for, with the configured words in front. -/
def ofSetting? (setting model : String) (query document : Option String) : Option InputStyle :=
  let written := Text.lowercase (Text.trim setting)
  if written = "plain" || written = "none" then some .plain
  else if written = "input_type" then some .field
  else if written = "prefix" then
    if query.isNone && document.isNone then some (marksFor model)
    else some (.marked (query.getD "") (document.getD ""))
  else none

/-- The style for a configuration: configured words ask for marking, and a setting that says nothing
leaves it to the model. -/
def ofConfig (config : EmbeddingConfig) (model : String) : InputStyle :=
  let wordsGiven := config.queryPrefix.isSome || config.documentPrefix.isSome
  match config.inputStyle.or (if wordsGiven then some "prefix" else none) with
  | some setting =>
      (ofSetting? setting model config.queryPrefix config.documentPrefix).getD (forModel model)
  | none => forModel model

/-- The words in front of a text. -/
def mark (style : InputStyle) (purpose : EmbeddingPurpose) : String :=
  match style, purpose with
  | .marked query _, .query => query
  | .marked _ document, .document => document
  | .plain, _ | .field, _ => ""

/-- The field of the request. -/
def fieldValue? (style : InputStyle) (purpose : EmbeddingPurpose) : Option String :=
  match style with
  | .field => some purpose.name
  | .plain | .marked _ _ => none

end InputStyle

end NoteDialogue
