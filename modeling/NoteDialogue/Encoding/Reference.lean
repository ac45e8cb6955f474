import NoteDialogue.Encoding.Name
import NoteDialogue.Reference

/-!
# References in JSON
-/

set_option autoImplicit false

namespace NoteDialogue

namespace Mention

/-- A mention from its JSON form. -/
def ofJson? (json : Json) : Option Mention :=
  match Json.record? [.plain "kind", .plain "value", .plain "matched_span"] json with
  | some [kind, value, span] => do
      let kind ← Json.required ReferenceKind.ofJson? kind
      let value ← Json.required Json.text? value
      let span ← Json.required Json.text? span
      some { kind, value, span }
  | _ => none

/-- The JSON form of a mention. -/
def toJson (mention : Mention) : Json :=
  .ofMembers [("kind", .str mention.kind.name), ("value", .str mention.value),
    ("matched_span", .str mention.span)]

end Mention

namespace ResolvedReference

/-- The fields of a resolved reference. -/
def fields : List Json.Field :=
  [.plain "noteId", .plain "title", .plain "plainContent", .plain "found", .plain "errorReason",
    .plain "requested"]

/-- A resolved reference from its JSON form. -/
def ofJson? (json : Json) : Option ResolvedReference :=
  match Json.record? fields json with
  | some [noteId, title, plainContent, found, errorReason, requested] => do
      let noteId ← Json.possible Json.text? noteId
      let title ← Json.required Json.text? title
      let plainContent ← Json.required Json.text? plainContent
      let found ← Json.required Json.bool? found
      let errorReason ← Json.possible Json.text? errorReason
      let requested ← Json.required Json.text? requested
      some { noteId, title, plainContent, found, errorReason, requested }
  | _ => none

/-- The JSON form of a resolved reference. -/
def toJson (reference : ResolvedReference) : Json :=
  .ofMembers [("noteId", .optional .str reference.noteId), ("title", .str reference.title),
    ("plainContent", .str reference.plainContent), ("found", .bool reference.found),
    ("errorReason", .optional .str reference.errorReason),
    ("requested", .str reference.requested)]

end ResolvedReference

end NoteDialogue
