import NoteDialogue.Encoding.Note

/-!
# Sessions in JSON

A session is kept with the times at which it was made and last changed.  A focus carries a tag that
says what it is: in an object the tag is the member `kind`, in a list it is the first item.  The tag may
stand anywhere in an object, so that the rest is held back until it is known; what is held back may
nest only so deep.
-/

set_option autoImplicit false

namespace NoteDialogue

namespace ModeSelection

/-- A selection from its JSON form.  The two parts are taken as they are given. -/
def ofJson? (json : Json) : Option ModeSelection :=
  match Json.record? [.plain "mode", .plain "style_key"] json with
  | some [mode, styleKey] => do
      let mode ← Json.required ChatMode.ofJson? mode
      let styleKey ← Json.possible Json.text? styleKey
      some { mode, styleKey }
  | _ => none

/-- The JSON form of a selection. -/
def toJson (selection : ModeSelection) : Json :=
  .ofMembers [("mode", .str selection.mode.name),
    ("style_key", .optional .str selection.styleKey)]

end ModeSelection

namespace NoteFilter

/-- A restriction from its JSON form. -/
def ofJson? (json : Json) : Option NoteFilter :=
  match Json.record? [.plain "notebook", .plain "title"] json with
  | some [notebook, title] => do
      let notebook ← Json.possible Json.text? notebook
      let title ← Json.possible Json.text? title
      some { notebook, title }
  | _ => none

/-- The JSON form of a restriction. -/
def toJson (filter : NoteFilter) : Json :=
  .ofMembers [("notebook", .optional .str filter.notebook),
    ("title", .optional .str filter.title)]

end NoteFilter

namespace Focus

/-- The member that carries the tag of a focus. -/
def tagName : String := "kind"

/-- A value with its tag taken off, inside a number of open lists and objects. -/
def untag? (openAround : Nat) (json : Json) : Option (String × Json) :=
  match json with
  | .object members =>
      let rest := members.filter (fun member => member.1 != .plain tagName)
      match Json.membersNamed [tagName] members with
      | [tag] => do
          let tag ← tag.text?
          let held ← (Json.object rest).kept? openAround
          some (tag, held)
      | _ => none
  | .list (tag :: items) => do
      let tag ← tag.text?
      let held ← (Json.list items).kept? openAround
      some (tag, held)
  | _ => none

/-- Whether a value holds no more than a tag; in an object other members do not count. -/
def isBareTag : Json → Bool
  | .object _ => true
  | .list items => items.isEmpty
  | _ => false

/-- A focus from its JSON form, inside a number of open lists and objects. -/
def ofJson? (openAround : Nat) (json : Json) : Option Focus := do
  let (tag, content) ← untag? openAround json
  if tag = "note" then (Document.ofJson? content).map Focus.note
  else if tag = "aggregated" && isBareTag content then some .aggregated
  else none

/-- The JSON form of a focus. -/
def toJson : Focus → Json
  | .note document => .ofMembers ((tagName, .str "note") :: document.members)
  | .aggregated => .ofMembers [(tagName, .str "aggregated")]

end Focus

/-- A session as it is kept. -/
structure SavedSession where
  session : Session
  createdAt : Timestamp
  updatedAt : Timestamp
  deriving Inhabited

namespace SavedSession

/-- The fields of a session. -/
def fields : List Json.Field :=
  [.plain "id", .plain "user_id", .plain "state", .plain "candidates", .plain "focused",
    .plain "sticky_mode", .plain "last_query", .plain "created_at", .plain "updated_at"]

/-- A session from its JSON form. -/
def ofJson? (json : Json) : Option SavedSession :=
  match Json.record? fields json with
  | some [id, userId, state, candidates, focus, stickyMode, lastQuery, createdAt, updatedAt] => do
      let id ← Json.required Json.text? id
      let userId ← Json.required Json.text? userId
      let state ← Json.required SessionState.ofJson? state
      let candidates ← Json.required (Json.listOf? Document.ofJson?) candidates
      let focus ← Json.possible (Focus.ofJson? 1) focus
      let stickyMode ← Json.possible ModeSelection.ofJson? stickyMode
      let lastQuery ← Json.possible Json.text? lastQuery
      let createdAt ← Json.required Timestamp.ofJson? createdAt
      let updatedAt ← Json.required Timestamp.ofJson? updatedAt
      some { session := { id, userId, state, candidates, focus, stickyMode, lastQuery },
             createdAt, updatedAt }
  | _ => none

/-- The JSON form of a session. -/
def toJson (saved : SavedSession) : Json :=
  .ofMembers [("id", .str saved.session.id), ("user_id", .str saved.session.userId),
    ("state", .str saved.session.state.name),
    ("candidates", .list (saved.session.candidates.map Document.toJson)),
    ("focused", .optional Focus.toJson saved.session.focus),
    ("sticky_mode", .optional ModeSelection.toJson saved.session.stickyMode),
    ("last_query", .optional .str saved.session.lastQuery),
    ("created_at", saved.createdAt.toJson), ("updated_at", saved.updatedAt.toJson)]

end SavedSession

end NoteDialogue
