import NoteDialogue.Json

/-!
# Records in JSON

How typed values are read from JSON.  A record is written as an object whose members carry the names
of its fields, in any order and with other members in between, which are ignored; a field given twice
is an error.  A record may also be written as a list of its fields in order, of which only fields
with a default may be left out at the end.  A name without data is written as a string, or as an
object whose one member has that name and the value `null`.

Values that are kept as they are may nest only so deep.
-/

set_option autoImplicit false

namespace NoteDialogue.Json

/-- A field of a record: the names it may have, and whether the list form may leave it out. -/
structure Field where
  names : List String
  defaulted : Bool := false
  deriving Repr

/-- A field with one name that the list form may not leave out. -/
def Field.plain (name : String) : Field := { names := [name] }

/-- A field with one name that has a default. -/
def Field.withDefault (name : String) : Field := { names := [name], defaulted := true }

/-- The values of the members that carry one of the names. -/
def membersNamed (names : List String) (members : List (JsonText × Json)) : List Json :=
  members.filterMap (fun (name, value) =>
    match name with
    | .plain name => if names.contains name then some value else none
    | .unpaired => none)

/-- Every name is a text. -/
def namesAreTexts (members : List (JsonText × Json)) : Bool :=
  members.all (fun (name, _) => name != .unpaired)

/-- The value of a field in an object: absent, given once, or an error. -/
def fieldOfMembers? (members : List (JsonText × Json)) (field : Field) : Option (Option Json) :=
  match membersNamed field.names members with
  | [] => some none
  | [value] => some (some value)
  | _ :: _ :: _ => none

/-- The values of fields given in order. -/
def fieldsOfItems? : List Field → List Json → Option (List (Option Json))
  | [], [] => some []
  | [], _ :: _ => none
  | _ :: fields, item :: items => (fieldsOfItems? fields items).map (some item :: ·)
  | field :: fields, [] =>
      if field.defaulted then (fieldsOfItems? fields []).map (none :: ·) else none

/-- The values of the fields of a record, absent ones as `none`. -/
def record? (fields : List Field) (json : Json) : Option (List (Option Json)) :=
  match json with
  | .object members =>
      if namesAreTexts members then fields.mapM (fieldOfMembers? members) else none
  | .list items => fieldsOfItems? fields items
  | _ => none

/-! ## Field values -/

/-- A text. -/
def text? : Json → Option String
  | .text (.plain content) => some content
  | _ => none

/-- A truth value. -/
def bool? : Json → Option Bool
  | .bool value => some value
  | _ => none

/-- A natural number of sixty-four bits. -/
def word? : Json → Option Nat
  | .number literal => literal.word?
  | _ => none

/-- A number in single precision. -/
def single? : Json → Option Float32
  | .number literal => literal.single?
  | _ => none

/-- A list with the given kind of items. -/
def listOf? {α : Type} (item? : Json → Option α) : Json → Option (List α)
  | .list items => items.mapM item?
  | _ => none

/-- A field that must be given. -/
def required {α : Type} (value? : Json → Option α) : Option Json → Option α
  | some json => value? json
  | none => none

/-- A field that may be absent or `null`. -/
def possible {α : Type} (value? : Json → Option α) : Option Json → Option (Option α)
  | none => some none
  | some .null => some none
  | some json => (value? json).map some

/-- A field with a default. -/
def orDefault {α : Type} (default : α) (value? : Json → Option α) : Option Json → Option α
  | none => some default
  | some json => value? json

/-- A name without data. -/
def nameOf? {α : Type} (ofName? : String → Option α) : Json → Option α
  | .text (.plain name) => ofName? name
  | .object [(.plain name, .null)] => ofName? name
  | _ => none

/-! ## Values kept as they are -/

mutual

/-- How deep lists and objects nest. -/
def depth : Json → Nat
  | .list items => 1 + depthOfItems items
  | .object members => 1 + depthOfMembers members
  | _ => 0

/-- The greatest depth of the items. -/
def depthOfItems : List Json → Nat
  | [] => 0
  | item :: rest => max (depth item) (depthOfItems rest)

/-- The greatest depth of the member values. -/
def depthOfMembers : List (JsonText × Json) → Nat
  | [] => 0
  | (_, value) :: rest => max (depth value) (depthOfMembers rest)

end

mutual

/-- Every number is in range and every string is a text. -/
def isSound : Json → Bool
  | .number literal => literal.inRange
  | .text content => content != .unpaired
  | .list items => areSound items
  | .object members => membersAreSound members
  | _ => true

/-- Every item is sound. -/
def areSound : List Json → Bool
  | [] => true
  | item :: rest => isSound item && areSound rest

/-- Every member has a text for its name and a sound value. -/
def membersAreSound : List (JsonText × Json) → Bool
  | [] => true
  | (name, value) :: rest => name != .unpaired && isSound value && membersAreSound rest

end

/-- The lists and objects that may be open at once while a value is read. -/
def maxOpen : Nat := 127

/-- A value that is kept as it is, inside a number of open lists and objects. -/
def kept? (openAround : Nat) (json : Json) : Option Json :=
  if openAround + depth json ≤ maxOpen && isSound json then some json else none

end NoteDialogue.Json
