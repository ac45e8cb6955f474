import NoteDialogue.Json.Record

/-!
# Lenient reading of members

How a value is read that a person wrote by hand.  A member that is missing counts as `null`, a text that
is missing as empty, and a list that is missing as the empty list; members that nobody asks for are
passed over, and of two members with one name the first counts.
-/

set_option autoImplicit false

namespace NoteDialogue.Json

/-- The member with a name, `null` when there is none. -/
def member (json : Json) (name : String) : Json :=
  match json with
  | .object members => ((members.find? (fun entry => entry.1 == .plain name)).map (·.2)).getD .null
  | _ => .null

/-- The member with a name, unless it is `null`. -/
def given? (json : Json) (name : String) : Option Json :=
  match json.member name with
  | .null => none
  | value => some value

/-- The text of a value, empty for anything else. -/
def content (json : Json) : String :=
  json.text?.getD ""

/-- The items of a list, none for anything else. -/
def items : Json → List Json
  | .list all => all
  | _ => []

/-- The members of an object with their names. -/
def members : Json → List (String × Json)
  | .object all => all.filterMap (fun (name, value) =>
      match name with
      | .plain name => some (name, value)
      | .unpaired => none)
  | _ => []

/-- A number rounded to double and then to single precision, zero for anything else. -/
def narrowed : Json → Float32
  | .number literal => (literal.double?.map Numeral.narrow).getD 0
  | _ => 0

/-- The numbers of a list. -/
def vector (json : Json) : List Float32 :=
  json.items.map narrowed

/-- The text of a member. -/
def textAt (json : Json) (name : String) : String :=
  (json.member name).content

/-- The text of a member that may be missing. -/
def textAt? (json : Json) (name : String) : Option String :=
  (json.member name).text?

/-- The items of a member. -/
def itemsAt (json : Json) (name : String) : List Json :=
  (json.member name).items

/-- The texts in a member. -/
def textsAt (json : Json) (name : String) : List String :=
  (json.itemsAt name).map content

/-- The natural number of a member, or a default. -/
def natAt (json : Json) (name : String) (default : Nat) : Nat :=
  ((json.member name).word?).getD default

/-- The number of a member that may be missing. -/
def singleAt? (json : Json) (name : String) : Option Float32 :=
  (json.given? name).map narrowed

/-- Whether a member is `true`. -/
def isTrueAt (json : Json) (name : String) : Bool :=
  (json.member name).bool? == some true

end NoteDialogue.Json
