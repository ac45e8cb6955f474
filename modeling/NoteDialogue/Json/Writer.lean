import NoteDialogue.Json

/-!
# Writing JSON

The compact written form of a value: no blanks, members in their order.  In a string the quote, the
backslash and the control characters are escaped, the common ones by a letter and the others by four
hexadecimal digits; everything else is written as it is.
-/

set_option autoImplicit false

namespace NoteDialogue.Json

/-- Four hexadecimal digits. -/
def hexDigits4 (code : Nat) : List Char :=
  [code / 4096 % 16, code / 256 % 16, code / 16 % 16, code % 16].map Nat.digitChar

/-- A character inside a written string. -/
def escapeChar (c : Char) : List Char :=
  match c with
  | '"' => ['\\', '"']
  | '\\' => ['\\', '\\']
  | '\n' => ['\\', 'n']
  | '\r' => ['\\', 'r']
  | '\t' => ['\\', 't']
  | _ =>
      if c.toNat = 8 then ['\\', 'b']
      else if c.toNat = 12 then ['\\', 'f']
      else if c.toNat < 32 then ['\\', 'u'] ++ hexDigits4 c.toNat
      else [c]

/-- A written string. -/
def quote (text : String) : String :=
  "\"" ++ String.ofList (text.toList.flatMap escapeChar) ++ "\""

/-- The written form of a string; half of a surrogate pair is written as the replacement
character. -/
def renderText : JsonText → String
  | .plain content => quote content
  | .unpaired => quote (String.singleton (Char.ofNat 0xFFFD))

mutual

/-- The written form of a value. -/
def render : Json → String
  | .null => "null"
  | .bool true => "true"
  | .bool false => "false"
  | .number literal => literal.render
  | .text content => renderText content
  | .list items => "[" ++ String.intercalate "," (renderItems items) ++ "]"
  | .object members => "\x7b" ++ String.intercalate "," (renderMembers members) ++ "\x7d"

/-- The written forms of the items of a list. -/
def renderItems : List Json → List String
  | [] => []
  | item :: rest => render item :: renderItems rest

/-- The written forms of the members of an object. -/
def renderMembers : List (JsonText × Json) → List String
  | [] => []
  | (name, value) :: rest => (renderText name ++ ":" ++ render value) :: renderMembers rest

end

end NoteDialogue.Json
