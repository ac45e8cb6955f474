import NoteDialogue.Json.Writer
import NoteDialogue.Network.Exchange
import NoteDialogue.Numeral.Written
import NoteDialogue.Text.Blank
import NoteDialogue.Text.Passage
import NoteDialogue.Text.RangeTable
import NoteDialogue.UniqueId

/-!
# Requests and replies on the wire

A request is written as a message of HTTP/1.1 that closes the connection after the reply.  A reply is
everything that came until then: a line with the status, headers up to an empty line, and the body, which
may be cut into chunks of announced sizes.  Bytes that are no such reply count as no answer.
-/

set_option autoImplicit false

namespace NoteDialogue

/-! ## Addresses -/

/-- Where a request goes: a host, the number of a service on it, and a path. -/
structure Address where
  host : String
  number : Nat
  path : String
  deriving DecidableEq, Repr, Inhabited

namespace Address

/-- The number of a service for which none is given. -/
def defaultNumber : Nat := 80

/-- A host and a number from their written form; a host in brackets may hold colons. -/
def hostAndNumber? (written : List Char) : Option (String × Nat) :=
  let withNumber (host rest : List Char) : Option (String × Nat) :=
    match rest with
    | [] => some (String.ofList host, defaultNumber)
    | ':' :: digits =>
        (Numeral.natural? 65535 (String.ofList digits)).map (fun number =>
          (String.ofList host, number))
    | _ => none
  match written with
  | '[' :: rest =>
      match Text.splitAtChar? ']' rest with
      | some (host, rest) => withNumber host rest
      | none => none
  | _ => withNumber (written.takeWhile (· ≠ ':')) (written.dropWhile (· ≠ ':'))

/-- The address of a service without encryption. -/
def ofUrl? (url : String) : Option Address :=
  match Text.afterOpening? "http://".toList url.toList with
  | none => none
  | some rest =>
      let path := rest.dropWhile (· ≠ '/')
      (hostAndNumber? (rest.takeWhile (· ≠ '/'))).map (fun (host, number) =>
        { host, number, path := if path.isEmpty then "/" else String.ofList path })

end Address

/-! ## Requests -/

/-- The end of a line. -/
def lineEnd : String := "\r\n"

/-- The written form of a request to an address. -/
def Request.wire (request : Request) (address : Address) : String :=
  let body := request.body.render
  let authorization := request.authorization.toList.map ("authorization: " ++ ·)
  String.intercalate lineEnd
    (["POST " ++ address.path ++ " HTTP/1.1",
      "host: " ++ address.host ++ ":" ++ toString address.number,
      "content-type: application/json", "accept: */*", "connection: close",
      "content-length: " ++ toString body.utf8ByteSize] ++ authorization ++ ["", body])

/-! ## Replies -/

namespace Reply

/-- The bytes before the first empty line, and those after it. -/
def cutAtEmptyLine : List UInt8 → Option (List UInt8 × List UInt8)
  | 13 :: 10 :: 13 :: 10 :: rest => some ([], rest)
  | byte :: rest => (cutAtEmptyLine rest).map (fun (head, body) => (byte :: head, body))
  | [] => none

/-- The first line of some bytes, and those after it. -/
def cutAtLineEnd : List UInt8 → Option (List UInt8 × List UInt8)
  | 13 :: 10 :: rest => some ([], rest)
  | byte :: rest => (cutAtLineEnd rest).map (fun (line, others) => (byte :: line, others))
  | [] => none

/-- The text that some bytes write. -/
def textOfBytes? (bytes : List UInt8) : Option String :=
  String.fromUTF8? ⟨bytes.toArray⟩

/-- The size that opens a chunk; what follows a semicolon says nothing about it. -/
def chunkSize? (line : List UInt8) : Option Nat :=
  (textOfBytes? line).bind (fun text =>
    let digits := Text.trimChars (text.toList.takeWhile (· ≠ ';'))
    let lowered := digits.map Text.asciiLower
    if !lowered.isEmpty && lowered.all UniqueId.isHexDigit then some (Text.hexValue lowered)
    else none)

/-- The body that some chunks make up, of which there are no more than so many. -/
def joinChunks : Nat → List UInt8 → Option (List UInt8)
  | 0, _ => none
  | limit + 1, bytes =>
      match cutAtLineEnd bytes with
      | none => none
      | some (line, rest) =>
          match chunkSize? line with
          | none => none
          | some 0 => some []
          | some size =>
              if rest.length < size then none
              else (joinChunks limit (rest.drop (size + 2))).map (rest.take size ++ ·)

/-- A header from its line. -/
def headerOfLine? (line : String) : Option (String × String) :=
  (Text.splitAtChar? ':' line.toList).map (fun (name, value) =>
    (Text.trim (String.ofList name), Text.trim (String.ofList value)))

/-- The status in the first line of a reply. -/
def statusOfLine? (line : String) : Option Nat :=
  match Text.words line with
  | version :: status :: _ =>
      if "HTTP/".isPrefixOf version then Numeral.natural? 999 status else none
  | _ => none

/-- The body of a reply with some headers. -/
def bodyOf? (headers : List (String × String)) (bytes : List UInt8) : Option (List UInt8) :=
  if (header? "transfer-encoding" headers).map Text.lowercase == some "chunked" then
    joinChunks bytes.length bytes
  else
    match (header? "content-length" headers).bind (Numeral.natural? Numeral.maxWord) with
    | some size => if bytes.length < size then none else some (bytes.take size)
    | none => some bytes

/-- A reply from the bytes that came back, if they are one. -/
def ofBytes? (bytes : List UInt8) : Option Reply := do
  let (head, rest) ← cutAtEmptyLine bytes
  match (Text.pieces (· = '\n') (← textOfBytes? head).toList).map String.ofList with
  | [] => none
  | first :: lines =>
      let status ← statusOfLine? first
      let headers := lines.filterMap headerOfLine?
      let body ← textOfBytes? (← bodyOf? headers rest)
      some (.answered status headers body)

/-- A reply from the bytes that came back. -/
def ofBytes (bytes : List UInt8) : Reply :=
  (ofBytes? bytes).getD .dropped

end Reply

end NoteDialogue
