import NoteDialogue.Console
import NoteDialogue.Network.Wire
import Std.Async.DNS
import Std.Async.TCP

/-!
# The program

The outer layer of the console: it reads the arguments, the environment, the files and the lines of the
terminal, carries requests to their servers, and prints what the console says.

Requests go out without encryption.  A server that wants encryption, does not answer, or cannot be
reached counts as one that dropped the connection.
-/

set_option autoImplicit false

namespace NoteDialogue.Program

open Std.Async Std.Net

/-! ## Requests -/

/-- The most bytes that are received at once. -/
def receiveSize : UInt64 := 65536

/-- The bytes that come until the connection ends. -/
partial def receiveAll (socket : TCP.Socket.Client) (received : ByteArray) : Async ByteArray := do
  match ← socket.recv? receiveSize with
  | some bytes => receiveAll socket (received ++ bytes)
  | none => return received

/-- The address of a service on a host. -/
def socketAddress (host : IPAddr) (number : UInt16) : SocketAddress :=
  match host with
  | .v4 host => .v4 ⟨host, number⟩
  | .v6 host => .v6 ⟨host, number⟩

/-- Send some bytes to an address and wait for all that comes back. -/
def converse (address : Address) (bytes : ByteArray) : Async ByteArray := do
  let found ← DNS.getAddrInfo address.host (toString address.number)
  match found[0]? with
  | none => return .empty
  | some host =>
      let socket ← TCP.Socket.Client.mk
      socket.connect (socketAddress host address.number.toUInt16)
      socket.send bytes
      receiveAll socket .empty

/-- Carry a request to its server. -/
def send (request : Request) : IO Reply := do
  match Address.ofUrl? request.url with
  | none => return .dropped
  | some address =>
      try
        let received ← (converse address (request.wire address).toUTF8).block
        return Reply.ofBytes received.toList
      catch _ => return .dropped

/-! ## The surroundings -/

/-- The settings of the environment. -/
def settings : IO Settings := do
  let mut found : Settings := {}
  for name in Config.settingNames do
    if let some value ← IO.getEnv name then found := found.set name value
  return found

/-- The contents of the files that the arguments name, or why they cannot be had. -/
def contents (arguments : Console.Arguments) : IO (List (String × Except Failure String)) :=
  (arguments.notes.toList ++ arguments.styles.toList).mapM (fun (path : String) => do
    try return (path, .ok (← IO.FS.readFile path))
    catch problem => return (path, .error (.file (toString problem))))

/-- A number of so many bytes drawn at random. -/
def drawNumber (size : USize) : IO Nat := do
  let bytes ← IO.getRandomBytes size
  return bytes.foldl (fun number byte => number * 256 + byte.toNat) 0

/-- What the console begins with. -/
def start (arguments : Console.Arguments) : IO Console.Start := do
  let files ← contents arguments
  let seed ← drawNumber 16
  let now ← Std.Time.Timestamp.now
  return {
    settings := ← settings
    arguments
    textOfFile := fun path =>
      match files.find? (fun file => file.1 == path) with
      | some file => file.2
      | none => .error (.file path)
    sessionId := UniqueId.shortOfNumber (← drawNumber 16)
    noteIds := fun index => UniqueId.ofNumber (seed + index)
    now := .ofSeconds now.toSecondsSinceUnixEpoch.val }

/-! ## The conversation -/

/-- Take the lines of the terminal one after the other. -/
partial def talk (input output : IO.FS.Stream) (console : Console) : IO Nat := do
  let line ← input.getLine
  if line.isEmpty then return 0
  match ← (console.step line).runIn send with
  | .ended => return 0
  | .crashed => return Console.crashCode
  | .next console text =>
      output.putStr text
      output.flush
      talk input output console

/-- A whole run: the code with which it ends. -/
def run (arguments : List String) : IO Nat := do
  match Console.Invocation.ofArguments arguments with
  | .help =>
      IO.print Console.helpText
      return 0
  | .mistake reason =>
      IO.eprintln ("error: " ++ reason)
      return Console.mistakeCode
  | .run arguments =>
      match ← (Console.begin (← start arguments)).runIn send with
      | .error failure =>
          IO.eprintln ("Error: " ++ failure.message)
          return Console.failureCode
      | .ok console => talk (← IO.getStdin) (← IO.getStdout) console

end NoteDialogue.Program

/-- Hold a conversation on the terminal. -/
def main (arguments : List String) : IO UInt32 := do
  return (← NoteDialogue.Program.run arguments).toUInt32
