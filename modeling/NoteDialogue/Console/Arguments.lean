import NoteDialogue.Prompt

/-!
# Arguments of the command line

The program takes four options, each with a value, which follows as the next argument or after an equals
sign.  An option is given once.  A request for help ends the reading; so does the first mistake.
-/

set_option autoImplicit false

namespace NoteDialogue.Console

/-- The options of the program. -/
inductive OptionName
  | notes
  | styles
  | user
  | session
  deriving DecidableEq, Repr, Inhabited

/-- The written form of an option. -/
def OptionName.flag : OptionName → String
  | .notes => "--notes"
  | .styles => "--styles"
  | .user => "--user"
  | .session => "--session"

/-- The option with a written form. -/
def OptionName.ofFlag? (flag : String) : Option OptionName :=
  [OptionName.notes, .styles, .user, .session].find? (fun name => name.flag == flag)

/-- Whether the value is a path, which may not be empty. -/
def OptionName.isPath : OptionName → Bool
  | .notes | .styles => true
  | .user | .session => false

/-- What the program is to do. -/
structure Arguments where
  /-- A file of notes to index before the first turn. -/
  notes : Option String := none
  /-- A file of styles. -/
  styles : Option String := none
  user : Option String := none
  session : Option String := none
  deriving DecidableEq, Repr, Inhabited

namespace Arguments

/-- The value of an option. -/
def get? (arguments : Arguments) : OptionName → Option String
  | .notes => arguments.notes
  | .styles => arguments.styles
  | .user => arguments.user
  | .session => arguments.session

/-- The arguments with a value for an option. -/
def set (arguments : Arguments) (name : OptionName) (value : String) : Arguments :=
  match name with
  | .notes => { arguments with notes := some value }
  | .styles => { arguments with styles := some value }
  | .user => { arguments with user := some value }
  | .session => { arguments with session := some value }

/-- The user when none is given. -/
def defaultUser : String := "local-user"

end Arguments

/-- What the arguments ask for. -/
inductive Invocation
  | run (arguments : Arguments)
  | help
  | mistake (reason : String)
  deriving DecidableEq, Repr, Inhabited

/-- Put in the value of an option that was not given before. -/
def giveOption (arguments : Arguments) (name : OptionName) (value : String) :
    Except String Arguments :=
  if name.isPath && value.isEmpty then .error ("a value is required for " ++ name.flag)
  else if (arguments.get? name).isSome then .error (name.flag ++ " is given twice")
  else .ok (arguments.set name value)

/-- An argument that is a value and no option; a lone hyphen is a value. -/
def isValue (argument : String) : Bool :=
  argument == "-" || !"-".isPrefixOf argument

/-- An argument and what follows its equals sign. -/
def splitValue (argument : String) : String × Option String :=
  match Text.splitAtChar? '=' argument.toList with
  | some (flag, value) => (String.ofList flag, some (String.ofList value))
  | none => (argument, none)

/-- Whether an argument asks for help. -/
def asksHelp (argument : String) : Bool :=
  argument == "--help" || "-h".isPrefixOf argument

/-- What the remaining arguments ask for, after some that have been read. -/
def readArguments (arguments : Arguments) : List String → Invocation
  | [] => .run arguments
  | argument :: rest =>
      if asksHelp argument then .help
      else
        match OptionName.ofFlag? (splitValue argument).1, (splitValue argument).2, rest with
        | some name, some value, rest =>
            match giveOption arguments name value with
            | .ok arguments => readArguments arguments rest
            | .error reason => .mistake reason
        | some name, none, value :: others =>
            if isValue value then
              match giveOption arguments name value with
              | .ok arguments => readArguments arguments others
              | .error reason => .mistake reason
            else .mistake ("a value is required for " ++ name.flag)
        | some name, none, [] => .mistake ("a value is required for " ++ name.flag)
        | none, _, rest =>
            if argument == "--" && rest.isEmpty then .run arguments
            else .mistake ("unexpected argument " ++ argument)

/-- What some arguments ask for. -/
def Invocation.ofArguments (arguments : List String) : Invocation :=
  readArguments {} arguments

/-- The text of the help. -/
def helpText : String :=
  joinLines
    ["Chat with your notes from the terminal", "", "Usage: notewise [OPTIONS]", "",
      "Options:",
      "      --notes <NOTES>      JSON array of notes to index before the first turn",
      "      --styles <STYLES>    JSON array of styles; the built-in styles are used when omitted",
      "      --user <USER>        [default: local-user]",
      "      --session <SESSION>  Conversation id; a fresh one is generated when omitted",
      "  -h, --help               Print help", ""]

end NoteDialogue.Console
