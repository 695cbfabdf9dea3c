import PacketSmith.Text.Lines
import PacketSmith.Text.Terminal

/-!
# Usage of commands

What a command is called and which options it takes, and the help text that says so.
-/

namespace PacketSmith

/-- An option of a command. -/
structure CommandOption where
  /-- The long name, with its two dashes. -/
  long : String
  /-- The letter of the short name. -/
  short : Option Char := none
  /-- A value belongs to the option. -/
  takesValue : Bool := false
  /-- The option has to be given. -/
  required : Bool := false
  /-- What the option is for. -/
  about : String
deriving DecidableEq, Repr

namespace CommandOption

/-- The short name, with its dash. -/
def shortName (c : Char) : String := String.ofList ['-', c]

/-- The names of the option, as its help shows them. -/
def names (o : CommandOption) : String :=
  (o.short.elim "" fun c => shortName c ++ ", ") ++ o.long ++ (if o.takesValue then " TEXT" else "")

/-- What the help says of the option. -/
def description (o : CommandOption) : String :=
  o.about ++ (if o.required then "  [required]" else "")

/-- The option that every command has. -/
def help : CommandOption where
  long := "--help"
  about := "Show this message and exit."

end CommandOption

/-- A command with its options. -/
structure CommandUsage where
  /-- The words that call the command. -/
  name : String
  /-- What the command does. -/
  about : String
  /-- The options, the one for help apart. -/
  options : List CommandOption
  /-- The commands below it with what they do; a command that has some stops at the name of one. -/
  commands : List (String × String) := []
deriving DecidableEq, Repr

namespace CommandUsage

/-- All options of a command. -/
def allOptions (u : CommandUsage) : List CommandOption := u.options ++ [.help]

/-- The line that says how a command is called. -/
def callLine (u : CommandUsage) : String :=
  "Usage: " ++ u.name ++ " [OPTIONS]" ++ (if u.commands.isEmpty then "" else " COMMAND [ARGS]...")

/-- The lines of a list of terms, each with its meaning behind it. -/
def termLines (terms : List (String × String)) : List String :=
  let width := terms.foldl (fun n t => max n (Text.width t.1)) 0
  terms.map fun (term, meaning) =>
    Text.blanks 2 ++ term ++ Text.blanks (width + 2 - Text.width term) ++ meaning

/-- The lines of a help text. -/
def helpLines (u : CommandUsage) : List String :=
  [u.callLine, "", Text.blanks 2 ++ u.about, "", "Options:"]
    ++ termLines (u.allOptions.map fun o => (o.names, o.description))
    ++ (if u.commands.isEmpty then [] else ["", "Commands:"] ++ termLines u.commands)

end CommandUsage
end PacketSmith
