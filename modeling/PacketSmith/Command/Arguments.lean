import PacketSmith.Command.Usage
import PacketSmith.Text.Quoted
import PacketSmith.Text.Similar

/-!
# Arguments of commands

An argument that starts with a dash, and is not a lone dash, names options. A long name may have its
value behind an equals sign; short names may be written together behind one dash, and what follows
one that takes a value is its value. Otherwise the value is the next argument, whatever it looks
like. Two dashes alone end the options.

The reading of arguments goes along their list, and stops at the first problem.
-/

namespace PacketSmith

/-- Why arguments are refused. -/
inductive UsageProblem where
  /-- There are no arguments at all. -/
  | noArguments
  /-- No option has the name; some have similar names. -/
  | noSuchOption (name : String) (similar : List String)
  /-- The option lacks its value. -/
  | missingValue (name : String)
  /-- The option has a value and takes none. -/
  | unwantedValue (name : String)
  /-- An option that is required is not given. -/
  | missingOption (option : CommandOption)
  /-- No command is named. -/
  | missingCommand
  /-- No command has the name; some have similar names. -/
  | noSuchCommand (name : String) (similar : List String)
  /-- There are arguments that the command does not take. -/
  | extraArguments (arguments : List String)
deriving DecidableEq, Repr

namespace UsageProblem

/-- What is suggested for an unknown name. -/
def suggestion (similar : List String) : String :=
  match similar with
  | [] => ""
  | [one] => " Did you mean " ++ Text.quoted one ++ "?"
  | several =>
    let inOrder := several.mergeSort fun a b => decide (a ≤ b)
    " (Did you mean one of: " ++ ", ".intercalate (inOrder.map Text.quoted) ++ "?)"

/-- The names of an option that is missing. -/
def quotedNames (o : CommandOption) : String :=
  Text.quoted o.long ++ o.short.elim "" fun c => " / " ++ Text.quoted (CommandOption.shortName c)

/-- The wording of a problem. -/
def message : UsageProblem → String
  | noArguments => ""
  | noSuchOption name similar => "No such option " ++ Text.quoted name ++ "." ++ suggestion similar
  | missingValue name => "Option " ++ Text.quoted name ++ " requires an argument."
  | unwantedValue name => "Option " ++ Text.quoted name ++ " does not take a value."
  | missingOption o => "Missing option " ++ quotedNames o ++ "."
  | missingCommand => "Missing command."
  | noSuchCommand name similar =>
    "No such command " ++ Text.quoted name ++ "." ++ suggestion similar
  | extraArguments [one] => "Got unexpected extra argument (" ++ one ++ ")"
  | extraArguments several => "Got unexpected extra arguments (" ++ " ".intercalate several ++ ")"

/-- The lines that a command answers a problem with. A problem with the value of an option is told
alone, any other one below the usage of the command. -/
def lines (u : CommandUsage) : UsageProblem → List String
  | noArguments => u.helpLines
  | missingValue name => ["Error: " ++ message (missingValue name)]
  | unwantedValue name => ["Error: " ++ message (unwantedValue name)]
  | problem =>
    [u.callLine, "Try '" ++ u.name ++ " --help' for help.", "", "Error: " ++ problem.message]

end UsageProblem

/-- Arguments that have been read. -/
structure Arguments where
  /-- The options in the order they are given, by their long names. -/
  given : List (String × String) := []
  /-- The arguments that are no options. -/
  rest : List String := []
deriving DecidableEq, Repr

namespace Arguments

/-- The option is given. -/
def has (a : Arguments) (long : String) : Bool := a.given.any (·.1 == long)

/-- The value of an option; the last one given counts. -/
def value? (a : Arguments) (long : String) : Option String := a.given.reverse.lookup long

/-- The options that one argument names. The last one may wait for its value. -/
structure Named where
  /-- The options that are complete, with their values. -/
  given : List (String × String) := []
  /-- The option that waits for a value, by its name as it is written and by its long name. -/
  waiting : Option (String × String) := none
deriving DecidableEq, Repr

/-- The options of short names that are written together. -/
def namedTogether (options : List CommandOption) : List Char → Except UsageProblem Named
  | [] => .ok {}
  | c :: cs =>
    match options.find? (·.short == some c) with
    | none => .error (.noSuchOption (CommandOption.shortName c) [])
    | some o =>
      if !o.takesValue then do
        let more ← namedTogether options cs
        return { more with given := (o.long, "") :: more.given }
      else if cs.isEmpty then
        .ok { waiting := some (CommandOption.shortName c, o.long) }
      else
        .ok { given := [(o.long, String.ofList cs)] }

/-- A name and the value that follows it behind an equals sign. -/
def splitValue (cs : List Char) : String × Option String :=
  match cs.dropWhile (· != '=') with
  | [] => (String.ofList cs, none)
  | _ :: value => (String.ofList (cs.takeWhile (· != '=')), some (String.ofList value))

/-- The options that an argument with a dash names. -/
def named (options : List CommandOption) (argument : String) : Except UsageProblem Named :=
  let (name, value) := splitValue argument.toList
  match options.find? (·.long == name) with
  | some o =>
    match o.takesValue, value with
    | true, some v => .ok { given := [(o.long, v)] }
    | true, none => .ok { waiting := some (name, o.long) }
    | false, some _ => .error (.unwantedValue name)
    | false, none => .ok { given := [(o.long, "")] }
  | none =>
    match argument.toList with
    | '-' :: '-' :: _ => .error (.noSuchOption name (Text.similarTo name (options.map (·.long))))
    | cs => namedTogether options cs.tail

/-- The argument names options. -/
def namesOptions (argument : String) : Bool :=
  match argument.toList with
  | '-' :: _ :: _ => true
  | _ => false

/-- The arguments with options before them. -/
def withGiven (options : List (String × String)) (a : Arguments) : Arguments :=
  { a with given := options ++ a.given }

/-- Reads arguments, where `waiting` is the option that the next one is a value of. With `stops`
set, the first argument that is no option ends the options. -/
def readFrom (options : List CommandOption) (stops : Bool) :
    (waiting : Option (String × String)) → List String → Except UsageProblem Arguments
  | none, [] => .ok {}
  | some (name, _), [] => .error (.missingValue name)
  | some (_, long), value :: others =>
    (readFrom options stops none others).map (withGiven [(long, value)])
  | none, argument :: others =>
    if argument == "--" then .ok { rest := others }
    else if namesOptions argument then do
      let n ← named options argument
      (readFrom options stops n.waiting others).map (withGiven n.given)
    else if stops then .ok { rest := argument :: others }
    else (readFrom options stops none others).map fun a => { a with rest := argument :: a.rest }

/-- Reads arguments. With `stops` set, the first argument that is no option ends the options. -/
def read (options : List CommandOption) (stops : Bool) (arguments : List String) :
    Except UsageProblem Arguments :=
  readFrom options stops none arguments

end Arguments
end PacketSmith
