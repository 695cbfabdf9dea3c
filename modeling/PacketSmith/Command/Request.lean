import PacketSmith.Command.Arguments
import PacketSmith.Target.Basic

/-!
# Requests

What a call of the program asks for. The program has two commands: one generates the files of a
registry, the other one shows what a registry holds. A call for help is answered before anything
that is missing is told, and a required option that is missing before an argument too many.
-/

namespace PacketSmith

/-- What a call of the program asks for. -/
inductive Request where
  /-- The help text of a command. -/
  | help (usage : CommandUsage)
  /-- The files of the registry in a file, for a language, below an output directory. -/
  | generate (language input output : String) (clean logs : Bool)
  /-- What the registry in a file holds, as a table or as a JSON document. -/
  | overview (input : String) (json : Bool)
deriving DecidableEq, Repr

/-- A call that is not understood: the command it reaches and the problem there. -/
structure Refusal where
  /-- The command. -/
  usage : CommandUsage
  /-- The problem. -/
  problem : UsageProblem
deriving DecidableEq, Repr

namespace CommandOption

/-- The language to generate for. -/
def language : CommandOption where
  long := "--language"
  short := some 'l'
  takesValue := true
  required := true
  about := "Target language (" ++ ", ".intercalate (Target.all.map Target.name) ++ ")"

/-- The registry file. -/
def input : CommandOption where
  long := "--input"
  short := some 'i'
  takesValue := true
  required := true
  about := "Input registry file (JSON)"

/-- The output directory. -/
def output : CommandOption where
  long := "--output"
  short := some 'o'
  takesValue := true
  required := true
  about := "Output directory"

/-- What stands in the output directory is kept. -/
def noClean : CommandOption where
  long := "--no-clean"
  about := "Keep files from a previous run in the output directory"

/-- The answer is a JSON document. -/
def json : CommandOption where
  long := "--json"
  about := "Output as JSON"

/-- More is logged. -/
def verbose : CommandOption where
  long := "--verbose"
  short := some 'v'
  about := "Log every rendered file"

end CommandOption

namespace CommandUsage

/-- The command that generates files. -/
def generate : CommandUsage where
  name := "galalith gen"
  about := "Generate protocol code from a registry file."
  options := [.language, .input, .output, .noClean]

/-- The command that shows what a registry holds. -/
def overview : CommandUsage where
  name := "galalith info"
  about := "Display the messages of a registry and their dependencies."
  options := [.input, .json]

/-- The program. -/
def program : CommandUsage where
  name := "galalith"
  about := "Galalith protocol code generator."
  options := [.verbose]
  commands := [("gen", generate.about), ("info", overview.about)]

end CommandUsage

namespace Request

/-- The first option that is required and not given. -/
def missing? (u : CommandUsage) (a : Arguments) : Option CommandOption :=
  u.options.find? fun o => o.required && !a.has o.long

/-- What the arguments of a command ask for: `build` gives it from arguments that are complete. -/
def ofCommand (u : CommandUsage) (build : Arguments → Request) (arguments : List String) :
    Except Refusal Request :=
  match Arguments.read u.allOptions false arguments with
  | .error problem => .error ⟨u, problem⟩
  | .ok a =>
    if a.has CommandOption.help.long then .ok (.help u)
    else
      match missing? u a, a.rest with
      | some o, _ => .error ⟨u, .missingOption o⟩
      | none, [] => .ok (build a)
      | none, extra => .error ⟨u, .extraArguments extra⟩

/-- The value of an option in arguments that are complete. -/
def valueOf (a : Arguments) (o : CommandOption) : String := (a.value? o.long).getD ""

/-- What the arguments of the generating command ask for. -/
def ofGenerate (logs : Bool) : List String → Except Refusal Request :=
  ofCommand .generate fun a =>
    .generate (valueOf a .language) (valueOf a .input) (valueOf a .output)
      (!a.has CommandOption.noClean.long) logs

/-- What the arguments of the showing command ask for. -/
def ofOverview : List String → Except Refusal Request :=
  ofCommand .overview fun a => .overview (valueOf a .input) (a.has CommandOption.json.long)

/-- The problem of a command name that is unknown. A name that looks like an option is read as one
first. -/
def unknownCommand (name : String) (arguments : List String) : Except Refusal Request :=
  let u := CommandUsage.program
  let unknown : Except Refusal Request :=
    .error ⟨u, .noSuchCommand name (Text.similarTo name (u.commands.map (·.1)))⟩
  match Arguments.read u.allOptions true arguments with
  | .error problem => .error ⟨u, problem⟩
  | .ok a => if a.has CommandOption.help.long then .ok (.help u) else unknown

/-- What the arguments of the program ask for. -/
def ofArguments (arguments : List String) : Except Refusal Request :=
  let u := CommandUsage.program
  if arguments.isEmpty then .error ⟨u, .noArguments⟩
  else
    match Arguments.read u.allOptions true arguments with
    | .error problem => .error ⟨u, problem⟩
    | .ok a =>
      if a.has CommandOption.help.long then .ok (.help u)
      else
        match a.rest with
        | [] => .error ⟨u, .missingCommand⟩
        | "gen" :: others => ofGenerate (a.has CommandOption.verbose.long) others
        | "info" :: others => ofOverview others
        | name :: others => unknownCommand name (name :: others)

end Request
end PacketSmith
