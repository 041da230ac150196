import BenchGate.CommandLine.Help
import BenchGate.CommandLine.Scan
import BenchGate.CommandLine.Suggestion

/-!
# Invocations

What the program is asked to do by its arguments. The comparison is the command of a call that
names none; its flags are then still looked for among the arguments the program itself does not
know.
-/

namespace BenchGate.CommandLine

/-- What is wrong with a call. -/
inductive UsageError where
  | valueMissing (flag : Flag)
  | unknownFlag (given : String)
  | parameterMissing (name : String)

/-- The text of an error. -/
def UsageError.message : UsageError → String
  | valueMissing flag => "error: option '" ++ flag.display ++ "' argument missing"
  | unknownFlag given =>
    "error: unknown option '" ++ given ++ "'" ++ suggestionText (suggestions given)
  | parameterMissing name => "error: missing required argument '" ++ name ++ "'"

/-- The arguments of a comparison. -/
structure Arguments where
  baseline : String × String
  latest : String × String
  token : String
  pullRequest : String
  eventPath : Option String := none
  repository : Option String := none
  config : Option String := none
  output : Option String := none
  allowLengthMismatch : Bool := false
deriving DecidableEq

/-- What the program is asked to do. A help text may be the answer to a call for a command that
does not exist. -/
inductive Invocation where
  | version
  | help (text : String)
  | noSuchCommand
  | refused (error : UsageError)
  | compare (arguments : Arguments)

/-- The arguments of a comparison that were found; parameters beyond the last one do not count. -/
def Scan.arguments (s : Scan) : Except UsageError Arguments :=
  match s.operands with
  | baseline1 :: baseline2 :: latest1 :: latest2 :: token :: rest =>
    .ok {
      baseline := (baseline1, baseline2)
      latest := (latest1, latest2)
      token
      pullRequest := rest.headD ""
      eventPath := s.setting? eventPathFlag
      repository := s.setting? repositoryFlag
      config := s.setting? configFlag
      output := s.setting? outputFlag
      allowLengthMismatch := (s.setting? lengthFlag).isSome }
  | few =>
    .error (.parameterMissing (((compareParameters.drop few.length).head?.map (·.name)).getD ""))

namespace Invocation

/-- A comparison with operands and arguments that are still to be read. -/
def ofCompare (operands rest : List String) : Invocation :=
  match compareCommand.scan rest with
  | .error .version => .version
  | .error (.valueMissing flag) => .refused (.valueMissing flag)
  | .ok s =>
    if asksForHelp s.unknown then .help Help.ofCompare
    else
      match s.unknown with
      | given :: _ => .refused (.unknownFlag given)
      | [] =>
        match Scan.arguments { s with operands := operands ++ s.operands } with
        | .error e => .refused e
        | .ok arguments => .compare arguments

/-- The help for a command, or for the program. -/
def ofHelp : Option String → Invocation
  | none | some "" => .help Help.ofProgram
  | some command =>
    if command = compareCommand.name then .help Help.ofCompare else .noSuchCommand

/-- What arguments ask for. -/
def ofArgs (args : List String) : Invocation :=
  match mainCommand.scan args with
  | .error .version => .version
  | .error (.valueMissing flag) => .refused (.valueMissing flag)
  | .ok s =>
    match s.operands with
    | command :: operands =>
      if command = compareCommand.name then ofCompare operands s.unknown
      else if command = helpName then ofHelp operands.head?
      else if asksForHelp s.unknown then .help Help.ofProgram
      else ofCompare s.operands s.unknown
    | [] => if asksForHelp s.unknown then .help Help.ofProgram else ofCompare [] s.unknown

end Invocation

end BenchGate.CommandLine
