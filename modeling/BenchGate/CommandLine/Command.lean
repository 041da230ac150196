/-!
# Commands

What the program can be asked to do, as data: its commands with their parameters and flags.
Reading arguments (`Scan`), suggestions and help texts all follow this description, so they cannot
disagree about what exists.
-/

namespace BenchGate.CommandLine

/-- What a flag is for: it ends the run with the version, it switches something on, or it takes
the next argument as its value. -/
inductive Role where
  | version
  | switch
  | value (placeholder : String)
deriving DecidableEq, Repr

/-- An option of a command. -/
structure Flag where
  name : String
  letter : Option Char := none
  role : Role
  about : String
deriving DecidableEq

namespace Flag

/-- A flag as it is written in full. -/
def long (f : Flag) : String := "--" ++ f.name

/-- A flag as messages show it, with its value. -/
def display (f : Flag) : String :=
  let letter := match f.letter with
    | some c => .ofList ['-', c, ',', ' ']
    | none => ""
  let value := match f.role with
    | .value placeholder => " <" ++ placeholder ++ ">"
    | _ => ""
  letter ++ f.long ++ value

end Flag

/-- A positional parameter; one with a standard value may be left out. -/
structure Parameter where
  name : String
  about : String
  standard : Option String := none
deriving DecidableEq

namespace Parameter

/-- A parameter in a line of usage. -/
def display (p : Parameter) : String :=
  if p.standard.isNone then "<" ++ p.name ++ ">" else "[" ++ p.name ++ "]"

/-- The description of a parameter with its standard value. -/
def fullAbout (p : Parameter) : String :=
  match p.standard with
  | none => p.about
  | some value => p.about ++ " (default: \"" ++ value ++ "\")"

end Parameter

/-- A command: how it is called, what it takes, and the commands below it. -/
structure Command where
  name : String
  usage : String
  about : String
  parameters : List Parameter := []
  flags : List Flag := []
  subcommands : List (String × String) := []
deriving DecidableEq

/-- The flag that shows a help text. It is looked for after all other flags were read. -/
def helpFlag : Flag where
  name := "help"
  letter := some 'h'
  role := .switch
  about := "display help for command"

/-- The name of the command that shows a help text. -/
def helpName : String := "help"

/-- The parameters of a comparison. -/
def compareParameters : List Parameter := [
  { name := "baseline1", about := "Baseline timings, first sample" },
  { name := "baseline2", about := "Baseline timings, second sample" },
  { name := "latest1", about := "Latest timings, first sample" },
  { name := "latest2", about := "Latest timings, second sample" },
  { name := "token", about := "GitHub token used to post the PR comment" },
  { name := "pullRequest", about := "Pull request number; no comment is posted when empty",
    standard := some "" }]

/-- The flag for the file of the event. -/
def eventPathFlag : Flag where
  name := "event-path"
  role := .value "path"
  about := "CI event payload with the PR head commit (default: $GITHUB_EVENT_PATH)"

/-- The flag for the repository. -/
def repositoryFlag : Flag where
  name := "repository"
  role := .value "owner/repo"
  about := "Repository the pull request belongs to (default: $GITHUB_REPOSITORY)"

/-- The flag for the directory of the configuration. -/
def configFlag : Flag where
  name := "config"
  role := .value "dir"
  about := "Directory containing .perfcompare.yaml (default: cwd)"

/-- The flag for the file of the outcome. -/
def outputFlag : Flag where
  name := "output"
  role := .value "path"
  about := "Also write a JSON report to this path"

/-- The flag that allows sequences of different lengths. -/
def lengthFlag : Flag where
  name := "allow-length-mismatch"
  role := .switch
  about := "Truncate to the shorter sequence instead of failing"

/-- The comparison of two runs. -/
def compareCommand : Command where
  name := "compare"
  usage := "compare [options] " ++ " ".intercalate (compareParameters.map Parameter.display)
  about := "Compare baseline and latest benchmark timings and fail on regressions"
  parameters := compareParameters
  flags := [eventPathFlag, repositoryFlag, configFlag, outputFlag, lengthFlag]

/-- The name of the program. -/
def programName : String := "perf-compare"

/-- The version of the program. -/
def version : String := "0.1.0"

/-- The program itself. -/
def mainCommand : Command where
  name := programName
  usage := "[options] [command]"
  about := "Compare benchmark timings against a baseline and report regressions"
  flags := [{ name := "version", letter := some 'V', role := .version,
              about := "output the version number" }]
  subcommands := [(compareCommand.usage, compareCommand.about),
    (helpName ++ " [command]", helpFlag.about)]

end BenchGate.CommandLine
