import BenchGate.CommandLine.Invocation
import BenchGate.Config.Load
import BenchGate.Run.Job

/-!
# The program

`Program.run` is everything one call of the program does: it reads the arguments, loads the
configuration, runs the job and turns the outcome into an exit status. The status is 0 exactly
when the call was for information or the job has an outcome that passes.
-/

namespace BenchGate

open CommandLine

/-- What surrounds a call: the current directory, the variables that are set, whether the console
shows colours, and what is said about files that are no documents. -/
structure Environment where
  directory : String
  eventPath : Option String := none
  repository : Option String := none
  apiUrl : Option String := none
  colours : Bool := false
  explain : Explanations := {}

/-- What a call leaves behind. -/
structure Exit where
  status : Nat
  out : String
  err : String
  requests : List Request
  tree : Tree

namespace Program

/-- The job of a comparison. What the arguments leave open comes from the configuration, then
from the variables; the address of the service comes from its variable first. -/
def job (a : Arguments) (config : Config) (env : Environment) : Job where
  plan :=
    { baseline := a.baseline
      latest := a.latest
      thresholds := config.thresholds
      allowLengthMismatch := a.allowLengthMismatch }
  delivery :=
    { token := a.token
      pullRequest := a.pullRequest
      eventPath := a.eventPath.or env.eventPath
      repository := (a.repository.or config.github.repository).or env.repository
      apiUrl := env.apiUrl
      github := config.github }
  outputPath := a.output

/-- The line for a configuration that cannot be used. -/
def configLine (explain : Explanations) (e : ConfigError) : Line :=
  [{ text := "Configuration error:", style := .red }, { text := " " ++ e.message explain }]

/-- The line for a job without an outcome. -/
def failureLine (explain : Explanations) (f : Failure) : Line :=
  .ofText (f.name ++ ": " ++ f.message explain) .red

/-- The line for a reason why a run fails. -/
def objectionLine (o : Objection) : Line := .ofText ("REGRESSION: " ++ o.describe) .red

/-- The line for a run that passes. -/
def passedLine : Line := .ofText "No blocking performance regressions." .green

/-- The exit status and the last lines of a job. -/
def conclude (explain : Explanations) : Except Failure Outcome → Nat × List Line
  | .error f => (1, [failureLine explain f])
  | .ok outcome =>
    if outcome.verdict.passed then (0, [passedLine])
    else (1, outcome.verdict.failures.map objectionLine)

/-- Loads the configuration that a comparison asks for. -/
def loadConfig (a : Arguments) (env : Environment) (tree : Tree) : Except ConfigError Config :=
  match a.config with
  | some directory => Config.load tree directory
  | none => Config.loadCurrent tree env.directory

/-- Runs a comparison. -/
def compare (a : Arguments) (env : Environment) (tree : Tree) (reply : Reply) : Exit :=
  match loadConfig a env tree with
  | .error e =>
    { status := 1
      out := Line.print env.colours [configLine env.explain e]
      err := ""
      requests := []
      tree }
  | .ok config =>
    let run := (job a config env).run tree reply
    let (status, last) := conclude env.explain run.result
    { status
      out := Line.print env.colours (run.lines ++ last)
      err := ""
      requests := run.requests
      tree := run.tree }

/-- The paths at which a call may look, for what it reads and for what it writes. -/
def paths (env : Environment) (args : List String) : List String :=
  match Invocation.ofArgs args with
  | .compare a =>
    [(a.config.map Config.pathIn).getD Config.fileName, a.baseline.1, a.baseline.2, a.latest.1,
      a.latest.2] ++ a.eventPath.toList ++ env.eventPath.toList ++ a.output.toList
  | _ => []

/-- A call that only says something. -/
def say (status : Nat) (out err : String) (tree : Tree) : Exit where
  status := status
  out := out
  err := err
  requests := []
  tree := tree

/-- Runs the program on its arguments, with the reply that a request will get. -/
def run (env : Environment) (tree : Tree) (reply : Reply) (args : List String) : Exit :=
  match Invocation.ofArgs args with
  | .version => say 0 (version ++ "\n") "" tree
  | .help text => say 0 text "" tree
  | .noSuchCommand => say 1 "" Help.ofProgram tree
  | .refused e => say 1 "" (e.message ++ "\n") tree
  | .compare arguments => compare arguments env tree reply

end Program

end BenchGate
