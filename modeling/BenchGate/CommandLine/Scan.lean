import BenchGate.CommandLine.Command

/-!
# Arguments

`Command.scan` sorts arguments into settings of the flags a command knows, operands, and those it
does not know. From the first unknown flag on, everything that is not a known flag counts as
unknown too, since it may be that flag's value. Two dashes end the flags.
-/

namespace BenchGate.CommandLine

/-- What arguments were found to be. -/
structure Scan where
  settings : List (Flag × String) := []
  operands : List String := []
  unknown : List String := []

/-- What ends a scan early: the version was asked for, or the value of a flag is missing. -/
inductive Stop where
  | version
  | valueMissing (flag : Flag)

/-- Whether an argument looks like a flag. -/
def isFlagLike (arg : String) : Bool := arg.toList.head? = some '-' && arg ≠ "-"

/-- The name and the value of an argument `--name=value`. -/
def splitAssignment? (arg : String) : Option (String × String) :=
  match arg.toList with
  | '-' :: '-' :: rest =>
    match rest.span (· ≠ '=') with
    | (c :: name, _ :: value) => some (.ofList (c :: name), .ofList value)
    | _ => none
  | _ => none

/-- What an argument is to a command: a flag it knows, perhaps with a value, or something else. -/
inductive Reading where
  | flag (f : Flag)
  | assigned (f : Flag) (value : String)
  | other

namespace Command

/-- Reads one argument. A letter of the command may stand at the head of a group of letters. -/
def read (c : Command) (arg : String) : Reading :=
  let isLetter (f : Flag) : Bool := f.letter.any fun letter =>
    ['-', letter].isPrefixOf arg.toList
  match c.flags.find? fun f => arg = f.long || isLetter f with
  | some f => .flag f
  | none =>
    match splitAssignment? arg with
    | none => .other
    | some (name, value) =>
      match c.flags.find? fun f => f.name = name with
      | some f =>
        match f.role with
        | .value _ => .assigned f value
        | _ => .other
      | none => .other

/-- Sorts arguments; `unknownSeen` says whether an unknown flag came before them. -/
def scanFrom (c : Command) (unknownSeen : Bool) : List String → Except Stop Scan
  | [] => .ok {}
  | arg :: rest =>
    if arg = "--" then
      .ok (if unknownSeen then { unknown := arg :: rest } else { operands := rest })
    else
      match c.read arg with
      | .flag f =>
        match f.role with
        | .version => .error .version
        | .switch => do
          let s ← c.scanFrom unknownSeen rest
          return { s with settings := (f, "") :: s.settings }
        | .value _ =>
          match rest with
          | [] => .error (.valueMissing f)
          | value :: rest => do
            let s ← c.scanFrom unknownSeen rest
            return { s with settings := (f, value) :: s.settings }
      | .assigned f value => do
        let s ← c.scanFrom unknownSeen rest
        return { s with settings := (f, value) :: s.settings }
      | .other => do
        let unknownSeen := unknownSeen || isFlagLike arg
        let s ← c.scanFrom unknownSeen rest
        return if unknownSeen then { s with unknown := arg :: s.unknown }
          else { s with operands := arg :: s.operands }

/-- Sorts arguments. -/
def scan (c : Command) (args : List String) : Except Stop Scan := c.scanFrom false args

end Command

/-- The value of a flag; the last one counts. -/
def Scan.setting? (s : Scan) (flag : Flag) : Option String :=
  (s.settings.reverse.find? fun setting => setting.1 = flag).map Prod.snd

/-- Whether arguments ask for help. -/
def asksForHelp (args : List String) : Bool := args.any fun arg => arg = "-h" || arg = "--help"

end BenchGate.CommandLine
