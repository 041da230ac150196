import BenchGate.CommandLine.Command

/-!
# Help texts

A help text has a line of usage, the description and tables of what the command takes. A table
has two columns; the second is wrapped at the width of the console, unless too little of it is
left.
-/

namespace BenchGate.CommandLine.Help

/-- The width of the console. -/
def width : Nat := 80

/-- The blanks in front of a line of a table, and those between its columns. -/
def gap : Nat := 2

/-- The least width at which a column is wrapped. -/
def leastColumn : Nat := 40

/-- Blanks. -/
def blanks (n : Nat) : String := .ofList (List.replicate n ' ')

/-- Fills lines of at most `limit` characters with words, after the words of the line begun. -/
def fill (limit : Nat) (line : String) : List String → List String
  | [] => [line]
  | word :: words =>
    if line.length + 1 + word.length ≤ limit then fill limit (line ++ " " ++ word) words
    else line :: fill limit word words

/-- A text in lines of a column. -/
def wrap (column : Nat) (text : String) : List String :=
  if column < leastColumn then [text]
  else
    match (text.toList.splitOn ' ').map String.ofList with
    | [] => []
    | word :: words => fill (column - 1) word words

/-- A row of a table whose first column has a width. -/
def row (first : Nat) (term about : String) : List String :=
  let head := blanks gap ++ term ++ blanks (first + gap - term.length)
  match wrap (width - gap - (first + gap)) about with
  | [] => [head]
  | line :: lines => (head ++ line) :: lines.map fun line => blanks (first + 2 * gap) ++ line

/-- A table under its title; without rows there is none. -/
def table (first : Nat) (title : String) (rows : List (String × String)) : List String :=
  if rows.isEmpty then []
  else (title ++ ":") :: rows.flatMap (fun (term, about) => row first term about) ++ [""]

/-- The help text of a command that is called in a certain way. -/
def text (call : String) (c : Command) : String :=
  let parameters := c.parameters.map fun p => (p.name, p.fullAbout)
  let flags := (c.flags ++ [helpFlag]).map fun f => (f.display, f.about)
  let rows := parameters ++ flags ++ c.subcommands
  let first := (rows.map fun r => r.1.length).foldl max 0
  "\n".intercalate (
    ["Usage: " ++ call, "", c.about, ""] ++ table first "Arguments" parameters ++
      table first "Options" flags ++ table first "Commands" c.subcommands)

/-- The help text of the program. -/
def ofProgram : String := text (programName ++ " " ++ mainCommand.usage) mainCommand

/-- The help text of the comparison. -/
def ofCompare : String := text (programName ++ " " ++ compareCommand.usage) compareCommand

end BenchGate.CommandLine.Help
