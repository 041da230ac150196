import BenchGate.Text.Blank
import BenchGate.Text.Hex

/-!
# Tables of characters

What the rules for domains need to know of each character stands in tables. A table is a text of
rows with blanks between them. A row names a code point, or a range as `first-last`, in
hexadecimal; a sign may follow with code points that have points between them.
-/

namespace BenchGate.Url.Domain

/-- A row of a table: the code points from `first` to `last`, and what is said of them. -/
structure Row where
  first : Nat
  last : Nat
  sign : Option Char := none
  values : List Nat := []
deriving DecidableEq, Repr

namespace Row

/-- Whether a row is about a character. -/
def holds (row : Row) (c : Char) : Bool := row.first ≤ c.toNat && c.toNat ≤ row.last

/-- The row of a range and what follows it. -/
def ofRange (range : List Char) (sign : Option Char) (values : List Nat) : Row :=
  let number (digits : List Char) : Nat := (Hex.natOf? digits).getD 0
  match range.splitOn '-' with
  | [first, last] => { first := number first, last := number last, sign, values }
  | _ => { first := number range, last := number range, sign, values }

/-- The row that a word stands for. -/
def ofWord (word : List Char) : Row :=
  match word.span fun c => c ≠ '=' ∧ c ≠ '>' ∧ c ≠ '^' with
  | (range, []) => ofRange range none []
  | (range, sign :: values) =>
    ofRange range (some sign) ((values.splitOn '.').filterMap fun digits =>
      if digits = [] then none else Hex.natOf? digits)

end Row

/-- The rows of a text. -/
def rows (text : String) : List Row := (Text.words text.toList).map Row.ofWord

/-- Whether a table is about a character. -/
def isIn (table : List Row) (c : Char) : Bool := table.any (·.holds c)

/-- Whether a character is one of ASCII. -/
def isAscii (c : Char) : Bool := c.toNat < 0x80

example : rows "41 61-7a>100 df=73.73" =
    [{ first := 0x41, last := 0x41 },
      { first := 0x61, last := 0x7a, sign := some '>', values := [0x100] },
      { first := 0xdf, last := 0xdf, sign := some '=', values := [0x73, 0x73] }] := by
  decide +kernel

end BenchGate.Url.Domain
