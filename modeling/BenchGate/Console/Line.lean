/-!
# Lines on the console

A line is made of pieces, each in a style. `Line.text` forgets the styles and is what a console
without colours shows; `Line.coloured` writes each style as the escape codes that switch it on
and off. Styles end before a line break and begin again after it, and a code inside a piece that
would end its style is followed by the code that begins it.
-/

namespace BenchGate

/-- How a piece of a line is shown. -/
inductive Style where
  | plain
  | dim
  | red
  | green
deriving DecidableEq, Repr

/-- A piece of a line. -/
structure Piece where
  text : String
  style : Style := .plain
deriving DecidableEq

/-- A line on the console. -/
abbrev Line := List Piece

namespace Style

/-- An escape code. -/
def code (number : String) : List Char := '\x1b' :: '[' :: number.toList ++ ['m']

/-- The codes that switch a style on and off. -/
def codes? : Style → Option (List Char × List Char)
  | plain => none
  | dim => some (code "2", code "22")
  | red => some (code "31", code "39")
  | green => some (code "32", code "39")

/-- Follows every occurrence of a code by another one. -/
def followBy (stop start : List Char) : List Char → List Char
  | [] => []
  | c :: rest =>
    let tail := followBy stop start rest
    if stop.isPrefixOf (c :: rest) then
      c :: (tail.take (stop.length - 1) ++ start ++ tail.drop (stop.length - 1))
    else c :: tail

/-- Puts the codes of a style around every line break. -/
def breakAround (stop start : List Char) : List Char → List Char
  | [] => []
  | '\r' :: '\n' :: rest => stop ++ '\r' :: '\n' :: start ++ breakAround stop start rest
  | '\n' :: rest => stop ++ '\n' :: start ++ breakAround stop start rest
  | c :: rest => c :: breakAround stop start rest

/-- A text in a style; an empty text stays empty. -/
def apply (style : Style) (text : List Char) : List Char :=
  match style.codes? with
  | none => text
  | some (start, stop) =>
    if text.isEmpty then [] else start ++ breakAround stop start (followBy stop start text) ++ stop

end Style

namespace Line

/-- A line in one style. -/
def ofText (text : String) (style : Style := .plain) : Line := [{ text, style }]

/-- A line without its styles. -/
def text (line : Line) : String := String.join (line.map (·.text))

/-- A line with the codes of its styles. -/
def coloured (line : Line) : String :=
  String.join (line.map fun piece => .ofList (piece.style.apply piece.text.toList))

/-- A line as the console shows it. -/
def render (colours : Bool) (line : Line) : String := if colours then line.coloured else line.text

/-- What is printed for lines: each one ends in a line break. -/
def print (colours : Bool) (lines : List Line) : String :=
  String.join (lines.map fun line => line.render colours ++ "\n")

end Line

end BenchGate
