import BenchGate.Datum
import BenchGate.Text.Utf16

/-!
# JSON documents

A text of a JSON document is a sequence of UTF-16 units, because an escape can name any unit,
also a surrogate without its partner. Names of members are characters: those that the program
looks for have no others.
-/

namespace BenchGate.Json

/-- A document, whose texts are units. -/
abbrev Document := Datum (List UInt16)

/-- A text of characters. -/
def ofText (text : String) : Document := .text (Utf16.units text)

end BenchGate.Json
