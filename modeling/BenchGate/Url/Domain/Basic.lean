import BenchGate.Url.Domain.Composition
import BenchGate.Url.Domain.Label
import BenchGate.Url.Domain.Mapping
import BenchGate.Url.Punycode

/-!
# Domains in ASCII

A domain may have characters beyond ASCII; `ascii?` is the form in which it is looked up. The
characters are mapped and composed, and every label with others than ASCII is written as `xn--`
and its Punycode. A label that has that form already has to stand for one that could be written
so.
-/

namespace BenchGate.Url.Domain

/-- What begins a label in Punycode. -/
def punycodeMark : List Char := "xn--".toList

/-- Whether a text is the label that is read from itself: mapping and composing leave it alone. -/
def isSettled (label : List Char) : Bool :=
  isLabel label && map? label = some label && compose label = label

/-- The form of a label in ASCII. -/
def asciiLabel? (label : List Char) : Option (List Char) :=
  if punycodeMark.isPrefixOf label then do
    guard (label.all isAscii)
    let text ← Punycode.decode? (label.drop punycodeMark.length)
    guard (isSettled text)
    return label
  else if label.all isAscii then some label
  else do
    guard (isLabel label)
    let code ← Punycode.encode? label
    return punycodeMark ++ code

/-- The form of a domain in ASCII; `none` if the text is no domain. -/
def ascii? (text : List Char) : Option (List Char) := do
  let mapped ← map? text
  let labels ← ((compose mapped).splitOn '.').mapM asciiLabel?
  return ['.'].intercalate labels

end BenchGate.Url.Domain
