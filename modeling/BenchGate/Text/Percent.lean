import BenchGate.Text.Hex
import BenchGate.Text.Utf8

/-!
# Percent-encoding

A text that is to be one segment of an address keeps its unreserved characters and writes every
byte of the others as `%XX` with upper-case digits. `decode` reads such a text back.
-/

namespace BenchGate.Percent

/-- The characters an address segment keeps: ASCII letters and digits and `-_.!~*'()`. -/
def isUnreserved (c : Char) : Bool :=
  c.isAlphanum || c ∈ ['-', '_', '.', '!', '~', '*', '\x27', '(', ')']

/-- A hexadecimal digit, letters upper-case. -/
def hexDigit (n : Nat) : Char := (Nat.digitChar n).toUpper

/-- A byte as `%XX`. -/
def triple (b : UInt8) : List Char := ['%', hexDigit (b.toNat / 16), hexDigit (b.toNat % 16)]

/-- One character of a segment. -/
def encodeChar (c : Char) : List Char :=
  if isUnreserved c then [c] else (String.utf8EncodeChar c).flatMap triple

/-- A text as one segment of an address. -/
def encode (text : String) : String := .ofList (text.toList.flatMap encodeChar)

/-- The bytes an encoded text stands for; `%` without two digits after it stands for itself. -/
def decodeBytes : List Char → Bytes
  | [] => []
  | '%' :: high :: low :: rest =>
    match Hex.value? high, Hex.value? low with
    | some h, some l => UInt8.ofNat (16 * h + l) :: decodeBytes rest
    | _, _ => String.utf8EncodeChar '%' ++ decodeBytes (high :: low :: rest)
  | c :: rest => String.utf8EncodeChar c ++ decodeBytes rest

/-- The text an encoded text stands for. -/
def decode (text : String) : String := Utf8.decode (decodeBytes text.toList)

end BenchGate.Percent
