/-!
# UTF-8 with repair

Files are bytes. `Utf8.encode` writes a text as UTF-8, and `Utf8.decode` reads any bytes as
text: where they are no UTF-8 it writes one replacement character for each maximal ill-formed
part, that is, for the longest run that could still have become a character. The decoder is a
machine that reads one byte at a time; a byte that cannot continue a character ends it and is
read again from the start.
-/

namespace BenchGate

/-- The content of a file. -/
abbrev Bytes := List UInt8

namespace Utf8

/-- The UTF-8 form of a text. -/
def encode (text : String) : Bytes := text.toList.flatMap String.utf8EncodeChar

/-- What stands for bytes that are no character. -/
def replacement : Char := '\ufffd'

/-- Between characters, or inside one: the bits read so far, how many bytes are owed, and the
range of the next. The range is narrower than `0x80 … 0xbf` after four of the first bytes, which
excludes overlong forms, surrogates and numbers above the last code point. -/
inductive State where
  | start
  | inside (bits owed low high : Nat)
deriving DecidableEq, Repr

/-- Reads the first byte of a character. -/
def first (b : Nat) : State × List Char :=
  if b < 0x80 then (.start, [Char.ofNat b])
  else if b < 0xc2 then (.start, [replacement])
  else if b < 0xe0 then (.inside (b - 0xc0) 1 0x80 0xbf, [])
  else if b = 0xe0 then (.inside 0 2 0xa0 0xbf, [])
  else if b = 0xed then (.inside 0xd 2 0x80 0x9f, [])
  else if b < 0xf0 then (.inside (b - 0xe0) 2 0x80 0xbf, [])
  else if b = 0xf0 then (.inside 0 3 0x90 0xbf, [])
  else if b < 0xf4 then (.inside (b - 0xf0) 3 0x80 0xbf, [])
  else if b = 0xf4 then (.inside 4 3 0x80 0x8f, [])
  else (.start, [replacement])

/-- Reads one byte; the second part is the characters it ends. -/
def step : State → Nat → State × List Char
  | .start, b => first b
  | .inside bits owed low high, b =>
    if low ≤ b ∧ b ≤ high then
      let bits := 64 * bits + (b - 0x80)
      if owed ≤ 1 then (.start, [Char.ofNat bits]) else (.inside bits (owed - 1) 0x80 0xbf, [])
    else
      let (next, chars) := first b
      (next, replacement :: chars)

/-- The characters of a byte sequence read from a state. -/
def decodeFrom : State → Bytes → List Char
  | .start, [] => []
  | .inside .., [] => [replacement]
  | state, b :: rest =>
    let (next, chars) := step state b.toNat
    chars ++ decodeFrom next rest

/-- The text of a byte sequence, repaired where it is no UTF-8. -/
def decode (bytes : Bytes) : String := .ofList (decodeFrom .start bytes)

end Utf8

end BenchGate
