import BenchGate.Text.Utf8

/-!
# Failures of file access

Why a file could not be read or written, and the text of each cause.
-/

namespace BenchGate

/-- Why a file could not be opened, read or written. A directory is opened for reading before it
is found to hold no text, so the two ways of meeting one differ. -/
inductive FileError where
  | missing
  | notDirectory
  | nameTooLong
  | directoryRead
  | directoryOpened
  | zeroCharacter
deriving DecidableEq, Repr

namespace FileError

/-- The quotation mark of a displayed text: single, unless the text holds single ones and one of
the other marks is free. -/
def displayMark (text : List Char) : Char :=
  if '\x27' ∉ text then '\x27'
  else if '"' ∉ text then '"'
  else if '\x60' ∉ text ∧ ('$', '\x7b') ∉ text.zip (text.drop 1) then '\x60'
  else '\x27'

/-- Two upper-case hexadecimal digits. -/
def hexPair (n : Nat) : List Char :=
  [(Nat.digitChar (n / 16)).toUpper, (Nat.digitChar (n % 16)).toUpper]

/-- A character of a displayed text: control characters, backslashes and the mark itself are
escaped. -/
def displayChar (mark c : Char) : List Char :=
  if c = '\\' then ['\\', '\\']
  else if c = '\x27' ∧ mark = '\x27' then ['\\', c]
  else if c = '\x08' then ['\\', 'b']
  else if c = '\t' then ['\\', 't']
  else if c = '\n' then ['\\', 'n']
  else if c = '\x0c' then ['\\', 'f']
  else if c = '\r' then ['\\', 'r']
  else if c.toNat < 0x20 ∨ (0x7f ≤ c.toNat ∧ c.toNat ≤ 0x9f) then '\\' :: 'x' :: hexPair c.toNat
  else [c]

/-- A text in quotation marks, cut after 128 characters. -/
def display (text : String) : String :=
  let mark := displayMark text.toList
  let shown := mark :: text.toList.flatMap (displayChar mark) ++ [mark]
  if shown.length > 128 then .ofList (shown.take 128 ++ ['.', '.', '.']) else .ofList shown

/-- The text of a failure at a path. -/
def message (path : String) : FileError → String
  | missing => "ENOENT: no such file or directory, open '" ++ path ++ "'"
  | notDirectory => "ENOTDIR: not a directory, open '" ++ path ++ "'"
  | nameTooLong => "ENAMETOOLONG: name too long, open '" ++ path ++ "'"
  | directoryRead => "EISDIR: illegal operation on a directory, read"
  | directoryOpened => "EISDIR: illegal operation on a directory, open '" ++ path ++ "'"
  | zeroCharacter =>
    "The argument 'path' must be a string, Uint8Array, or URL without null bytes. Received " ++
      display path

end FileError

end BenchGate
