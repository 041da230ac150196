import BenchGate.Text.Hex
import BenchGate.Yaml.Token.Scalar

/-!
# Plain and quoted scalars

A line break in a plain or quoted scalar is a space, and each blank line after it is a line
break; blanks around line breaks do not count. Single quotes are doubled inside single quotes;
double quotes have escapes.
-/

namespace BenchGate.Yaml.Scalar

/-- A line without a carriage return and blanks at its end. -/
def trimEnd (line : List Char) : List Char :=
  let line := if line.getLast? = some '\r' then line.dropLast else line
  (line.reverse.dropWhile isBlankChar).reverse

/-- Joins the lines after the first one; `breaks` blank lines came before them. -/
def foldRest (breaks : Nat) : List (List Char) → List Char
  | [] => []
  | [last] =>
    (if breaks = 0 then [' '] else List.replicate breaks '\n') ++ last.dropWhile isBlankChar
  | line :: rest =>
    match (trimEnd line).dropWhile isBlankChar with
    | [] => foldRest (breaks + 1) rest
    | content =>
      (if breaks = 0 then [' '] else List.replicate breaks '\n') ++ content ++ foldRest 0 rest

/-- Joins the lines of a scalar. -/
def fold (text : List Char) : List Char :=
  match splitLines text with
  | first :: rest => if rest.isEmpty then text else trimEnd first ++ foldRest 0 rest
  | [] => []

/-- Whether a plain scalar may begin with a character. -/
def mayBegin (c : Char) : Bool :=
  !(c = '\t' || c = ',' || c = '%' || c = '|' || c = '>' || c = '@' || c = '\x60')

/-- The value of a plain scalar. -/
def plain? (text : List Char) : Option (List Char) :=
  if text.head?.all mayBegin then some (fold text) else none

/-- One single quote for two. -/
def undouble : List Char → List Char
  | '\x27' :: '\x27' :: rest => '\x27' :: undouble rest
  | c :: rest => c :: undouble rest
  | [] => []

/-- The value of a single-quoted scalar, given with its quotes. -/
def single (text : List Char) : List Char := undouble (fold (text.drop 1).dropLast)

/-! ## Double quotes -/

/-- The code of an escape of one character. -/
def escapeCode? (c : Char) : Option Nat :=
  match c with
  | '0' => some 0
  | 'a' => some 7
  | 'b' => some 8
  | 'e' => some 0x1b
  | 'f' => some 0xc
  | 'n' => some 0xa
  | 'r' => some 0xd
  | 't' => some 9
  | 'v' => some 0xb
  | 'N' => some 0x85
  | '_' => some 0xa0
  | 'L' => some 0x2028
  | 'P' => some 0x2029
  | ' ' => some 0x20
  | '"' => some 0x22
  | '/' => some 0x2f
  | '\\' => some 0x5c
  | '\t' => some 9
  | _ => none

/-- How many hexadecimal digits follow the letter of an escape. -/
def escapeDigits? (c : Char) : Option Nat :=
  if c = 'x' then some 2 else if c = 'u' then some 4 else if c = 'U' then some 8 else none

/-- The code of an escape by number. -/
def numberedCode? (digits : Nat) (text : List Char) : Option Nat :=
  if digits ≤ text.length then (Hex.natOf? (text.take digits)).filter (· ≤ 0x10ffff) else none

/-- The line breaks that a line break and the blanks and line breaks after it stand for, and what
follows them. -/
def foldBreaks (breaks : Nat) : List Char → Nat × List Char
  | '\n' :: rest => foldBreaks (breaks + 1) rest
  | '\r' :: '\n' :: rest => foldBreaks (breaks + 1) rest
  | c :: rest => if isBlankChar c then foldBreaks breaks rest else (breaks, c :: rest)
  | [] => (breaks, [])

/-- Whether a line ends here. -/
def atBreak : List Char → Bool
  | '\n' :: _ => true
  | '\r' :: '\n' :: _ => true
  | _ => false

/-- The codes of a double-quoted scalar, given without its quotes; `fuel` bounds its length. -/
def doubleCodes? : (fuel : Nat) → List Char → Option (List Nat)
  | 0, text => if text.isEmpty then some [] else none
  | _ + 1, [] => some []
  | fuel + 1, c :: rest =>
    if atBreak (c :: rest) then
      let (breaks, rest) := foldBreaks 0 (c :: rest)
      let codes := if breaks ≤ 1 then [0x20] else List.replicate (breaks - 1) 0xa
      (doubleCodes? fuel rest).map (codes ++ ·)
    else if c = '\\' then
      match rest with
      | [] => none
      | d :: more =>
        if atBreak rest then
          let more := if d = '\r' then more.drop 1 else more
          doubleCodes? fuel (more.dropWhile isBlankChar)
        else
          match escapeCode? d, escapeDigits? d with
          | some code, _ => (doubleCodes? fuel more).map (code :: ·)
          | none, some digits => do
            let code ← numberedCode? digits more
            let codes ← doubleCodes? fuel (more.drop digits)
            return code :: codes
          | none, none => none
    else if isBlankChar c then
      let (blanks, more) := (c :: rest).span isBlankChar
      (doubleCodes? fuel more).map fun codes =>
        if atBreak more then codes else blanks.map Char.toNat ++ codes
    else (doubleCodes? fuel rest).map (c.toNat :: ·)

/-- The characters of codes: two surrogates are one character, and a surrogate without its
partner is the replacement character. -/
def charsOfCodes : List Nat → List Char
  | high :: low :: rest =>
    if 0xd800 ≤ high ∧ high < 0xdc00 ∧ 0xdc00 ≤ low ∧ low < 0xe000 then
      Char.ofNat (0x10000 + 1024 * (high - 0xd800) + (low - 0xdc00)) :: charsOfCodes rest
    else
      (if 0xd800 ≤ high ∧ high < 0xe000 then '\ufffd' else Char.ofNat high) ::
        charsOfCodes (low :: rest)
  | [code] => [if 0xd800 ≤ code ∧ code < 0xe000 then '\ufffd' else Char.ofNat code]
  | [] => []

/-- The value of a double-quoted scalar, given with its quotes. -/
def double? (text : List Char) : Option (List Char) :=
  (doubleCodes? text.length (text.drop 1).dropLast).map charsOfCodes

end BenchGate.Yaml.Scalar
