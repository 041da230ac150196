/-!
# Punycode

International labels of a host are written in ASCII as their ASCII characters and a sequence of
insertions, each a number in digits of varying weight. `Punycode.encode?` writes a label so and
`Punycode.decode?` reads it back. Both fail where a number gets too large.
-/

namespace BenchGate.Url.Punycode

/-- The value of a digit: letters are `0` to `25`, decimal digits `26` to `35`. -/
def digit? (c : Char) : Option Nat :=
  let n := c.toLower.toNat
  if 0x61 ≤ n ∧ n ≤ 0x7a then some (n - 0x61)
  else if 0x30 ≤ n ∧ n ≤ 0x39 then some (n - 0x30 + 26)
  else none

/-- The digit of a value. -/
def digitOf (value : Nat) : Char :=
  Char.ofNat (if value < 26 then 0x61 + value else 0x30 + (value - 26))

/-- The largest number. -/
def limit : Nat := 0x7fffffff

/-- The least digit value that ends a number at a place. -/
def threshold (place bias : Nat) : Nat :=
  if place ≤ bias then 1 else if bias + 26 ≤ place then 26 else place - bias

/-- How often a delta is divided before the next bias can be read off it. -/
def shrink (delta : Nat) : Nat × Nat :=
  if 455 < delta then
    let (rest, places) := shrink (delta / 35)
    (rest, places + 36)
  else (delta, 0)
termination_by delta
decreasing_by exact Nat.div_lt_self (by omega) (by omega)

/-- The bias after an insertion into a label of `size` characters. -/
def adapt (delta size : Nat) (isFirst : Bool) : Nat :=
  let scaled := if isFirst then delta / 700 else delta / 2
  let (rest, places) := shrink (scaled + scaled / size)
  places + 36 * rest / (rest + 38)

theorem threshold_pos (place bias : Nat) : 0 < threshold place bias := by
  unfold threshold
  split
  · omega
  · split <;> omega

/-! ## Reading -/

/-- Reads a number on top of `value`, and what follows it. -/
def readNumber? (bias weight place value : Nat) : List Char → Option (Nat × List Char)
  | [] => none
  | c :: rest => do
    let digit ← digit? c
    let value := value + digit * weight
    guard (value ≤ limit)
    let least := threshold place bias
    if digit < least then return (value, rest)
    let weight := weight * (36 - least)
    guard (weight ≤ limit)
    readNumber? bias weight (place + 36) value rest

/-- Performs the insertions; `fuel` bounds their number. -/
def insertAll? : (fuel : Nat) → (bias next position : Nat) → (done rest : List Char) →
    Option (List Char)
  | _, _, _, _, done, [] => some done
  | 0, _, _, _, _, _ => none
  | fuel + 1, bias, next, position, done, rest => do
    let (target, rest) ← readNumber? bias 1 36 position rest
    let size := done.length + 1
    let code := next + target / size
    let place := target % size
    if h : code.isValidChar then
      let bias := adapt (target - position) size (position = 0)
      insertAll? fuel bias code (place + 1)
        (done.take place ++ Char.ofNatAux code h :: done.drop place) rest
    else none

/-- The text that a label stands for. -/
def decode? (label : List Char) : Option (List Char) :=
  let (tail, front) := label.reverse.span (· ≠ '-')
  insertAll? label.length 72 128 0 (front.drop 1).reverse tail.reverse

/-! ## Writing -/

/-- The digits of a number. -/
def writeNumber (bias place value : Nat) : List Char :=
  let least := threshold place bias
  if value < least then [digitOf value]
  else
    digitOf (least + (value - least) % (36 - least)) ::
      writeNumber bias (place + 36) ((value - least) / (36 - least))
termination_by value
decreasing_by
  have := threshold_pos place bias
  exact Nat.lt_of_le_of_lt (Nat.div_le_self _ _) (by omega)

/-- What is left of a walk over a label: the steps since the last insertion, the bias, how many
characters are written, and the digits. -/
structure Walk where
  delta : Nat
  bias : Nat
  written : Nat
  digits : List Char

/-- Passes a character while those with the number `code` are inserted. -/
def Walk.pass? (code : Nat) (w : Walk) (c : Char) : Option Walk :=
  if c.toNat < code then do
    guard (w.delta < limit)
    return { w with delta := w.delta + 1 }
  else if c.toNat = code then
    -- the first bias counts differently, and no insertion is before the first
    let isFirst := w.digits = []
    some
      { delta := 0
        bias := adapt w.delta (w.written + 1) isFirst
        written := w.written + 1
        digits := w.digits ++ writeNumber w.bias 36 w.delta }
  else some w

/-- Inserts the characters with each of the numbers; `next` is the first number not yet
inserted. -/
def writeAll? (label : List Char) : (next : Nat) → Walk → (codes : List Nat) → Option (List Char)
  | _, w, [] => some w.digits
  | next, w, code :: codes => do
    let delta := w.delta + (code - next) * (w.written + 1)
    guard (delta ≤ limit)
    let w ← label.foldlM (Walk.pass? code) { w with delta }
    writeAll? label (code + 1) { w with delta := w.delta + 1 } codes

/-- The label of a text. -/
def encode? (text : List Char) : Option (List Char) :=
  let basic := text.filter (·.toNat < 128)
  let codes := ((text.map Char.toNat).filter (128 ≤ ·)).mergeSort.eraseDups
  let walk : Walk := { delta := 0, bias := 72, written := basic.length, digits := [] }
  (writeAll? text 128 walk codes).map fun digits =>
    (if basic = [] then [] else basic ++ ['-']) ++ digits

example : encode? "bücher".toList = some "bcher-kva".toList := by
  decide +kernel

example : decode? "bcher-kva".toList = some "bücher".toList := by
  decide +kernel

end BenchGate.Url.Punycode
