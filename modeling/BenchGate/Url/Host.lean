import BenchGate.Text.Percent
import BenchGate.Url.Domain.Basic

/-!
# Hosts

The host of an address is a domain, an IPv4 number, or an IPv6 number in square brackets.
`Host.isValid` says whether a text is one. A domain may be percent-encoded and international; what
counts is its form in ASCII.
-/

namespace BenchGate.Url.Host

/-- The characters no host can hold. -/
def isForbidden (c : Char) : Bool :=
  c ∈ ['\x00', '\t', '\n', '\r', ' ', '#', '/', ':', '<', '>', '?', '@', '[', '\\', ']', '^', '|']

/-- The ASCII characters no domain can hold. -/
def isForbiddenInDomain (c : Char) : Bool :=
  isForbidden c || c.toNat < 0x20 || c = '%' || c = '\x7f'

/-! ## IPv4 -/

/-- A part of an IPv4 number: hexadecimal after `0x`, octal after `0`, else decimal. -/
def ipv4Part? (part : List Char) : Option Nat :=
  match part with
  | [] => none
  | '0' :: 'x' :: digits | '0' :: 'X' :: digits => Hex.natOf? digits
  | '0' :: c :: digits =>
    if (c :: digits).all fun d => '0' ≤ d ∧ d ≤ '7' then some (Nat.ofDigitChars 8 (c :: digits) 0)
    else none
  | digits => if digits.all Char.isDigit then some (Nat.ofDigitChars 10 digits 0) else none

/-- The parts of a host; a point at the end gives no part. -/
def parts (host : List Char) : List (List Char) :=
  match (host.splitOn '.').reverse with
  | [] :: last :: rest => (last :: rest).reverse
  | all => all.reverse

/-- Whether the last part is a number, so that the host has to be an IPv4 number. -/
def endsInNumber (host : List Char) : Bool :=
  match (parts host).getLast? with
  | none | some [] => false
  | some last => last.all Char.isDigit || (ipv4Part? last).isSome

/-- Whether a host is an IPv4 number: at most four parts, each one byte, the last filling up the
bytes that are left. -/
def isIPv4 (host : List Char) : Bool :=
  let all := parts host
  match all.mapM ipv4Part? with
  | none => false
  | some numbers =>
    numbers.length ≤ 4 && numbers.dropLast.all (· ≤ 255) &&
      numbers.getLast?.all (· < Nat.pow 256 (5 - numbers.length))

/-! ## IPv6 -/

/-- Whether a text is one byte in decimal without zeros in front. -/
def isDecimalByte (text : List Char) : Bool :=
  text ≠ [] && text.all Char.isDigit && (text.length = 1 || text.head? ≠ some '0') &&
    Nat.ofDigitChars 10 text 0 ≤ 255

/-- How many 16-bit pieces a group stands for: a group of hexadecimal digits one, four decimal
bytes two, anything else none. -/
def pieces? (isLast : Bool) (group : List Char) : Option Nat :=
  if group ≠ [] ∧ group.length ≤ 4 ∧ (Hex.natOf? group).isSome then some 1
  else
    let bytes := group.splitOn '.'
    if isLast ∧ bytes.length = 4 ∧ bytes.all isDecimalByte then some 2 else none

/-- The pieces of groups between colons; `atEnd` says whether they end the address. -/
def countPieces? (atEnd : Bool) (text : List Char) : Option Nat :=
  if text = [] then some 0
  else
    let groups := (text.splitOn ':').reverse
    match groups with
    | [] => some 0
    | last :: before => do
      let n ← pieces? atEnd last
      let counts ← before.mapM (pieces? false)
      some (counts.foldl (· + ·) n)

/-- The texts before and after the first double colon. -/
def splitDoubleColon : List Char → Option (List Char × List Char)
  | [] => none
  | ':' :: ':' :: rest => some ([], rest)
  | c :: rest => (splitDoubleColon rest).map fun (before, after) => (c :: before, after)

/-- Whether a text is an IPv6 number: eight pieces, or fewer around one double colon. -/
def isIPv6 (text : List Char) : Bool :=
  match splitDoubleColon text with
  | none => countPieces? true text == some 8
  | some (before, after) =>
    match countPieces? false before, countPieces? true after with
    | some m, some n => m + n ≤ 7
    | _, _ => false

/-! ## Domains -/

/-- Whether a text is a domain or an IPv4 number. -/
def isDomain (text : List Char) : Bool :=
  match Domain.ascii? (Utf8.decodeFrom .start (Percent.decodeBytes text)) with
  | none => false
  | some domain =>
    domain ≠ [] && !domain.any isForbiddenInDomain && (!endsInNumber domain || isIPv4 domain)

/-- Whether a text is the host of an address. Only the addresses of the known network schemes
have domains; others have hosts of any characters that are not forbidden. -/
def isValid (isNetwork : Bool) (text : List Char) : Bool :=
  match text with
  | '[' :: rest =>
    match rest.reverse with
    | ']' :: inner => isIPv6 inner.reverse
    | _ => false
  | _ => if isNetwork then isDomain text else !text.any isForbidden

end BenchGate.Url.Host
