import BenchGate.Url.Host

/-!
# Addresses

`Url.isValid` says whether a text is an absolute address: a scheme, and for the schemes of the
network a host. Blanks around the text and line breaks and tabs in it do not count. What follows
the host cannot make an address invalid.
-/

namespace BenchGate.Url

/-- The schemes whose addresses need a host. -/
def isNetworkScheme (scheme : List Char) : Bool :=
  String.ofList scheme ∈ ["http", "https", "ws", "wss", "ftp"]

/-- Whether a character ends the authority of an address; network addresses also end it at a
backslash. -/
def endsAuthority (isNetwork : Bool) (c : Char) : Bool :=
  c = '/' || c = '?' || c = '#' || (isNetwork && c = '\\')

/-- The text without control characters and spaces at its ends, and without tabs and line
breaks. -/
def clean (text : List Char) : List Char :=
  let outer (c : Char) : Bool := c.toNat ≤ 0x20
  (((text.dropWhile outer).reverse.dropWhile outer).reverse).filter fun c =>
    c ≠ '\t' ∧ c ≠ '\n' ∧ c ≠ '\r'

/-- The scheme, in lower case, and what follows its colon. -/
def splitScheme (text : List Char) : Option (List Char × List Char) :=
  match text with
  | [] => none
  | first :: _ =>
    if first.isAlpha then
      match text.span fun c => c.isAlphanum || c = '+' || c = '-' || c = '.' with
      | (scheme, ':' :: rest) => some (scheme.map Char.toLower, rest)
      | _ => none
    else none

/-- The host and the service number of an authority; a colon inside brackets is part of the
host. -/
def splitNumber : (inside : Bool) → List Char → List Char × Option (List Char)
  | _, [] => ([], none)
  | inside, c :: rest =>
    if c = ':' ∧ !inside then ([], some rest)
    else
      let inside := if c = '[' then true else if c = ']' then false else inside
      let (host, number) := splitNumber inside rest
      (c :: host, number)

/-- Whether a text is a service number: two bytes in decimal, or nothing. -/
def isServiceNumber (text : List Char) : Bool :=
  text.all Char.isDigit && Nat.ofDigitChars 10 text 0 ≤ 65535

/-- What follows the last at sign of an authority, if it has one. -/
def afterAt? (authority : List Char) : Option (List Char) :=
  match authority.reverse.span (· ≠ '@') with
  | (_, []) => none
  | (host, _) => some host.reverse

/-- Whether a text is an authority: a host that may be empty only outside the network, after
credentials never, and an optional service number. -/
def isAuthority (isNetwork : Bool) (authority : List Char) : Bool :=
  let place := (afterAt? authority).getD authority
  let (host, number) := splitNumber false place
  if host.isEmpty then
    !isNetwork && number.isNone && (afterAt? authority).isNone
  else Host.isValid isNetwork host && number.all isServiceNumber

/-- Whether a text is the part of a file address after two slashes: a drive, or a host that may
be empty. -/
def isFileHost (text : List Char) : Bool :=
  let host := text.takeWhile fun c => !endsAuthority true c
  match host with
  | [] => true
  | [letter, mark] => (letter.isAlpha && (mark = ':' || mark = '|')) || Host.isValid true host
  | _ => Host.isValid true host

/-- Whether a text is an absolute address. -/
def isValid (text : String) : Bool :=
  match splitScheme (clean text.toList) with
  | none => false
  | some (scheme, rest) =>
    let isSlash (c : Char) : Bool := c = '/' || c = '\\'
    if scheme = "file".toList then
      match rest with
      | a :: b :: host => if isSlash a ∧ isSlash b then isFileHost host else true
      | _ => true
    else if isNetworkScheme scheme then
      isAuthority true ((rest.dropWhile isSlash).takeWhile fun c => !endsAuthority true c)
    else
      match rest with
      | '/' :: '/' :: authority =>
        isAuthority false (authority.takeWhile fun c => !endsAuthority false c)
      | _ => true

end BenchGate.Url
