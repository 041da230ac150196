/-!
# UTF-16 units

Some lengths and distances of texts count UTF-16 units: a character beyond the basic plane is two
of them, which are called surrogates. Units need not come from a text: `pieces` puts characters
together again and leaves a surrogate without its partner as it is.
-/

namespace BenchGate.Utf16

/-- The units of a character. -/
def unitsOfChar (c : Char) : List UInt16 :=
  let n := c.toNat
  if n < 0x10000 then [n.toUInt16]
  else [(0xd800 + (n - 0x10000) / 0x400).toUInt16, (0xdc00 + (n - 0x10000) % 0x400).toUInt16]

/-- The units of a text. -/
def units (text : String) : List UInt16 := text.toList.flatMap unitsOfChar

/-- The first unit of a character beyond the basic plane. -/
def IsHigh (unit : UInt16) : Prop := 0xd800 ≤ unit.toNat ∧ unit.toNat < 0xdc00

/-- The second unit of such a character. -/
def IsLow (unit : UInt16) : Prop := 0xdc00 ≤ unit.toNat ∧ unit.toNat < 0xe000

instance : DecidablePred IsHigh := fun _ => inferInstanceAs (Decidable (_ ∧ _))

instance : DecidablePred IsLow := fun _ => inferInstanceAs (Decidable (_ ∧ _))

/-- The character of two units. -/
def paired (high low : UInt16) : Char :=
  .ofNat (0x10000 + 0x400 * (high.toNat - 0xd800) + (low.toNat - 0xdc00))

/-- What a unit without a partner is: a character, or a surrogate alone. -/
def single (unit : UInt16) : Char ⊕ UInt16 :=
  if IsHigh unit ∨ IsLow unit then .inr unit else .inl (.ofNat unit.toNat)

/-- The characters that units make up, in order, and the surrogates that are part of none. -/
def pieces : List UInt16 → List (Char ⊕ UInt16)
  | [] => []
  | [unit] => [single unit]
  | high :: low :: units =>
    if IsHigh high ∧ IsLow low then .inl (paired high low) :: pieces units
    else single high :: pieces (low :: units)

/-- The text of units, with a replacement character for each surrogate alone. -/
def decode (units : List UInt16) : String :=
  .ofList ((pieces units).map (Sum.elim id fun _ => '\ufffd'))

end BenchGate.Utf16
