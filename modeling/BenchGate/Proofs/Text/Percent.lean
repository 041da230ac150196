import Mathlib
import BenchGate.Proofs.Text.Utf8
import BenchGate.Text.Percent

/-!
# Percent-encoding reads back

`Percent.Encodes` is the grammar of one segment of an address, with the bytes that a segment stands
for: an unreserved character stands for its own byte, and a `%` with two hexadecimal digits for the
byte of that number. `Percent.encode` writes every text as a segment for its UTF-8 form
(`Percent.encodes_encode`), and `Percent.decode` reads it back (`Percent.decode_encode`), so that
different texts have different segments. No character that ends a segment occurs in one
(`Percent.Encodes.not_mem`).
-/

namespace BenchGate.Percent

/-- A segment of an address, and the bytes it stands for. -/
inductive Encodes : List Char → Bytes → Prop where
  | nil : Encodes [] []
  | unreserved {c : Char} {rest : List Char} {bytes : Bytes} (hc : isUnreserved c = true)
      (h : Encodes rest bytes) : Encodes (c :: rest) (UInt8.ofNat c.toNat :: bytes)
  | triple {high low : Char} {h l : Nat} {rest : List Char} {bytes : Bytes}
      (hhigh : Hex.value? high = some h) (hlow : Hex.value? low = some l)
      (hrest : Encodes rest bytes) :
      Encodes ('%' :: high :: low :: rest) (UInt8.ofNat (16 * h + l) :: bytes)

variable {chars chars' : List Char} {bytes bytes' : Bytes} {c : Char}

/-- Segments are put together like the bytes they stand for. -/
theorem Encodes.append (h : Encodes chars bytes) (h' : Encodes chars' bytes') :
    Encodes (chars ++ chars') (bytes ++ bytes') := by
  induction h with
  | nil => exact h'
  | unreserved hc _ ih => exact .unreserved hc ih
  | triple hhigh hlow _ ih => exact .triple hhigh hlow ih

/-- A segment is made of unreserved characters, `%` and hexadecimal digits. -/
theorem Encodes.not_mem (h : Encodes chars bytes) (hc : isUnreserved c = false) (hne : c ≠ '%')
    (hhex : Hex.value? c = none) : c ∉ chars := by
  have hdigit : ∀ {d : Char} {n : Nat}, Hex.value? d = some n → c ≠ d := by
    rintro d n hd rfl
    exact nomatch hhex.symm.trans hd
  induction h with
  | nil => exact List.not_mem_nil
  | unreserved hd _ ih =>
    refine List.not_mem_cons_of_ne_of_not_mem ?_ ih
    rintro rfl
    exact Bool.false_ne_true (hc.symm.trans hd)
  | triple hhigh hlow _ ih =>
    exact List.not_mem_cons_of_ne_of_not_mem hne
      (List.not_mem_cons_of_ne_of_not_mem (hdigit hhigh)
        (List.not_mem_cons_of_ne_of_not_mem (hdigit hlow) ih))

/-! ## Texts as segments -/

/-- Unreserved characters are of one byte. -/
theorem toNat_lt_of_isUnreserved (h : isUnreserved c = true) : c.toNat < 0x80 := by
  simp only [isUnreserved, Char.isAlphanum, Char.isAlpha, Char.isUpper, Char.isLower, Char.isDigit,
    Bool.or_eq_true, Bool.and_eq_true, decide_eq_true_eq, List.mem_cons, List.not_mem_nil,
    or_false, UInt32.le_iff_toNat_le] at h
  rcases h with ((⟨-, h⟩ | ⟨-, h⟩) | ⟨-, h⟩) | h
  · exact Nat.lt_of_le_of_lt h (by decide)
  · exact Nat.lt_of_le_of_lt h (by decide)
  · exact Nat.lt_of_le_of_lt h (by decide)
  · rcases h with rfl | rfl | rfl | rfl | rfl | rfl | rfl | rfl | rfl <;> decide

theorem value?_hexDigit : ∀ n < 16, Hex.value? (hexDigit n) = some n := by
  decide +kernel

/-- The triple of a byte stands for it. -/
theorem encodes_triple (b : UInt8) : Encodes (triple b) [b] := by
  have hb : b.toNat < 0x100 := b.toNat_lt
  have hbyte : UInt8.ofNat (16 * (b.toNat / 16) + b.toNat % 16) = b := by
    rw [Nat.div_add_mod, UInt8.ofNat_toNat]
  have htriple := Encodes.triple (value?_hexDigit (b.toNat / 16) (by omega))
    (value?_hexDigit (b.toNat % 16) (by omega)) .nil
  rwa [hbyte] at htriple

/-- The triples of some bytes stand for them. -/
theorem encodes_triples (bytes : Bytes) : Encodes (bytes.flatMap triple) bytes := by
  induction bytes with
  | nil => exact .nil
  | cons b bytes ih => exact (encodes_triple b).append ih

/-- A character is written as a segment for its UTF-8 form, reserved or not. -/
theorem encodes_encodeChar (c : Char) : Encodes (encodeChar c) (String.utf8EncodeChar c) := by
  unfold encodeChar
  split_ifs with hc
  · rw [Utf8.encodeChar_one (toNat_lt_of_isUnreserved hc)]
    exact .unreserved hc .nil
  · exact encodes_triples _

/-- A text is written as a segment for its UTF-8 form. -/
theorem encodes_encode (text : String) : Encodes (encode text).toList (Utf8.encode text) := by
  rw [encode, Utf8.encode, String.toList_ofList]
  induction text.toList with
  | nil => exact .nil
  | cons c chars ih => exact (encodes_encodeChar c).append ih

/-! ## Segments as texts -/

/-- What is not `%` stands for itself. -/
theorem decodeBytes_cons (h : c ≠ '%') :
    decodeBytes (c :: chars) = String.utf8EncodeChar c ++ decodeBytes chars := by
  rw [decodeBytes]
  rintro high low rest rfl
  exact absurd rfl h

/-- The bytes of a segment are read. -/
theorem Encodes.decodeBytes_eq (h : Encodes chars bytes) : decodeBytes chars = bytes := by
  induction h with
  | nil => rfl
  | @unreserved c rest bytes hc _ ih =>
    have hne : c ≠ '%' := by
      rintro rfl
      exact absurd hc (by decide)
    rw [decodeBytes_cons hne, ih, Utf8.encodeChar_one (toNat_lt_of_isUnreserved hc)]
    rfl
  | triple hhigh hlow _ ih => simp only [decodeBytes, hhigh, hlow, ih]

/-- A text reads back from its segment. -/
@[simp] theorem decode_encode (text : String) : decode (encode text) = text := by
  rw [decode, (encodes_encode text).decodeBytes_eq, Utf8.decode_encode]

/-- Different texts have different segments. -/
theorem encode_injective : Function.Injective encode :=
  Function.LeftInverse.injective decode_encode

end BenchGate.Percent
