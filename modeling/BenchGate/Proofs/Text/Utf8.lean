import Mathlib.Data.Char
import BenchGate.Text.Utf8

/-!
# UTF-8 reads back

`Utf8.decode` reads back what `Utf8.encode` writes (`Utf8.decode_encode`), so that different texts
have different bytes. The other way round, bytes that are read without a replacement character are
the UTF-8 form of the text that is read (`Utf8.encode_decode`). Both rest on the same cut of a
character's number into the six-bit parts its bytes carry.
-/

namespace BenchGate.Utf8

variable {c : Char} {rest : Bytes}

/-! ## The bytes of a character -/

/-- A character of one byte. -/
theorem encodeChar_one (h : c.toNat < 0x80) :
    String.utf8EncodeChar c = [UInt8.ofNat c.toNat] := by
  simp only [String.utf8EncodeChar, Char.toNat_val, Nat.le_of_lt_succ h, if_true]

/-- A character of two bytes. -/
theorem encodeChar_two {x y : Nat} (hx : 2 ≤ x) (hx' : x < 0x20) (hy : y < 0x40)
    (h : c.toNat = 64 * x + y) :
    String.utf8EncodeChar c = [UInt8.ofNat (x + 0xc0), UInt8.ofNat (y + 0x80)] := by
  have h₁ : ¬c.toNat ≤ 0x7f := by omega
  have h₂ : c.toNat ≤ 0x7ff := by omega
  have hfirst : c.toNat / 64 % 0x20 = x := by omega
  have hsecond : c.toNat % 0x40 = y := by omega
  simp only [String.utf8EncodeChar, Char.toNat_val, h₁, h₂, if_true, if_false, hfirst, hsecond]

/-- A character of three bytes. -/
theorem encodeChar_three {x y z : Nat} (hx : x < 0x10) (hy : y < 0x40) (hz : z < 0x40)
    (hmin : x = 0 → 0x20 ≤ y) (h : c.toNat = 64 * (64 * x + y) + z) :
    String.utf8EncodeChar c =
      [UInt8.ofNat (x + 0xe0), UInt8.ofNat (y + 0x80), UInt8.ofNat (z + 0x80)] := by
  have h₁ : ¬c.toNat ≤ 0x7f := by omega
  have h₂ : ¬c.toNat ≤ 0x7ff := by omega
  have h₃ : c.toNat ≤ 0xffff := by omega
  have hfirst : c.toNat / 4096 % 0x10 = x := by omega
  have hsecond : c.toNat / 64 % 0x40 = y := by omega
  have hthird : c.toNat % 0x40 = z := by omega
  simp only [String.utf8EncodeChar, Char.toNat_val, h₁, h₂, h₃, if_true, if_false, hfirst, hsecond,
    hthird]

/-- A character of four bytes. -/
theorem encodeChar_four {x y z w : Nat} (hx : x < 8) (hy : y < 0x40) (hz : z < 0x40)
    (hw : w < 0x40) (hmin : x = 0 → 0x10 ≤ y) (h : c.toNat = 64 * (64 * (64 * x + y) + z) + w) :
    String.utf8EncodeChar c =
      [UInt8.ofNat (x + 0xf0), UInt8.ofNat (y + 0x80), UInt8.ofNat (z + 0x80),
        UInt8.ofNat (w + 0x80)] := by
  have h₁ : ¬c.toNat ≤ 0x7f := by omega
  have h₂ : ¬c.toNat ≤ 0x7ff := by omega
  have h₃ : ¬c.toNat ≤ 0xffff := by omega
  have hfirst : c.toNat / 262144 % 8 = x := by omega
  have hsecond : c.toNat / 4096 % 0x40 = y := by omega
  have hthird : c.toNat / 64 % 0x40 = z := by omega
  have hfourth : c.toNat % 0x40 = w := by omega
  simp only [String.utf8EncodeChar, Char.toNat_val, h₁, h₂, h₃, if_false, hfirst, hsecond, hthird,
    hfourth]

/-! ## Steps of the reader -/

theorem first_one {b : Nat} (h : b < 0x80) : first b = (.start, [Char.ofNat b]) := if_pos h

theorem first_two : ∀ x < 0x20, 2 ≤ x → first (x + 0xc0) = (.inside x 1 0x80 0xbf, []) := by
  decide +kernel

theorem first_three : ∀ x < 0x10, first (x + 0xe0) =
    (.inside x 2 (if x = 0 then 0xa0 else 0x80) (if x = 0xd then 0x9f else 0xbf), []) := by
  decide +kernel

theorem first_four : ∀ x < 5, first (x + 0xf0) =
    (.inside x 3 (if x = 0 then 0x90 else 0x80) (if x = 4 then 0x8f else 0xbf), []) := by
  decide +kernel

/-- The other bytes begin nothing. -/
theorem first_other : ∀ b < 0x100, 0x80 ≤ b ∧ b < 0xc2 ∨ 0xf5 ≤ b →
    first b = (.start, [replacement]) := by
  decide +kernel

/-- One byte is one step. -/
theorem decodeFrom_cons (state : State) (b : UInt8) :
    decodeFrom state (b :: rest) =
      (step state b.toNat).2 ++ decodeFrom (step state b.toNat).1 rest := by
  cases state <;> rfl

theorem decodeFrom_start {n : Nat} {state : State} {chars : List Char} {b : UInt8}
    (hb : b.toNat = n) (h : first n = (state, chars)) :
    decodeFrom .start (b :: rest) = chars ++ decodeFrom state rest := by
  simp only [decodeFrom_cons, step, hb, h]

section

variable {bits owed low high y : Nat} {b : UInt8}

/-- The last byte of a character ends it. -/
theorem decodeFrom_last (hb : b.toNat = y + 0x80) (hlow : low ≤ y + 0x80)
    (hhigh : y + 0x80 ≤ high) :
    decodeFrom (.inside bits 1 low high) (b :: rest) =
      Char.ofNat (64 * bits + y) :: decodeFrom .start rest := by
  rw [decodeFrom_cons, step, hb, if_pos ⟨hlow, hhigh⟩, Nat.add_sub_cancel]
  rfl

/-- A byte inside a character adds its six bits. -/
theorem decodeFrom_inside (hb : b.toNat = y + 0x80) (hlow : low ≤ y + 0x80)
    (hhigh : y + 0x80 ≤ high) :
    decodeFrom (.inside bits (owed + 2) low high) (b :: rest) =
      decodeFrom (.inside (64 * bits + y) (owed + 1) 0x80 0xbf) rest := by
  have howed : ¬owed + 2 ≤ 1 := by omega
  rw [decodeFrom_cons, step, hb, if_pos ⟨hlow, hhigh⟩, if_neg howed, Nat.add_sub_cancel]
  rfl

/-- Where no byte continues the character, it is replaced. -/
theorem exists_of_not_mem_inside {bytes : Bytes} (hlow : 0x80 ≤ low)
    (h : replacement ∉ decodeFrom (.inside bits owed low high) bytes) :
    ∃ b rest y, bytes = b :: rest ∧ b.toNat = y + 0x80 ∧ low ≤ y + 0x80 ∧ y + 0x80 ≤ high := by
  cases bytes with
  | nil => simp [decodeFrom] at h
  | cons b rest =>
    have hb : low ≤ b.toNat ∧ b.toNat ≤ high := by
      by_contra hb
      simp [decodeFrom_cons, step, hb] at h
    exact ⟨b, rest, b.toNat - 0x80, rfl, by omega, by omega, by omega⟩

end

/-! ## What is written reads back -/

/-- A byte has its number. -/
theorem toNat_ofNat {x : Nat} (h : x < 0x100) : (UInt8.ofNat x).toNat = x :=
  UInt8.toNat_ofNat_of_lt' h

/-- A character is read from its bytes. -/
theorem decodeFrom_encodeChar (c : Char) (rest : Bytes) :
    decodeFrom .start (String.utf8EncodeChar c ++ rest) = c :: decodeFrom .start rest := by
  have hvalid : c.toNat < 0xd800 ∨ 0xdfff < c.toNat ∧ c.toNat < 0x110000 := c.valid
  have hchar : ∀ n, n = c.toNat → Char.ofNat n = c := fun n hn => hn ▸ Char.ofNat_toNat c
  rcases Nat.lt_or_ge c.toNat 0x80 with h₁ | h₁
  · rw [encodeChar_one h₁, List.singleton_append,
      decodeFrom_start (toNat_ofNat (by omega)) (first_one h₁), hchar _ rfl]
    rfl
  rcases Nat.lt_or_ge c.toNat 0x800 with h₂ | h₂
  · rw [encodeChar_two (x := c.toNat / 64) (y := c.toNat % 64) (by omega) (by omega) (by omega)
      (by omega)]
    simp only [List.cons_append, List.nil_append]
    rw [decodeFrom_start (toNat_ofNat (by omega)) (first_two _ (by omega) (by omega)),
      List.nil_append, decodeFrom_last (toNat_ofNat (by omega)) (by omega) (by omega),
      hchar _ (by omega)]
  rcases Nat.lt_or_ge c.toNat 0x10000 with h₃ | h₃
  · rw [encodeChar_three (x := c.toNat / 4096) (y := c.toNat / 64 % 64) (z := c.toNat % 64)
      (by omega) (by omega) (by omega) (by omega) (by omega)]
    simp only [List.cons_append, List.nil_append]
    rw [decodeFrom_start (toNat_ofNat (by omega)) (first_three _ (by omega)), List.nil_append,
      decodeFrom_inside (toNat_ofNat (by omega)) (by split_ifs <;> omega) (by split_ifs <;> omega),
      decodeFrom_last (toNat_ofNat (by omega)) (by omega) (by omega), hchar _ (by omega)]
  · rw [encodeChar_four (x := c.toNat / 262144) (y := c.toNat / 4096 % 64) (z := c.toNat / 64 % 64)
      (w := c.toNat % 64) (by omega) (by omega) (by omega) (by omega) (by omega) (by omega)]
    simp only [List.cons_append, List.nil_append]
    rw [decodeFrom_start (toNat_ofNat (by omega)) (first_four _ (by omega)), List.nil_append,
      decodeFrom_inside (toNat_ofNat (by omega)) (by split_ifs <;> omega) (by split_ifs <;> omega),
      decodeFrom_inside (toNat_ofNat (by omega)) (by omega) (by omega),
      decodeFrom_last (toNat_ofNat (by omega)) (by omega) (by omega), hchar _ (by omega)]

/-- A text is read from its bytes. -/
theorem decodeFrom_encode (chars : List Char) :
    decodeFrom .start (chars.flatMap String.utf8EncodeChar) = chars := by
  induction chars with
  | nil => rfl
  | cons c chars ih => rw [List.flatMap_cons, decodeFrom_encodeChar, ih]

/-- A text reads back from its bytes. -/
@[simp]
theorem decode_encode (text : String) : decode (encode text) = text := by
  rw [decode, encode, decodeFrom_encode, String.ofList_toList]

/-- Different texts have different bytes. -/
theorem encode_injective : Function.Injective encode :=
  Function.LeftInverse.injective decode_encode

/-! ## What is read without replacement -/

/-- A character has its number. -/
theorem toNat_charOfNat {n : Nat} (h : n < 0xd800 ∨ 0xdfff < n ∧ n < 0x110000) :
    (Char.ofNat n).toNat = n := by
  have hvalid : n.isValidChar := h
  rw [Char.ofNat, dif_pos hvalid]
  rfl

/-- A number has its byte. -/
theorem eq_ofNat {b : UInt8} {n : Nat} (h : b.toNat = n) : b = UInt8.ofNat n :=
  h ▸ UInt8.ofNat_toNat.symm

section
variable {b : UInt8} {x : Nat} (h : replacement ∉ decodeFrom .start (b :: rest))
include h

/-- A byte that begins two begins a character of two. -/
theorem exists_encodeChar_two (hb : b.toNat = x + 0xc0) (hx : 2 ≤ x) (hx' : x < 0x20) :
    ∃ c rest', b :: rest = String.utf8EncodeChar c ++ rest' := by
  rw [decodeFrom_start hb (first_two x hx' hx), List.nil_append] at h
  obtain ⟨b₁, rest, y, rfl, hb₁, hlow, hhigh⟩ := exists_of_not_mem_inside (Nat.le_refl _) h
  refine ⟨Char.ofNat (64 * x + y), rest, ?_⟩
  rw [encodeChar_two hx hx' (by omega) (toNat_charOfNat (.inl (by omega))), eq_ofNat hb,
    eq_ofNat hb₁]
  rfl

/-- A byte that begins three begins a character of three. The bounds on the second byte leave out
what two bytes can say, and the surrogates. -/
theorem exists_encodeChar_three (hb : b.toNat = x + 0xe0) (hx : x < 0x10) :
    ∃ c rest', b :: rest = String.utf8EncodeChar c ++ rest' := by
  rw [decodeFrom_start hb (first_three x hx), List.nil_append] at h
  obtain ⟨b₁, rest, y, rfl, hb₁, hlow₁, hhigh₁⟩ :=
    exists_of_not_mem_inside (by split_ifs <;> omega) h
  rw [decodeFrom_inside hb₁ hlow₁ hhigh₁] at h
  obtain ⟨b₂, rest, z, rfl, hb₂, -, hhigh₂⟩ := exists_of_not_mem_inside (Nat.le_refl _) h
  have hy : y < 0x40 ∧ (x = 0 → 0x20 ≤ y) ∧ (x = 0xd → y < 0x20) := by
    split_ifs at hlow₁ hhigh₁ <;> omega
  refine ⟨Char.ofNat (64 * (64 * x + y) + z), rest, ?_⟩
  rw [encodeChar_three hx hy.1 (by omega) hy.2.1 (toNat_charOfNat (by omega)), eq_ofNat hb,
    eq_ofNat hb₁, eq_ofNat hb₂]
  rfl

/-- A byte that begins four begins a character of four. The bounds on the second byte leave out what
three bytes can say, and what is no code point. -/
theorem exists_encodeChar_four (hb : b.toNat = x + 0xf0) (hx : x < 5) :
    ∃ c rest', b :: rest = String.utf8EncodeChar c ++ rest' := by
  rw [decodeFrom_start hb (first_four x hx), List.nil_append] at h
  obtain ⟨b₁, rest, y, rfl, hb₁, hlow₁, hhigh₁⟩ :=
    exists_of_not_mem_inside (by split_ifs <;> omega) h
  rw [decodeFrom_inside hb₁ hlow₁ hhigh₁] at h
  obtain ⟨b₂, rest, z, rfl, hb₂, hlow₂, hhigh₂⟩ := exists_of_not_mem_inside (Nat.le_refl _) h
  rw [decodeFrom_inside hb₂ hlow₂ hhigh₂] at h
  obtain ⟨b₃, rest, w, rfl, hb₃, -, hhigh₃⟩ := exists_of_not_mem_inside (Nat.le_refl _) h
  have hy : y < 0x40 ∧ (x = 0 → 0x10 ≤ y) ∧ (x = 4 → y < 0x10) := by
    split_ifs at hlow₁ hhigh₁ <;> omega
  refine ⟨Char.ofNat (64 * (64 * (64 * x + y) + z) + w), rest, ?_⟩
  rw [encodeChar_four (by omega) hy.1 (by omega) (by omega) hy.2.1 (toNat_charOfNat (by omega)),
    eq_ofNat hb, eq_ofNat hb₁, eq_ofNat hb₂, eq_ofNat hb₃]
  rfl

end

/-- Bytes that are read without replacement begin with a character. -/
theorem exists_encodeChar {bytes : Bytes} (hne : bytes ≠ [])
    (h : replacement ∉ decodeFrom .start bytes) :
    ∃ c rest, bytes = String.utf8EncodeChar c ++ rest := by
  obtain ⟨b, rest, rfl⟩ := List.exists_cons_of_ne_nil hne
  have hbyte : b.toNat < 0x100 := b.toNat_lt
  rcases Nat.lt_or_ge b.toNat 0x80 with h₁ | h₁
  · have hc := toNat_charOfNat (n := b.toNat) (.inl (by omega))
    refine ⟨Char.ofNat b.toNat, rest, ?_⟩
    rw [encodeChar_one (by rw [hc]; exact h₁), hc, ← eq_ofNat rfl]
    rfl
  by_cases hother : 0x80 ≤ b.toNat ∧ b.toNat < 0xc2 ∨ 0xf5 ≤ b.toNat
  · rw [decodeFrom_start rfl (first_other _ hbyte hother)] at h
    simp at h
  rcases Nat.lt_or_ge b.toNat 0xe0 with h₂ | h₂
  · exact exists_encodeChar_two (x := b.toNat - 0xc0) h (by omega) (by omega) (by omega)
  rcases Nat.lt_or_ge b.toNat 0xf0 with h₃ | h₃
  · exact exists_encodeChar_three (x := b.toNat - 0xe0) h (by omega) (by omega)
  · exact exists_encodeChar_four (x := b.toNat - 0xf0) h (by omega) (by omega)

/-- Bytes that are read without replacement are the bytes of the text. -/
theorem encode_decodeFrom {bytes : Bytes} (h : replacement ∉ decodeFrom .start bytes) :
    (decodeFrom .start bytes).flatMap String.utf8EncodeChar = bytes := by
  induction hlen : bytes.length using Nat.strong_induction_on generalizing bytes with
  | _ n ih =>
    by_cases hne : bytes = []
    · subst hne
      rfl
    obtain ⟨c, rest, rfl⟩ := exists_encodeChar hne h
    rw [decodeFrom_encodeChar] at h ⊢
    have hpos := c.utf8Size_pos
    rw [List.length_append, String.length_utf8EncodeChar] at hlen
    rw [List.flatMap_cons, ih rest.length (by omega) (List.not_mem_of_not_mem_cons h) rfl]

/-- Bytes that are read without replacement are the UTF-8 form of their text. -/
theorem encode_decode {bytes : Bytes} (h : replacement ∉ (decode bytes).toList) :
    encode (decode bytes) = bytes := by
  rw [decode, String.toList_ofList] at h
  rw [encode, decode, String.toList_ofList, encode_decodeFrom h]

end BenchGate.Utf8
