import Mathlib.Data.Char
import BenchGate.Text.Utf16

/-!
# Texts of UTF-16 units

`Utf16.pieces` puts the characters of units together again. The pieces of a text are its characters
(`Utf16.pieces_units`), so that a text is given back by its units; whatever the units are, their
pieces hold all of them in order (`Utf16.flatMap_pieces`).
-/

namespace BenchGate.Utf16

variable {unit : UInt16} {units : List UInt16}

/-- A unit that no partner follows is a piece of its own. -/
theorem pieces_cons (h : IsHigh unit → ∀ low ∈ units.head?, ¬IsLow low) :
    pieces (unit :: units) = single unit :: pieces units := by
  cases units with
  | nil => rfl
  | cons low units => rw [pieces, if_neg fun hpair => h hpair.1 low rfl hpair.2]

theorem pieces_paired {high low : UInt16} (hhigh : IsHigh high) (hlow : IsLow low) :
    pieces (high :: low :: units) = .inl (paired high low) :: pieces units := by
  rw [pieces, if_pos ⟨hhigh, hlow⟩]

/-! ## Characters and their units -/

theorem toNat_toUInt16 {n : ℕ} (h : n < 0x10000) : n.toUInt16.toNat = n :=
  UInt16.toNat_ofNat_of_lt' h

/-- A character is no surrogate. -/
theorem toNat_bounds (c : Char) :
    c.toNat < 0x110000 ∧ (c.toNat < 0xd800 ∨ 0xe000 ≤ c.toNat) := by
  rcases c.valid with h | ⟨h, h'⟩
  · have hnat : c.toNat < 0xd800 := h
    omega
  · have hnat : 0xdfff < c.toNat ∧ c.toNat < 0x110000 := ⟨h, h'⟩
    omega

theorem toNat_ofNat {n : ℕ} (h : n < 0xd800 ∨ 0xe000 ≤ n ∧ n < 0x110000) :
    (Char.ofNat n).toNat = n := by
  have hvalid : n.isValidChar := h.imp_right fun h => ⟨by omega, h.2⟩
  rw [Char.ofNat, dif_pos hvalid]
  rfl

/-- A character of the basic plane is one unit, which is no surrogate. -/
theorem unitsOfChar_of_lt {c : Char} (h : c.toNat < 0x10000) :
    unitsOfChar c = [c.toNat.toUInt16] ∧ ¬IsHigh c.toNat.toUInt16 ∧ ¬IsLow c.toNat.toUInt16 := by
  have hbounds := (toNat_bounds c).2
  unfold IsHigh IsLow
  rw [toNat_toUInt16 h]
  exact ⟨if_pos h, by omega, by omega⟩

/-- Any other character is a pair of surrogates. -/
theorem unitsOfChar_of_le {c : Char} (h : 0x10000 ≤ c.toNat) :
    ∃ high low, unitsOfChar c = [high, low] ∧ IsHigh high ∧ IsLow low ∧ paired high low = c := by
  have hlt := (toNat_bounds c).1
  refine ⟨_, _, if_neg (not_lt.2 h), ?_⟩
  unfold IsHigh IsLow paired
  rw [toNat_toUInt16 (by omega), toNat_toUInt16 (by omega)]
  refine ⟨by omega, by omega, ?_⟩
  have hnat : 0x10000 + 0x400 * (0xd800 + (c.toNat - 0x10000) / 0x400 - 0xd800) +
      (0xdc00 + (c.toNat - 0x10000) % 0x400 - 0xdc00) = c.toNat := by omega
  rw [hnat, Char.ofNat_toNat]

/-- The units of a character are one piece, this character. -/
theorem pieces_unitsOfChar (c : Char) (units : List UInt16) :
    pieces (unitsOfChar c ++ units) = .inl c :: pieces units := by
  rcases lt_or_ge c.toNat 0x10000 with hbasic | hbasic
  · obtain ⟨heq, hhigh, hlow⟩ := unitsOfChar_of_lt hbasic
    rw [heq, List.singleton_append, pieces_cons fun h => absurd h hhigh, single,
      if_neg (not_or.2 ⟨hhigh, hlow⟩), toNat_toUInt16 hbasic, Char.ofNat_toNat]
  · obtain ⟨high, low, heq, hhigh, hlow, hpaired⟩ := unitsOfChar_of_le hbasic
    rw [heq, List.cons_append, List.singleton_append, pieces_paired hhigh hlow, hpaired]

/-- The pieces of a text are its characters. -/
theorem pieces_units (text : String) : pieces (Utf16.units text) = text.toList.map .inl := by
  unfold Utf16.units
  induction text.toList with
  | nil => rfl
  | cons c chars ih => rw [List.flatMap_cons, pieces_unitsOfChar, ih, List.map_cons]

/-- A text is given back by its units. -/
@[simp]
theorem decode_units (text : String) : decode (Utf16.units text) = text := by
  rw [decode, pieces_units, List.map_map, Sum.elim_comp_inl, List.map_id, String.ofList_toList]

theorem units_injective : Function.Injective Utf16.units :=
  Function.LeftInverse.injective decode_units

/-! ## Pieces and their units -/

/-- The units of a piece. -/
def unitsOfPiece : Char ⊕ UInt16 → List UInt16 := Sum.elim unitsOfChar fun unit => [unit]

/-- The character of two surrogates has these as its units. -/
theorem unitsOfChar_paired {high low : UInt16} (hhigh : IsHigh high) (hlow : IsLow low) :
    unitsOfChar (paired high low) = [high, low] := by
  unfold IsHigh at hhigh
  unfold IsLow at hlow
  have hnat : (paired high low).toNat =
      0x10000 + 0x400 * (high.toNat - 0xd800) + (low.toNat - 0xdc00) := toNat_ofNat (by omega)
  have hdiv : 0xd800 + ((paired high low).toNat - 0x10000) / 0x400 = high.toNat := by omega
  have hmod : 0xdc00 + ((paired high low).toNat - 0x10000) % 0x400 = low.toNat := by omega
  unfold unitsOfChar
  simp only
  rw [if_neg (by omega), hdiv, hmod]
  simp

/-- A unit without a partner is the unit of its piece. -/
theorem unitsOfPiece_single (unit : UInt16) : unitsOfPiece (single unit) = [unit] := by
  unfold single
  split_ifs with h
  · rfl
  · obtain ⟨hhigh, hlow⟩ := not_or.1 h
    have hlt := unit.toNat_lt
    unfold IsHigh at hhigh
    unfold IsLow at hlow
    have hnat : (Char.ofNat unit.toNat).toNat = unit.toNat := toNat_ofNat (by omega)
    rw [unitsOfPiece, Sum.elim_inl, (unitsOfChar_of_lt (by omega)).1, hnat]
    simp

/-- The pieces of units hold all units in their order. -/
theorem flatMap_pieces (units : List UInt16) : (pieces units).flatMap unitsOfPiece = units := by
  fun_induction pieces units with
  | case1 => rfl
  | case2 unit => rw [List.flatMap_singleton, unitsOfPiece_single]
  | case3 high low units h ih =>
    rw [List.flatMap_cons, ih, unitsOfPiece, Sum.elim_inl, unitsOfChar_paired h.1 h.2,
      List.cons_append, List.singleton_append]
  | case4 high low units h ih =>
    rw [List.flatMap_cons, ih, unitsOfPiece_single, List.singleton_append]

end BenchGate.Utf16
