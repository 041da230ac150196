import BenchGate.Proofs.Binary64.Machine

/-!
# Doubles as numbers

`Float.value` is the exact value of a double as a rational number; an infinity counts as
`± 2 ^ 1024`, the least power of two that no finite double has, so that one order serves all
doubles that are numbers. This module shows that packing a rounded number gives the double whose
value is `round` of it (`value_pack`).
-/

namespace BenchGate.Binary64

open Float.Model Float.Model.UnpackedFloat

/-! ## Packed numbers -/

/-- What a double unpacks to: a rounded number in the range of the exponents. -/
def IsDouble : UnpackedFloat → Prop
  | .finite s m e h => IsRounded (.finite s m e h) ∧ e ≤ 971
  | _ => True

/-- The overflow of packing: too large an exponent gives an infinity. -/
def clip : UnpackedFloat → UnpackedFloat
  | .finite s m e h => if 972 ≤ e then .infinity s else .finite s m e h
  | u => u

/-- What three fields unpack to, as numbers: the field of the exponent tells infinities, subnormal
and normal numbers apart. -/
theorem unpack_packComponents (s : Sign) (e : BitVec 11) (m : BitVec 52) :
    unpack .binary64 (packComponents .binary64 s e m) =
      if e = -1#11 then (if m = 0#52 then .infinity s else .notANumber)
      else if e = 0#11 then
        (if h : m = 0#52 then .zero s
          else .finite s m.toNat (-1074) (by simpa [BitVec.toNat_pos, BitVec.pos_iff_ne_zero]))
      else .finite s (2 ^ 52 + m.toNat) (e.toNat - 1075) (by positivity) := by
  have hone : (1#1 ++ m).toNat = 2 ^ 52 + m.toNat := by
    rw [BitVec.toNat_append, ← Nat.shiftLeft_add_eq_or_of_lt m.isLt]
    rfl
  have hbias : ((Format.binary64.exponentBias : ℕ) : ℤ) + (52 : ℕ) = 1075 := by decide
  unfold UnpackedFloat.unpack
  simp only [unpackMantissa_packComponents, unpackExponent_packComponents,
    unpackSign_packComponents, Sign.ofBitVec_toBitVec]
  split_ifs with h1 h2 h3 h4
  · rfl
  · rfl
  · rfl
  · subst h3
    rfl
  · congr 1

/-- Every bit pattern unpacks to a double. -/
theorem isDouble_unpack (b : BitVec 64) : IsDouble (UnpackedFloat.unpack .binary64 b) := by
  have hm : (@unpackMantissa .binary64 b).toNat < 2 ^ 52 := BitVec.isLt _
  have he : (@unpackExponent .binary64 b).toNat < 2048 := BitVec.isLt _
  have hone : (1#1 ++ @unpackMantissa .binary64 b).toNat =
      2 ^ 52 + (@unpackMantissa .binary64 b).toNat := by
    rw [BitVec.toNat_append, ← Nat.shiftLeft_add_eq_or_of_lt hm]
    rfl
  have hbias : ((Format.binary64.exponentBias : ℕ) : ℤ) + (52 : ℕ) = 1075 := by decide
  unfold UnpackedFloat.unpack
  simp only [hone, hbias]
  split_ifs with h1 h2 h3 h4
  · trivial
  · trivial
  · trivial
  · rw [h3]
    exact ⟨⟨by omega, by decide, .inr (by decide)⟩, by decide⟩
  · have h1' : (@unpackExponent .binary64 b).toNat ≠ 2047 :=
      fun h => h1 (BitVec.eq_of_toNat_eq h)
    have h3' : (@unpackExponent .binary64 b).toNat ≠ 0 :=
      fun h => h3 (BitVec.eq_of_toNat_eq h)
    exact ⟨⟨by omega, by omega, .inl (by omega)⟩, by omega⟩

/-- Packing keeps a rounded number, or overflows. -/
theorem unpack_pack {u : UnpackedFloat} (h : IsRounded u) :
    UnpackedFloat.unpack .binary64 (UnpackedFloat.pack .binary64 u) = clip u := by
  cases u with
  | notANumber => rfl
  | infinity s => cases s <;> rfl
  | zero s => cases s <;> rfl
  | finite s m e hpos =>
    obtain ⟨hlt, hlow, hfull⟩ := h
    have hbiased : (e + Format.binary64.exponentBias +
        Format.binary64.mantissaBitsWithoutImplicit).toNat = (e + 1075).toNat := by
      change (e + (1023 : ℕ) + (52 : ℕ)).toNat = _
      congr 1
      omega
    have hbits : Format.binary64.mantissaBits = 53 := by decide
    have hexp : (2 : ℕ) ^ Format.binary64.exponentBits = 2048 := by decide
    unfold UnpackedFloat.pack clip
    simp only [hbiased, hbits, hexp]
    by_cases hbig : 972 ≤ e
    · rw [if_pos (by omega), if_pos hbig, packedInfinity, unpack_packComponents]
      rfl
    rw [if_neg (by omega), if_neg hbig]
    rcases lt_or_ge m (2 ^ 52) with hm | hm
    · -- a subnormal number, which keeps all its bits in the field of the mantissa
      have hlog : m.log2 < 52 := (Nat.log2_lt hpos.ne').2 hm
      have hfield : (BitVec.ofNat 52 m).toNat = m := by
        rw [BitVec.toNat_ofNat, Nat.mod_eq_of_lt hm]
      have hne : BitVec.ofNat 52 m ≠ 0#52 := by
        intro h0
        rw [h0] at hfield
        exact hpos.ne hfield
      obtain rfl : e = -1074 := by omega
      rw [if_neg (by omega), unpack_packComponents, if_neg (by decide), if_pos rfl, dif_neg hne]
      congr 1
    · have hlog : m.log2 = 52 := (Nat.log2_eq_iff hpos.ne').2 ⟨hm, hlt⟩
      have hfield : (BitVec.ofNat 52 m).toNat = m - 2 ^ 52 := by
        rw [BitVec.toNat_ofNat]
        omega
      have hexpField : (BitVec.ofNat 11 (e + 1075).toNat).toNat = (e + 1075).toNat := by
        rw [BitVec.toNat_ofNat, Nat.mod_eq_of_lt (by omega)]
      have h1 : BitVec.ofNat 11 (e + 1075).toNat ≠ -1#11 := by
        intro h0
        rw [h0] at hexpField
        have : (-1#11).toNat = 2047 := by decide
        omega
      have h0 : BitVec.ofNat 11 (e + 1075).toNat ≠ 0#11 := by
        intro h0
        rw [h0] at hexpField
        have : (0#11).toNat = 0 := rfl
        omega
      rw [if_pos (by omega), unpack_packComponents, if_neg h1, if_neg h0]
      congr 1 <;> omega

/-! ## Values -/

theorem mul_zpow_pos {m : ℕ} (hm : 0 < m) (e : ℤ) : (0 : ℚ) < m * 2 ^ e :=
  mul_pos (by exact_mod_cast hm) (zpow_pos (by norm_num) e)

/-- A mantissa of 53 places is not below the least one in a smaller place. -/
theorem le_mul_zpow {m : ℕ} {e t : ℤ} (hm : 2 ^ 52 ≤ m) (he : t ≤ e) :
    (2 : ℚ) ^ 52 * 2 ^ t ≤ m * 2 ^ e := by
  calc (2 : ℚ) ^ 52 * 2 ^ t ≤ 2 ^ 52 * 2 ^ e :=
        mul_le_mul_of_nonneg_left (zpow_le_zpow_right₀ (by norm_num) he) (by norm_num)
    _ ≤ m * 2 ^ e :=
        mul_le_mul_of_nonneg_right (by exact_mod_cast hm) (zpow_pos (by norm_num) e).le

/-- A mantissa of 53 places is below the least one in a larger place. -/
theorem mul_zpow_lt {m : ℕ} {e t : ℤ} (hm : m < 2 ^ 53) (he : e < t) :
    (m : ℚ) * 2 ^ e < 2 ^ 52 * 2 ^ t := by
  calc (m : ℚ) * 2 ^ e < 2 ^ 53 * 2 ^ e :=
        mul_lt_mul_of_pos_right (by exact_mod_cast hm) (zpow_pos (by norm_num) e)
    _ = 2 ^ 52 * 2 ^ (e + 1) := by rw [zpow_add₀ (by norm_num : (2 : ℚ) ≠ 0)]; ring
    _ ≤ 2 ^ 52 * 2 ^ t :=
        mul_le_mul_of_nonneg_left (zpow_le_zpow_right₀ (by norm_num) (by omega)) (by norm_num)

/-- The overflow is the least mantissa of 53 places in the first place that no double has. -/
theorem overflow_eq : overflow = 2 ^ 52 * 2 ^ (972 : ℤ) := by
  rw [overflow, show (972 : ℤ) = (972 : ℕ) from rfl, zpow_natCast, ← pow_add]

/-- A finite double is below the overflow. -/
theorem abs_unpackedValue_lt {u : UnpackedFloat} (hu : IsDouble u) (hfin : u.isFinite = true) :
    |unpackedValue u| < overflow := by
  cases u with
  | notANumber | infinity => simp [UnpackedFloat.isFinite] at hfin
  | zero s => simpa [unpackedValue] using overflow_pos
  | finite s m e hm =>
    obtain ⟨⟨hlt, -, -⟩, hexp⟩ := hu
    rw [unpackedValue, abs_signed, abs_of_pos (mul_zpow_pos hm e), overflow_eq]
    exact mul_zpow_lt hlt (by omega)

theorem abs_unpackedValue_infinity (s : Sign) : |unpackedValue (.infinity s)| = overflow := by
  rw [unpackedValue, abs_signed, abs_of_pos overflow_pos]

/-- Packing a rounded number gives the value of `round`. -/
theorem unpackedValue_clip {u : UnpackedFloat} {q : ℚ} (h : Rounds u q) :
    unpackedValue (clip u) = round q := by
  obtain ⟨hfin, hrounded, hvalue⟩ := h
  -- without an overflow packing changes nothing
  have hkept : IsDouble u → unpackedValue u = round q := fun hu => by
    have hlt := abs_unpackedValue_lt hu hfin
    rw [hvalue] at hlt
    rw [hvalue, round_eq_nearest hlt.le]
  cases u with
  | notANumber | infinity => simp [UnpackedFloat.isFinite] at hfin
  | zero s => exact hkept trivial
  | finite s m e hm =>
    have hfull : 2 ^ 52 ≤ m ∨ e = -1074 := hrounded.2.2
    simp only [clip]
    split_ifs with hbig
    · have hnearest : nearest (signed s q) = m * 2 ^ e := by
        rw [nearest_signed, ← hvalue, unpackedValue, signed_signed]
      have hover : overflow ≤ nearest (signed s q) := by
        rw [hnearest, overflow_eq]
        exact le_mul_zpow (by omega) hbig
      rw [unpackedValue, ← round_eq_overflow_of_le_nearest hover, ← round_signed, signed_signed]
    · exact hkept ⟨hrounded, by omega⟩

/-- The value of an exact view; an infinity counts as the overflow. -/
def toRat : Binary64 → ℚ
  | .nan => 0
  | .infinite negative => if negative then -overflow else overflow
  | .finite negative mantissa exponent =>
    if negative then -(mantissa * 2 ^ exponent) else mantissa * 2 ^ exponent

theorem quotient_snd_pos (mantissa : ℕ) (exponent : ℤ) : 0 < (quotient mantissa exponent).2 :=
  Nat.pow_pos (by norm_num)

/-- A mantissa with an exponent is the quotient of its two natural numbers. -/
theorem quotient_eq (mantissa : ℕ) (exponent : ℤ) :
    ((quotient mantissa exponent).1 : ℚ) / (quotient mantissa exponent).2 =
      mantissa * 2 ^ exponent := by
  simp only [quotient, Nat.pow_eq, Nat.cast_mul, Nat.cast_pow, Nat.cast_ofNat]
  rcases le_total 0 exponent with h | h
  · obtain ⟨k, rfl⟩ := Int.eq_ofNat_of_zero_le h
    simp
  · obtain ⟨k, hk⟩ := Int.eq_ofNat_of_zero_le (neg_nonneg.2 h)
    obtain rfl : exponent = -(k : ℤ) := by omega
    simp [div_eq_mul_inv]

end BenchGate.Binary64

namespace Float

open BenchGate BenchGate.Binary64 Float.Model Float.Model.UnpackedFloat

/-- The exact value of a double; an infinity counts as the overflow. -/
def value (x : Float) : ℚ := (ofFloat x).toRat

theorem value_eq (x : Float) : x.value = unpackedValue x.toModel.unpack := by
  unfold value ofFloat
  cases x.toModel.unpack with
  | notANumber => rfl
  | infinity s | zero s | finite s m e h => cases s <;> simp [toRat, unpackedValue, signed]

theorem isDouble_toModel (x : Float) : IsDouble x.toModel.unpack :=
  isDouble_unpack _

/-- The double that the result of an operation is packed to. -/
theorem value_pack {u : UnpackedFloat} {q : ℚ} (h : Rounds u q) :
    (Float.ofModel (Float.Model.pack u)).value = Binary64.round q ∧
      (Float.ofModel (Float.Model.pack u)).isNaN = false := by
  have hunpack : (Float.ofModel (Float.Model.pack u)).toModel.unpack = clip u :=
    unpack_pack h.isRounded
  refine ⟨by rw [value_eq, hunpack, unpackedValue_clip h], ?_⟩
  change (Float.ofModel (Float.Model.pack u)).toModel.unpack.isNaN = false
  rw [hunpack]
  have hfin := h.isFinite
  cases u with
  | notANumber | infinity => simp [UnpackedFloat.isFinite] at hfin
  | zero s => rfl
  | finite s m e hm =>
    simp only [clip]
    split_ifs <;> rfl

end Float
