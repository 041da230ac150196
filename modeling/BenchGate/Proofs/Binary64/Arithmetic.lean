import BenchGate.Proofs.Binary64.Order

/-!
# The operations on doubles

Sum, difference, product and quotient of finite doubles are the exact results, rounded
(`Float.value_add` and its siblings). The laws of order that follow, `Float.add_le_add` and the
others, hold for doubles from zero on, an infinity among them: nothing there leaves the numbers.
-/

namespace BenchGate.Binary64

open Float.Model Float.Model.UnpackedFloat

/-! ## Unpacked numbers -/

theorem signed_neg (s : Sign) (q : ℚ) : signed (-s) q = -signed s q := by
  cases s
  · exact (neg_neg q).symm
  · rfl

theorem signed_mul (s t : Sign) (p q : ℚ) : signed (s * t) (p * q) = signed s p * signed t q := by
  cases s <;> cases t
  · exact (neg_mul_neg p q).symm
  · exact (neg_mul p q).symm
  · exact (mul_neg p q).symm
  · rfl

theorem signed_div (s t : Sign) (p q : ℚ) : signed (s / t) (p / q) = signed s p / signed t q := by
  cases s <;> cases t
  · exact (neg_div_neg_eq p q).symm
  · exact (neg_div q p).symm
  · exact (div_neg p).symm
  · rfl

/-- A double is its own rounding. -/
theorem rounds_self {u : UnpackedFloat} (hu : IsDouble u) (hfin : u.isFinite = true) :
    Rounds u (unpackedValue u) := by
  cases u with
  | notANumber | infinity => simp [UnpackedFloat.isFinite] at hfin
  | zero s => exact ⟨rfl, trivial, nearest_zero.symm⟩
  | finite s m e hm =>
    obtain ⟨⟨hlt, hlow, hfull⟩, hexp⟩ := hu
    refine ⟨rfl, ⟨hlt, hlow, hfull⟩, ?_⟩
    have hself : nearest ((m : ℚ) * 2 ^ e) = m * 2 ^ e := by
      simpa using nearest_mul_zpow (n := m) (e := e) (by exact_mod_cast hlt) hlow
    change signed s _ = nearest (signed s _)
    rw [nearest_signed, hself]

/-- A mantissa brought to a smaller exponent, with its sign. -/
theorem apply_decreaseExponent (s : Sign) (m : ℕ) {e t : ℤ} (h : t ≤ e) :
    ((s.apply (decreaseExponent m e t).1 : ℤ) : ℚ) * 2 ^ t = signed s (m * 2 ^ e) := by
  have hshift : (((decreaseExponent m e t).1 : ℕ) : ℚ) * 2 ^ t = m * 2 ^ e := by
    rw [← shiftLeft_mul_zpow m (e - t).toNat e, show e - ((e - t).toNat : ℤ) = t by omega]
    rfl
  cases s
  · simp only [Sign.apply, signed, Int.cast_neg, Int.cast_natCast, neg_mul, hshift]
  · simp only [Sign.apply, signed, Int.cast_natCast, hshift]

/-- The quotient of two positive numbers as the machine computes it. -/
theorem divCore_rounds (s : Sign) {m m' : ℕ} (hm : 0 < m) (hm' : 0 < m') (e e' : ℤ) :
    Rounds
      (roundWithAccuracy .binary64 s (divCore .binary64 m e m' e').1
        (divCore .binary64 m e m' e').2.1 (divCore .binary64 m e m' e').2.2)
      (signed s (m * 2 ^ e / (m' * 2 ^ e'))) := by
  obtain ⟨t, ht⟩ : ∃ t, min (e - e') (max ((m.log2 : ℤ) + e - (m'.log2 + e') - 53) (-1074)) = t :=
    ⟨_, rfl⟩
  have htarget : min (e - e')
      (Format.binary64.targetExponent (totalExponent m e - totalExponent m' e')) = t := by
    rw [← ht]
    simp only [Format.targetExponent, totalExponent, Format.mantissaBits, Format.minExponent]
    norm_num
    omega
  obtain ⟨k, hk⟩ : ∃ k : ℕ, (e - e' - t).toNat = k := ⟨_, rfl⟩
  have hlog : (m <<< k).log2 = m.log2 + k := log2_shiftLeft hm.ne' k
  have hvalue : (m : ℚ) * 2 ^ e / (m' * 2 ^ e') =
      (((m <<< k / m' : ℕ) : ℚ) + ((m <<< k % m' : ℕ) : ℚ) / m') * 2 ^ t := by
    have hdivmod : ((m <<< k / m' : ℕ) : ℚ) * m' + ((m <<< k % m' : ℕ) : ℚ) = (m <<< k : ℕ) := by
      exact_mod_cast Nat.div_add_mod' (m <<< k) m'
    have hne : (m' : ℚ) ≠ 0 := by exact_mod_cast hm'.ne'
    rw [← shiftLeft_mul_zpow m k e, ← hdivmod, show e - (k : ℤ) = e' + t by omega,
      zpow_add₀ (by norm_num : (2 : ℚ) ≠ 0)]
    field_simp
  have hplaces : t ≤ max (((m <<< k / m').log2 : ℤ) + t - 52) (-1074) := by
    by_cases hlow : t ≤ -1074
    · omega
    have hlt : m' < 2 ^ (m'.log2 + 1) := Nat.lt_log2_self
    have hle : 2 ^ (m'.log2 + 53) ≤ m <<< k :=
      le_trans (Nat.pow_le_pow_right (by norm_num) (by omega))
        (Nat.log2_self_le (n := m <<< k) (by simpa [Nat.shiftLeft_eq] using hm.ne'))
    have hquot : 2 ^ 52 ≤ m <<< k / m' := by
      rw [Nat.le_div_iff_mul_le hm']
      calc 2 ^ 52 * m' ≤ 2 ^ 52 * 2 ^ (m'.log2 + 1) := Nat.mul_le_mul_left _ hlt.le
        _ = 2 ^ (m'.log2 + 53) := by rw [← pow_add]; congr 1; omega
        _ ≤ m <<< k := hle
    have := (Nat.le_log2 (by omega)).2 hquot
    omega
  simp only [divCore, htarget, hk]
  rw [hvalue]
  exact roundWithAccuracy_rounds s (locates_fraction _ (Nat.mod_lt _ hm')) hplaces

section
variable {u v : UnpackedFloat} (hu : IsDouble u) (hv : IsDouble v)
  (hu' : u.isFinite = true) (hv' : v.isFinite = true)
include hu hv hu' hv'

/-- The sum of two doubles, rounded. -/
theorem add_rounds : Rounds (add .binary64 u v) (unpackedValue u + unpackedValue v) := by
  cases u with
  | notANumber | infinity => simp [UnpackedFloat.isFinite] at hu'
  | zero s =>
    cases v with
    | notANumber | infinity => simp [UnpackedFloat.isFinite] at hv'
    | zero t =>
      simp only [UnpackedFloat.add, unpackedValue, add_zero]
      split_ifs <;> exact ⟨rfl, trivial, nearest_zero.symm⟩
    | finite t m e hm =>
      rw [unpackedValue, zero_add]
      exact rounds_self hv hv'
  | finite s m e hm =>
    cases v with
    | notANumber | infinity => simp [UnpackedFloat.isFinite] at hv'
    | zero t =>
      simp only [unpackedValue, add_zero]
      exact rounds_self hu hu'
    | finite t m' e' hm' =>
      simp only [unpackedValue, ← apply_decreaseExponent s m (min_le_left e e'),
        ← apply_decreaseExponent t m' (min_le_right e e'), ← add_mul, ← Int.cast_add]
      exact normalize_rounds _ _ _

omit hu hv hu' hv' in
/-- A difference is the sum with the opposite. -/
theorem sub_eq_add : sub .binary64 u v = add .binary64 u v.neg := by
  cases u <;> cases v <;> try rfl
  rename_i s m e hm t m' e' hm'
  simp only [UnpackedFloat.sub, UnpackedFloat.add, UnpackedFloat.neg]
  congr 1
  cases t
  · exact Int.sub_neg _ _
  · exact Int.sub_eq_add_neg

omit hu hv hu' hv' in
theorem unpackedValue_neg : unpackedValue v.neg = -unpackedValue v := by
  cases v with
  | notANumber | zero => exact neg_zero.symm
  | infinity s | finite s => exact signed_neg s _

/-- The difference of two doubles, rounded. -/
theorem sub_rounds : Rounds (sub .binary64 u v) (unpackedValue u - unpackedValue v) := by
  have hneg : IsDouble v.neg ∧ v.neg.isFinite = true := by
    cases v with
    | notANumber | infinity => simp [UnpackedFloat.isFinite] at hv'
    | zero s => exact ⟨trivial, rfl⟩
    | finite s m e hm => exact ⟨hv, rfl⟩
  rw [sub_eq_add, sub_eq_add_neg, ← unpackedValue_neg]
  exact add_rounds hu hneg.1 hu' hneg.2

/-- The product of two doubles, rounded. One of the mantissas has 53 places unless both exponents
are least, and then the product is below every double. -/
theorem mul_rounds : Rounds (mul .binary64 u v) (unpackedValue u * unpackedValue v) := by
  cases u with
  | notANumber | infinity => simp [UnpackedFloat.isFinite] at hu'
  | zero s =>
    rw [unpackedValue, zero_mul]
    cases v with
    | notANumber | infinity => simp [UnpackedFloat.isFinite] at hv'
    | zero | finite => exact ⟨rfl, trivial, nearest_zero.symm⟩
  | finite s m e hm =>
    cases v with
    | notANumber | infinity => simp [UnpackedFloat.isFinite] at hv'
    | zero t =>
      simp only [unpackedValue, mul_zero]
      exact ⟨rfl, trivial, nearest_zero.symm⟩
    | finite t m' e' hm' =>
      obtain ⟨⟨-, hlow, hfull⟩, -⟩ := hu
      obtain ⟨⟨-, hlow', hfull'⟩, -⟩ := hv
      have hplaces : 2 ^ 52 ≤ m ∨ 2 ^ 52 ≤ m' → 52 ≤ (m * m').log2 := fun h =>
        (Nat.le_log2 (Nat.mul_pos hm hm').ne').2 <| h.elim
          (fun h => h.trans (Nat.le_mul_of_pos_right m hm'))
          (fun h => h.trans (Nat.le_mul_of_pos_left m' hm))
      have hexact : (m : ℚ) * 2 ^ e * (m' * 2 ^ e') = ((m * m' : ℕ) : ℚ) * 2 ^ (e + e') := by
        rw [zpow_add₀ (by norm_num : (2 : ℚ) ≠ 0)]
        push_cast
        ring
      rw [unpackedValue, unpackedValue, ← signed_mul, hexact]
      exact roundWithAccuracy_rounds _ (locates_exact _) (by omega)

/-- The quotient of two doubles, rounded. The dividend is given so many places that those of the
quotient are enough, and its remainder tells where the exact quotient lies. -/
theorem div_rounds (hzero : unpackedValue v ≠ 0) :
    Rounds (div .binary64 u v) (unpackedValue u / unpackedValue v) := by
  cases v with
  | notANumber | infinity => simp [UnpackedFloat.isFinite] at hv'
  | zero => exact absurd rfl hzero
  | finite t m' e' hm' =>
    cases u with
    | notANumber | infinity => simp [UnpackedFloat.isFinite] at hu'
    | zero s =>
      rw [unpackedValue, zero_div]
      exact ⟨rfl, trivial, nearest_zero.symm⟩
    | finite s m e hm =>
      rw [unpackedValue, unpackedValue, ← signed_div]
      exact divCore_rounds (s / t) hm hm' e e'

end

end BenchGate.Binary64

namespace Float

open BenchGate BenchGate.Binary64 Float.Model Float.Model.UnpackedFloat

variable {x y z w : Float}

/-! ## Finite doubles -/

section
variable (hx : x.isFinite = true) (hy : y.isFinite = true)
include hx hy

/-- A sum is the exact sum, rounded. -/
theorem value_add :
    (x + y).value = Binary64.round (x.value + y.value) ∧ (x + y).isNaN = false := by
  rw [value_eq x, value_eq y]
  exact value_pack (add_rounds (isDouble_toModel x) (isDouble_toModel y) hx hy)

/-- A difference is the exact difference, rounded. -/
theorem value_sub :
    (x - y).value = Binary64.round (x.value - y.value) ∧ (x - y).isNaN = false := by
  rw [value_eq x, value_eq y]
  exact value_pack (sub_rounds (isDouble_toModel x) (isDouble_toModel y) hx hy)

/-- A product is the exact product, rounded. -/
theorem value_mul :
    (x * y).value = Binary64.round (x.value * y.value) ∧ (x * y).isNaN = false := by
  rw [value_eq x, value_eq y]
  exact value_pack (mul_rounds (isDouble_toModel x) (isDouble_toModel y) hx hy)

/-- A quotient is the exact quotient, rounded. -/
theorem value_div (hzero : y.value ≠ 0) :
    (x / y).value = Binary64.round (x.value / y.value) ∧ (x / y).isNaN = false := by
  rw [value_eq y] at hzero
  rw [value_eq x, value_eq y]
  exact value_pack (div_rounds (isDouble_toModel x) (isDouble_toModel y) hx hy hzero)

end

/-! ## Infinity -/

/-- What an infinite result is packed to. -/
theorem ofModel_pack_infinity :
    Float.ofModel (Float.Model.pack (.infinity .positive)) = BenchGate.infinity :=
  toBits_inj.1 (by decide +kernel)

theorem unpack_infinity : BenchGate.infinity.toModel.unpack = .infinity .positive := by
  rw [← ofModel_pack_infinity]
  exact unpack_pack (u := .infinity .positive) trivial

/-- What unpacks to positive infinity is positive infinity. -/
theorem eq_infinity (h : x.toModel.unpack = .infinity .positive) : x = BenchGate.infinity := by
  have hpack : Float.ofModel (Float.Model.pack x.toModel.unpack) = x :=
    toBits_inj.1 (UInt64.toBitVec_inj.1 (pack_unpack_of_valid x.toModel.valid))
  rw [← hpack, h, ofModel_pack_infinity]

@[simp] theorem value_infinity : BenchGate.infinity.value = overflow := by
  rw [value_eq, unpack_infinity]
  rfl

@[simp] theorem isNaN_infinity : BenchGate.infinity.isNaN = false := by
  decide +kernel

/-- From zero on, a double that is not finite is infinity. -/
theorem isFinite_or_eq_infinity (h : 0 ≤ x) : x.isFinite = true ∨ x = BenchGate.infinity := by
  have hnonneg := nonneg_iff.1 h
  have hover := overflow_pos
  rw [value_eq] at hnonneg
  change x.toModel.unpack.isNaN = false ∧ _ at hnonneg
  change x.toModel.unpack.isFinite = true ∨ _
  cases hu : x.toModel.unpack with
  | notANumber => rw [hu] at hnonneg; cases hnonneg.1
  | zero | finite => exact .inl rfl
  | infinity s =>
    cases s with
    | positive => exact .inr (eq_infinity hu)
    | negative =>
      rw [hu] at hnonneg
      simp only [unpackedValue, signed] at hnonneg
      linarith [hnonneg.2]

/-- Every number is at most infinity. -/
theorem le_infinity (h : x.isNaN = false) : x ≤ BenchGate.infinity := by
  rw [le_iff, value_infinity]
  exact ⟨h, isNaN_infinity, (le_abs_self _).trans (abs_value_le x)⟩

/-- Infinity and a finite double add up to infinity. -/
theorem infinity_add (hx : x.isFinite = true) :
    BenchGate.infinity + x = BenchGate.infinity ∧ x + BenchGate.infinity = BenchGate.infinity := by
  change x.toModel.unpack.isFinite = true at hx
  change Float.ofModel (Float.Model.pack (UnpackedFloat.add _ _ _)) = _ ∧
    Float.ofModel (Float.Model.pack (UnpackedFloat.add _ _ _)) = _
  rw [unpack_infinity, ← ofModel_pack_infinity]
  cases hu : x.toModel.unpack with
  | notANumber | infinity => rw [hu] at hx; cases hx
  | zero | finite => exact ⟨rfl, rfl⟩

/-- A finite double above zero is a positive mantissa with an exponent. -/
theorem unpack_of_pos (hx : 0 < x) (hfin : x.isFinite = true) :
    ∃ m e h, x.toModel.unpack = .finite .positive m e h := by
  have hpos := (pos_iff.1 hx).2
  rw [value_eq] at hpos
  change x.toModel.unpack.isFinite = true at hfin
  cases hu : x.toModel.unpack with
  | notANumber | infinity => rw [hu] at hfin; cases hfin
  | zero => rw [hu] at hpos; exact absurd hpos (lt_irrefl 0)
  | finite s m e hm =>
    cases s with
    | positive => exact ⟨m, e, hm, rfl⟩
    | negative =>
      rw [hu] at hpos
      exact absurd (neg_pos.1 hpos) (mul_zpow_pos hm e).not_gt

/-- A finite double above zero times infinity is infinity. -/
theorem mul_infinity (hx : 0 < x) (hfin : x.isFinite = true) :
    x * BenchGate.infinity = BenchGate.infinity := by
  obtain ⟨m, e, h, hu⟩ := unpack_of_pos hx hfin
  change Float.ofModel (Float.Model.pack (UnpackedFloat.mul _ _ _)) = _
  rw [unpack_infinity, hu, ← ofModel_pack_infinity]
  rfl

/-- Infinity divided by a finite double above zero is infinity. -/
theorem infinity_div (hx : 0 < x) (hfin : x.isFinite = true) :
    BenchGate.infinity / x = BenchGate.infinity := by
  obtain ⟨m, e, h, hu⟩ := unpack_of_pos hx hfin
  change Float.ofModel (Float.Model.pack (UnpackedFloat.div _ _ _)) = _
  rw [unpack_infinity, hu, ← ofModel_pack_infinity]
  rfl

/-! ## The order of results -/

/-- The sum of two doubles from zero on, which may be infinite. -/
theorem value_add_of_nonneg (hx : 0 ≤ x) (hy : 0 ≤ y) :
    (x + y).value = Binary64.round (x.value + y.value) ∧ (x + y).isNaN = false := by
  obtain ⟨hx', hxv⟩ := nonneg_iff.1 hx
  obtain ⟨hy', hyv⟩ := nonneg_iff.1 hy
  have hinf : ∀ q, 0 ≤ q → overflow = Binary64.round (overflow + q) := fun q hq =>
    (round_eq_overflow (le_add_of_nonneg_right hq)).symm
  rcases isFinite_or_eq_infinity hx with hfin | rfl
  · rcases isFinite_or_eq_infinity hy with hfin' | rfl
    · exact value_add hfin hfin'
    · rw [(infinity_add hfin).2, value_infinity, add_comm]
      exact ⟨hinf _ hxv, isNaN_infinity⟩
  · rcases isFinite_or_eq_infinity hy with hfin' | rfl
    · rw [(infinity_add hfin').1, value_infinity]
      exact ⟨hinf _ hyv, isNaN_infinity⟩
    · rw [show BenchGate.infinity + BenchGate.infinity = BenchGate.infinity from
        toBits_inj.1 (by decide +kernel), value_infinity]
      exact ⟨hinf _ overflow_pos.le, isNaN_infinity⟩

protected theorem add_nonneg (hx : 0 ≤ x) (hy : 0 ≤ y) : 0 ≤ x + y := by
  obtain ⟨hvalue, hnum⟩ := value_add_of_nonneg hx hy
  refine nonneg_iff.2 ⟨hnum, ?_⟩
  rw [hvalue]
  exact round_nonneg (add_nonneg (nonneg_iff.1 hx).2 (nonneg_iff.1 hy).2)

/-- A sum grows with both terms. -/
protected theorem add_le_add (hx : 0 ≤ x) (hz : 0 ≤ z) (h : x ≤ y) (h' : z ≤ w) :
    x + z ≤ y + w := by
  obtain ⟨hvalue, hnum⟩ := value_add_of_nonneg hx hz
  obtain ⟨hvalue', hnum'⟩ := value_add_of_nonneg (Float.le_trans hx h) (Float.le_trans hz h')
  refine le_iff.2 ⟨hnum, hnum', ?_⟩
  rw [hvalue, hvalue']
  exact round_mono (add_le_add (le_iff.1 h).2.2 (le_iff.1 h').2.2)

/-- A difference of finite doubles grows with the first and falls with the second. -/
protected theorem sub_le_sub (hx : x.isFinite = true) (hy : y.isFinite = true)
    (hz : z.isFinite = true) (hw : w.isFinite = true) (h : x ≤ y) (h' : w ≤ z) :
    x - z ≤ y - w := by
  obtain ⟨hvalue, hnum⟩ := value_sub hx hz
  obtain ⟨hvalue', hnum'⟩ := value_sub hy hw
  refine le_iff.2 ⟨hnum, hnum', ?_⟩
  rw [hvalue, hvalue']
  exact round_mono (sub_le_sub (le_iff.1 h).2.2 (le_iff.1 h').2.2)

/-- A product of a finite double above zero and a factor above zero, which may be infinite, grows
with the double. -/
protected theorem mul_le_mul_right (hx : 0 < x) (h : x ≤ y) (hy : y.isFinite = true) (hz : 0 < z) :
    x * z ≤ y * z := by
  have hx' : x.isFinite = true := isFinite_of_le (Float.le_of_lt hx) h hy
  rcases isFinite_or_eq_infinity (Float.le_of_lt hz) with hfin | rfl
  · obtain ⟨hvalue, hnum⟩ := value_mul hx' hfin
    obtain ⟨hvalue', hnum'⟩ := value_mul hy hfin
    refine le_iff.2 ⟨hnum, hnum', ?_⟩
    rw [hvalue, hvalue']
    exact round_mono (mul_le_mul_of_nonneg_right (le_iff.1 h).2.2 (pos_iff.1 hz).2.le)
  · rw [mul_infinity hx hx', mul_infinity (Float.lt_of_lt_of_le hx h) hy]
    exact Float.le_refl isNaN_infinity

/-- A quotient by a finite double above zero is a number from zero on. -/
protected theorem div_nonneg (hx : 0 ≤ x) (hz : 0 < z) (hz' : z.isFinite = true) : 0 ≤ x / z := by
  have hpos := (pos_iff.1 hz).2
  rcases isFinite_or_eq_infinity hx with hfin | rfl
  · obtain ⟨hvalue, hnum⟩ := value_div hfin hz' hpos.ne'
    refine nonneg_iff.2 ⟨hnum, ?_⟩
    rw [hvalue]
    exact round_nonneg (div_nonneg (nonneg_iff.1 hx).2 hpos.le)
  · rwa [infinity_div hz hz']

/-- A quotient grows with the dividend and falls with the divisor. -/
protected theorem div_le_div (hx : 0 ≤ x) (h : x ≤ y) (hw : 0 < w) (h' : w ≤ z)
    (hz : z.isFinite = true) : x / z ≤ y / w := by
  have hw' : w.isFinite = true := isFinite_of_le (Float.le_of_lt hw) h' hz
  have hpos := (pos_iff.1 hw).2
  have hpos' := (pos_iff.1 (Float.lt_of_lt_of_le hw h')).2
  rcases isFinite_or_eq_infinity (Float.le_trans hx h) with hfin | rfl
  · obtain ⟨hvalue, hnum⟩ := value_div (isFinite_of_le hx h hfin) hz hpos'.ne'
    obtain ⟨hvalue', hnum'⟩ := value_div hfin hw' hpos.ne'
    refine le_iff.2 ⟨hnum, hnum', ?_⟩
    rw [hvalue, hvalue']
    have hy : 0 ≤ y.value := (nonneg_iff.1 (Float.le_trans hx h)).2
    exact round_mono (div_le_div₀ hy (le_iff.1 h).2.2 hpos (le_iff.1 h').2.2)
  · rw [infinity_div hw hw']
    have hquot := Float.div_nonneg hx (Float.lt_of_lt_of_le hw h') hz
    exact le_infinity (nonneg_iff.1 hquot).1

/-! ## Counts -/

section
variable {n : ℕ} (hn : n < 2 ^ 53)
include hn

theorem natCast_lt_overflow : |(n : ℚ)| < overflow := by
  rw [abs_of_nonneg (Nat.cast_nonneg n), overflow]
  exact_mod_cast hn.trans (Nat.pow_lt_pow_right (by norm_num) (by norm_num))

/-- A natural number of at most 53 binary digits rounds to itself. -/
theorem round_natCast : Binary64.round n = n := by
  have hle : |((n : ℤ) : ℚ) * 2 ^ (0 : ℤ)| ≤ overflow := by
    simpa using (natCast_lt_overflow hn).le
  simpa using round_eq_self (e := 0) (by exact_mod_cast hn) (by decide) hle

/-- A natural number of at most 53 binary digits is a double. -/
theorem value_toFloat : n.toUInt64.toFloat.value = n ∧ n.toUInt64.toFloat.isNaN = false := by
  have hrounds : Rounds (UnpackedFloat.ofUInt64 .binary64 n.toUInt64) (n : ℚ) := by
    have hnat : n.toUInt64.toNat = n := UInt64.toNat_ofNat_of_lt' (hn.trans (by norm_num))
    have := normalize_rounds (n : ℤ) 0 .positive
    rw [zpow_zero, mul_one, Int.cast_natCast] at this
    rwa [UnpackedFloat.ofUInt64, hnat]
  exact round_natCast hn ▸ value_pack hrounds

/-- The numeral of a natural number of at most 53 binary digits, which is the number times one. -/
theorem value_ofNat : (Float.ofNat n).value = n ∧ (Float.ofNat n).isNaN = false := by
  have hone : (Float.ofBits 0x3FF0000000000000).value = 1 ∧
      (Float.ofBits 0x3FF0000000000000).isFinite = true := by
    have h : ofFloat (Float.ofBits 0x3FF0000000000000) = .finite false (2 ^ 52) (-52) := by
      decide +kernel
    refine ⟨?_, by decide +kernel⟩
    rw [value, h]
    norm_num [toRat]
  have hfast : Float.ofNat n = n.toUInt64.toFloat * Float.ofBits 0x3FF0000000000000 := by
    change Float.ofScientific n false 0 = _
    rw [Float.ofScientific, dif_pos ⟨hn, by norm_num⟩]
    rfl
  obtain ⟨hvalue, hnum⟩ := value_toFloat hn
  have hfin : n.toUInt64.toFloat.isFinite = true :=
    isFinite_iff.2 ⟨hnum, hvalue ▸ natCast_lt_overflow hn⟩
  have hmul := value_mul hfin hone.2
  rwa [← hfast, hvalue, hone.1, mul_one, round_natCast hn] at hmul

end

section
variable {n m : ℕ}

/-- A count is exact up to the largest one. -/
theorem value_ofCount (n : ℕ) :
    (ofCount n).value = (min n largestCount : ℕ) ∧ (ofCount n).isNaN = false :=
  value_ofNat ((Nat.min_le_right _ _).trans_lt (by decide))

theorem isFinite_ofCount (n : ℕ) : (ofCount n).isFinite = true := by
  refine isFinite_iff.2 ⟨(value_ofCount n).2, ?_⟩
  rw [(value_ofCount n).1]
  exact natCast_lt_overflow ((Nat.min_le_right _ _).trans_lt (by decide))

/-- A count is above zero exactly if there is something to count. -/
theorem ofCount_pos : 0 < ofCount n ↔ 0 < n := by
  have hlargest : 0 < largestCount := by decide
  rw [pos_iff, (value_ofCount n).1, Nat.cast_pos, lt_min_iff]
  exact ⟨fun h => h.2.1, fun h => ⟨(value_ofCount n).2, h, hlargest⟩⟩

/-- More things have a larger count. -/
theorem ofCount_le_ofCount (h : n ≤ m) : ofCount n ≤ ofCount m := by
  rw [le_iff, (value_ofCount n).1, (value_ofCount m).1]
  exact ⟨(value_ofCount n).2, (value_ofCount m).2,
    by exact_mod_cast min_le_min_right largestCount h⟩

end

end Float
