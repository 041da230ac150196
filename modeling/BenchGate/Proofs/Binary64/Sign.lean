import BenchGate.Proofs.Binary64.Arithmetic

/-!
# The sign of a double

The value of a double does not tell the two zeros apart, its sign does. Together they determine a
double that is a number (`Float.eq_of_value`). A rounded result keeps the sign of the exact one even
where it underflows to zero, so that the sign of a product or quotient comes from those of its parts
(`Float.negative_mul`, `Float.negative_div`), and the opposite of a double has the opposite value
and the opposite sign (`Float.value_neg`, `Float.negative_neg`).
-/

namespace BenchGate.Binary64

open Float.Model Float.Model.UnpackedFloat

/-- The sign of an unpacked number; what is no number has none. -/
def unpackedNegative : UnpackedFloat → Bool
  | .notANumber => false
  | .infinity s | .zero s | .finite s .. => s matches .negative

/-- An overflow keeps the sign. -/
theorem unpackedNegative_clip (u : UnpackedFloat) :
    unpackedNegative (clip u) = unpackedNegative u := by
  cases u with
  | notANumber | infinity | zero => rfl
  | finite s m e h =>
    simp only [clip]
    split_ifs <;> rfl

/-- What is rounded keeps its sign, also where it becomes zero. -/
theorem unpackedNegative_roundWithAccuracy (s : Sign) (m : ℕ) (e : ℤ) (acc : Accuracy) :
    unpackedNegative (roundWithAccuracy .binary64 s m e acc) = (s matches .negative) := by
  rw [roundWithAccuracy_eq, ofShifted]
  split_ifs <;> rfl

/-- The sign of a product. -/
theorem unpackedNegative_mul {u v : UnpackedFloat} (hu : u.isFinite = true)
    (hv : v.isFinite = true) :
    unpackedNegative (mul .binary64 u v) = (unpackedNegative u ^^ unpackedNegative v) := by
  cases u with
  | notANumber | infinity => cases hu
  | zero s =>
    cases v with
    | notANumber | infinity => cases hv
    | zero t | finite t => cases s <;> cases t <;> rfl
  | finite s m e h =>
    cases v with
    | notANumber | infinity => cases hv
    | zero t => cases s <;> cases t <;> rfl
    | finite t m' e' h' =>
      rw [UnpackedFloat.mul, unpackedNegative_roundWithAccuracy]
      cases s <;> cases t <;> rfl

/-- The sign of a quotient. -/
theorem unpackedNegative_div {u v : UnpackedFloat} (hu : u.isFinite = true)
    (hv : v.isFinite = true) (hzero : unpackedValue v ≠ 0) :
    unpackedNegative (div .binary64 u v) = (unpackedNegative u ^^ unpackedNegative v) := by
  cases v with
  | notANumber | infinity => cases hv
  | zero t => exact absurd rfl hzero
  | finite t m' e' h' =>
    cases u with
    | notANumber | infinity => cases hu
    | zero s => cases s <;> cases t <;> rfl
    | finite s m e h =>
      rw [UnpackedFloat.div, unpackedNegative_roundWithAccuracy]
      cases s <;> cases t <;> rfl

/-- Two doubles of one value and one sign are the same number. -/
theorem eq_of_unpackedValue {u v : UnpackedFloat} (hu : IsDouble u) (hv : IsDouble v)
    (hu' : u.isNaN = false) (hv' : v.isNaN = false) (hvalue : unpackedValue u = unpackedValue v)
    (hsign : unpackedNegative u = unpackedNegative v) : u = v := by
  have hcompare : u.compare v = some .eq := by
    rw [compare_unpacked hu hv hu' hv', hvalue, compare_eq_iff_eq.2 rfl]
  cases u with
  | notANumber => cases hu'
  | infinity s =>
    cases v with
    | notANumber => cases hv'
    | infinity t => cases s <;> cases t <;> first | rfl | cases hsign
    | zero t => cases s <;> cases t <;> cases hcompare
    | finite t => cases s <;> cases t <;> cases hcompare
  | zero s =>
    cases v with
    | notANumber => cases hv'
    | infinity t => cases s <;> cases t <;> cases hcompare
    | zero t => cases s <;> cases t <;> first | rfl | cases hsign
    | finite t => cases s <;> cases t <;> cases hcompare
  | finite s m e h =>
    cases v with
    | notANumber => cases hv'
    | infinity t => cases s <;> cases t <;> cases hcompare
    | zero t => cases s <;> cases t <;> cases hcompare
    | finite t m' e' h' =>
      obtain ⟨⟨hlt, hrange⟩, -⟩ := hu
      obtain ⟨⟨hlt', hrange'⟩, -⟩ := hv
      obtain rfl : s = t := by cases s <;> cases t <;> first | rfl | cases hsign
      have habs : (m : ℚ) * 2 ^ e = m' * 2 ^ e' := by
        have := congrArg (signed s) hvalue
        simpa only [unpackedValue, signed_signed] using this
      have hplaces := compare_mul_zpow hlt hlt' hrange hrange'
      rw [habs, compare_eq_iff_eq.2 rfl, Ordering.then_eq_eq, compare_eq_iff_eq,
        compare_eq_iff_eq] at hplaces
      obtain ⟨rfl, rfl⟩ := hplaces
      rfl

end BenchGate.Binary64

namespace Float

open BenchGate BenchGate.Binary64 Float.Model Float.Model.UnpackedFloat

variable {x y : Float}

theorem negative_eq (x : Float) : (ofFloat x).negative = unpackedNegative x.toModel.unpack := by
  unfold ofFloat
  cases x.toModel.unpack <;> rfl

/-- A double is determined by what it unpacks to. -/
theorem eq_of_unpack (h : x.toModel.unpack = y.toModel.unpack) : x = y := by
  have hpack : ∀ z : Float, Float.ofModel (Float.Model.pack z.toModel.unpack) = z := fun z =>
    toBits_inj.1 (UInt64.toBitVec_inj.1 (pack_unpack_of_valid z.toModel.valid))
  rw [← hpack x, ← hpack y, h]

/-- Value and sign determine a double. -/
theorem eq_of_value (hx : x.isNaN = false) (hy : y.isNaN = false) (hvalue : x.value = y.value)
    (hsign : (ofFloat x).negative = (ofFloat y).negative) : x = y := by
  rw [value_eq, value_eq] at hvalue
  rw [negative_eq, negative_eq] at hsign
  exact eq_of_unpack
    (eq_of_unpackedValue (isDouble_toModel x) (isDouble_toModel y) hx hy hvalue hsign)

/-- The sign of a double that is packed. -/
theorem negative_pack {u : UnpackedFloat} (h : IsRounded u) :
    (ofFloat (Float.ofModel (Float.Model.pack u))).negative = unpackedNegative u := by
  have hunpack : (Float.ofModel (Float.Model.pack u)).toModel.unpack = clip u := unpack_pack h
  rw [negative_eq, hunpack, unpackedNegative_clip]

section
variable (hx : x.isFinite = true) (hy : y.isFinite = true)
include hx hy

/-- The sign of a product. -/
theorem negative_mul :
    (ofFloat (x * y)).negative = ((ofFloat x).negative ^^ (ofFloat y).negative) := by
  have hrounds := mul_rounds (isDouble_toModel x) (isDouble_toModel y) hx hy
  rw [negative_eq x, negative_eq y, ← unpackedNegative_mul hx hy]
  exact negative_pack hrounds.isRounded

/-- The factors of a product may change places. -/
protected theorem mul_comm : x * y = y * x := by
  obtain ⟨hvalue, hnum⟩ := value_mul hx hy
  obtain ⟨hvalue', hnum'⟩ := value_mul hy hx
  refine eq_of_value hnum hnum' ?_ ?_
  · rw [hvalue, hvalue', mul_comm]
  · rw [negative_mul hx hy, negative_mul hy hx, Bool.xor_comm]

/-- The sign of a quotient. -/
theorem negative_div (hzero : y.value ≠ 0) :
    (ofFloat (x / y)).negative = ((ofFloat x).negative ^^ (ofFloat y).negative) := by
  rw [value_eq] at hzero
  have hrounds := div_rounds (isDouble_toModel x) (isDouble_toModel y) hx hy hzero
  rw [negative_eq x, negative_eq y, ← unpackedNegative_div hx hy hzero]
  exact negative_pack hrounds.isRounded

end

/-! ## Opposites -/

/-- The opposite of a double unpacks to the opposite. -/
theorem unpack_neg (x : Float) : (-x).toModel.unpack = x.toModel.unpack.neg := by
  have hdouble := isDouble_toModel x
  have hunpack : ∀ u : UnpackedFloat, IsDouble u → clip u.neg = u.neg := by
    intro u hu
    cases u with
    | notANumber | infinity | zero => rfl
    | finite s m e h => exact if_neg (by have := hu.2; omega)
  have hrounded : IsRounded x.toModel.unpack.neg := by
    cases hu : x.toModel.unpack with
    | notANumber | infinity | zero => trivial
    | finite s m e h =>
      rw [hu] at hdouble
      exact hdouble.1
  exact (unpack_pack hrounded).trans (hunpack _ hdouble)

/-- The opposite of a double has the opposite value. -/
@[simp] theorem value_neg (x : Float) : (-x).value = -x.value := by
  rw [value_eq, value_eq, unpack_neg]
  cases x.toModel.unpack with
  | notANumber | zero => exact neg_zero.symm
  | infinity s | finite s =>
    cases s
    · exact (neg_neg _).symm
    · rfl

@[simp] theorem isNaN_neg (x : Float) : (-x).isNaN = x.isNaN := by
  change (-x).toModel.unpack.isNaN = x.toModel.unpack.isNaN
  rw [unpack_neg]
  cases x.toModel.unpack <;> rfl

/-- The opposite of a double has the opposite sign. -/
theorem negative_neg (h : x.isNaN = false) :
    (ofFloat (-x)).negative = !(ofFloat x).negative := by
  change x.toModel.unpack.isNaN = false at h
  rw [negative_eq, negative_eq, unpack_neg]
  cases hu : x.toModel.unpack with
  | notANumber => rw [hu] at h; cases h
  | infinity s | zero s | finite s => cases s <;> rfl

/-- The absolute value of a double unpacks to the absolute value. -/
theorem unpack_abs (x : Float) : x.abs.toModel.unpack = x.toModel.unpack.abs := by
  have hdouble := isDouble_toModel x
  have hpack : x.abs.toModel.unpack = clip x.toModel.unpack.abs := by
    refine unpack_pack ?_
    cases hu : x.toModel.unpack with
    | notANumber | infinity | zero => trivial
    | finite s m e h =>
      rw [hu] at hdouble
      exact hdouble.1
  rw [hpack]
  cases hu : x.toModel.unpack with
  | notANumber | infinity | zero => rfl
  | finite s m e h =>
    rw [hu] at hdouble
    exact if_neg (by have := hdouble.2; omega)

/-- The absolute value of a double has the absolute value. -/
@[simp] theorem value_abs (x : Float) : x.abs.value = |x.value| := by
  have hover := overflow_pos
  rw [value_eq, value_eq, unpack_abs]
  cases x.toModel.unpack with
  | notANumber | zero => exact abs_zero.symm
  | infinity s => rw [abs_unpackedValue_infinity]; rfl
  | finite s m e h => rw [unpackedValue, abs_signed, abs_of_pos (mul_zpow_pos h e)]; rfl

@[simp] theorem isNaN_abs (x : Float) : x.abs.isNaN = x.isNaN := by
  change x.abs.toModel.unpack.isNaN = x.toModel.unpack.isNaN
  rw [unpack_abs]
  cases x.toModel.unpack <;> rfl

/-- A number is below an absolute value when it is below the number or below its opposite. -/
theorem lt_abs_iff (hx : x.isNaN = false) (hy : y.isNaN = false) :
    x < y.abs ↔ x < y ∨ y < -x := by
  simp only [lt_iff, isNaN_abs, isNaN_neg, value_abs, value_neg, hx, hy, true_and, lt_abs, lt_neg]

/-- A value that is not zero shows its sign. -/
theorem negative_of_value (h : x.value ≠ 0) : (ofFloat x).negative = decide (x.value < 0) := by
  rw [value_eq] at h ⊢
  rw [negative_eq]
  have hover := overflow_pos
  cases hu : x.toModel.unpack with
  | notANumber | zero => rw [hu] at h; exact absurd rfl h
  | infinity s =>
    cases s
    · exact (decide_eq_true (neg_neg_of_pos hover)).symm
    · exact (decide_eq_false hover.not_gt).symm
  | finite s m e hm =>
    have hpos := mul_zpow_pos hm e
    cases s
    · exact (decide_eq_true (neg_neg_of_pos hpos)).symm
    · exact (decide_eq_false hpos.not_gt).symm

/-- A value that is not zero determines the double. -/
theorem eq_of_value_ne_zero (hx : x.isNaN = false) (hy : y.isNaN = false)
    (hvalue : x.value = y.value) (hzero : x.value ≠ 0) : x = y := by
  refine eq_of_value hx hy hvalue ?_
  rw [negative_of_value hzero, negative_of_value (hvalue ▸ hzero), hvalue]

end Float
