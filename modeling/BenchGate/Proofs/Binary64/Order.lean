import BenchGate.Proofs.Binary64.Value

/-!
# The order of doubles

The comparisons of doubles are those of their values, with two exceptions: nothing is below, above
or equal to the undefined number, and both zeros are one value. `Float.le_iff` and `Float.lt_iff`
say this; the lemmas after them are the laws of a total order for doubles that are numbers, and
what `least` and `greatest` do with them.
-/

namespace BenchGate.Binary64

open Float.Model Float.Model.UnpackedFloat

/-! ## Unpacked numbers -/

/-- Exponents first and mantissas second is the order of the values. -/
theorem compare_mul_zpow {m₁ m₂ : ℕ} {e₁ e₂ : ℤ} (h₁ : m₁ < 2 ^ 53) (h₂ : m₂ < 2 ^ 53)
    (h₁' : -1074 ≤ e₁ ∧ (2 ^ 52 ≤ m₁ ∨ e₁ = -1074))
    (h₂' : -1074 ≤ e₂ ∧ (2 ^ 52 ≤ m₂ ∨ e₂ = -1074)) :
    (compare e₁ e₂).then (compare m₁ m₂) = compare ((m₁ : ℚ) * 2 ^ e₁) (m₂ * 2 ^ e₂) := by
  rcases lt_trichotomy e₁ e₂ with he | rfl | he
  · rw [compare_lt_iff_lt.2 he,
      compare_lt_iff_lt.2 ((mul_zpow_lt h₁ he).trans_le (le_mul_zpow (by omega) le_rfl))]
    rfl
  · have hpos : (0 : ℚ) < 2 ^ e₁ := zpow_pos (by norm_num) e₁
    rw [compare_eq_iff_eq.2 rfl, Ordering.eq_then]
    rcases lt_trichotomy m₁ m₂ with hm | rfl | hm
    · rw [compare_lt_iff_lt.2 hm,
        compare_lt_iff_lt.2 (mul_lt_mul_of_pos_right (by exact_mod_cast hm) hpos)]
    · rw [compare_eq_iff_eq.2 rfl, compare_eq_iff_eq.2 rfl]
    · rw [compare_gt_iff_gt.2 hm,
        compare_gt_iff_gt.2 (mul_lt_mul_of_pos_right (by exact_mod_cast hm) hpos)]
  · rw [compare_gt_iff_gt.2 he,
      compare_gt_iff_gt.2 ((mul_zpow_lt h₂ he).trans_le (le_mul_zpow (by omega) le_rfl))]
    rfl

/-- The order of opposites is the opposite order. -/
theorem compare_neg_neg (p q : ℚ) : compare (-p) (-q) = (compare p q).swap := by
  rcases lt_trichotomy p q with h | rfl | h
  · rw [compare_lt_iff_lt.2 h, compare_gt_iff_gt.2 (neg_lt_neg h)]
    rfl
  · rw [compare_eq_iff_eq.2 rfl, compare_eq_iff_eq.2 rfl]
    rfl
  · rw [compare_gt_iff_gt.2 h, compare_lt_iff_lt.2 (neg_lt_neg h)]
    rfl

/-- The machine compares numbers by their values. -/
theorem compare_unpacked {u v : UnpackedFloat} (hu : IsDouble u) (hv : IsDouble v)
    (hu' : u.isNaN = false) (hv' : v.isNaN = false) :
    u.compare v = some (compare (unpackedValue u) (unpackedValue v)) := by
  have hover := overflow_pos
  have hbounds : ∀ {s m e h}, IsDouble (.finite s m e h) →
      0 < (m : ℚ) * 2 ^ e ∧ (m : ℚ) * 2 ^ e < overflow := fun {s m e h} hd => by
    have hlt := abs_unpackedValue_lt hd rfl
    rw [unpackedValue, abs_signed, abs_of_pos (mul_zpow_pos h e)] at hlt
    exact ⟨mul_zpow_pos h e, hlt⟩
  have hlt : ∀ {p q : ℚ}, p < q → some Ordering.lt = some (compare p q) :=
    fun h => congrArg some (compare_lt_iff_lt.2 h).symm
  have hgt : ∀ {p q : ℚ}, q < p → some Ordering.gt = some (compare p q) :=
    fun h => congrArg some (compare_gt_iff_gt.2 h).symm
  have heq : ∀ {p : ℚ}, some Ordering.eq = some (compare p p) :=
    congrArg some (compare_eq_iff_eq.2 rfl).symm
  cases u with
  | notANumber => cases hu'
  | infinity s =>
    cases v with
    | notANumber => cases hv'
    | infinity t =>
      cases s <;> cases t
      · exact heq
      · exact hlt (by simp only [unpackedValue, signed]; linarith)
      · exact hgt (by simp only [unpackedValue, signed]; linarith)
      · exact heq
    | zero t =>
      cases s
      · exact hlt (by simp only [unpackedValue, signed]; linarith)
      · exact hgt (by simp only [unpackedValue, signed]; linarith)
    | finite t m e h =>
      obtain ⟨hp, hb⟩ := hbounds hv
      cases s
      · exact hlt (by cases t <;> simp only [unpackedValue, signed] <;> linarith)
      · exact hgt (by cases t <;> simp only [unpackedValue, signed] <;> linarith)
  | zero s =>
    cases v with
    | notANumber => cases hv'
    | infinity t =>
      cases t
      · exact hgt (by simp only [unpackedValue, signed]; linarith)
      · exact hlt (by simp only [unpackedValue, signed]; linarith)
    | zero t => exact heq
    | finite t m e h =>
      obtain ⟨hp, hb⟩ := hbounds hv
      cases t
      · exact hgt (by simp only [unpackedValue, signed]; linarith)
      · exact hlt (by simp only [unpackedValue, signed]; linarith)
  | finite s m e h =>
    obtain ⟨hp, hb⟩ := hbounds hu
    cases v with
    | notANumber => cases hv'
    | infinity t =>
      cases t
      · exact hgt (by cases s <;> simp only [unpackedValue, signed] <;> linarith)
      · exact hlt (by cases s <;> simp only [unpackedValue, signed] <;> linarith)
    | zero t =>
      cases s
      · exact hlt (by simp only [unpackedValue, signed]; linarith)
      · exact hgt (by simp only [unpackedValue, signed]; linarith)
    | finite t m' e' h' =>
      obtain ⟨hp', hb'⟩ := hbounds hv
      cases s <;> cases t
      · change some _ = some (compare (-_) (-_))
        rw [compare_neg_neg, ← compare_mul_zpow hu.1.1 hv.1.1 hu.1.2 hv.1.2]
      · exact hlt (by simp only [unpackedValue, signed]; linarith)
      · exact hgt (by simp only [unpackedValue, signed]; linarith)
      · exact congrArg some (compare_mul_zpow hu.1.1 hv.1.1 hu.1.2 hv.1.2)

end BenchGate.Binary64

namespace Float

open BenchGate BenchGate.Binary64 Float.Model Float.Model.UnpackedFloat

variable {x y z w : Float}

/-! ## Comparisons -/

theorem compare_toModel (hx : x.isNaN = false) (hy : y.isNaN = false) :
    x.toModel.unpack.compare y.toModel.unpack = some (compare x.value y.value) := by
  rw [value_eq, value_eq]
  exact compare_unpacked (isDouble_toModel x) (isDouble_toModel y) hx hy

/-- What is no number compares with nothing. -/
theorem compare_eq_none (h : x.isNaN = true ∨ y.isNaN = true) :
    x.toModel.unpack.compare y.toModel.unpack = none := by
  change x.toModel.unpack.isNaN = true ∨ y.toModel.unpack.isNaN = true at h
  revert h
  cases x.toModel.unpack <;> cases y.toModel.unpack <;> simp [UnpackedFloat.isNaN] <;> rfl

/-- Numbers are ordered by their values. -/
theorem le_iff : x ≤ y ↔ x.isNaN = false ∧ y.isNaN = false ∧ x.value ≤ y.value := by
  change decide (x.toModel ≤ y.toModel) = true ↔ _
  rw [decide_eq_true_iff]
  change (x.toModel.unpack.compare y.toModel.unpack).any (·.isLE) = true ↔ _
  by_cases h : x.isNaN = true ∨ y.isNaN = true
  · rw [compare_eq_none h]
    rcases h with h | h <;> simp [h, -isNaN_eq_decide_eq_nan]
  · simp only [not_or, Bool.not_eq_true] at h
    rw [compare_toModel h.1 h.2]
    simp [h, Ordering.isLE_iff_ne_gt, compare_gt_iff_gt, -isNaN_eq_decide_eq_nan]

/-- Numbers are strictly ordered by their values. -/
theorem lt_iff : x < y ↔ x.isNaN = false ∧ y.isNaN = false ∧ x.value < y.value := by
  change decide (x.toModel < y.toModel) = true ↔ _
  rw [decide_eq_true_iff]
  change (x.toModel.unpack.compare y.toModel.unpack == some .lt) = true ↔ _
  by_cases h : x.isNaN = true ∨ y.isNaN = true
  · rw [compare_eq_none h]
    rcases h with h | h <;> simp [h, -isNaN_eq_decide_eq_nan]
  · simp only [not_or, Bool.not_eq_true] at h
    rw [compare_toModel h.1 h.2]
    simp [h, compare_lt_iff_lt, -isNaN_eq_decide_eq_nan]

/-- Numbers are equal when their values are; the two zeros are. -/
theorem beq_iff : (x == y) = true ↔ x.isNaN = false ∧ y.isNaN = false ∧ x.value = y.value := by
  change (x.toModel.unpack.compare y.toModel.unpack == some .eq) = true ↔ _
  by_cases h : x.isNaN = true ∨ y.isNaN = true
  · rw [compare_eq_none h]
    rcases h with h | h <;> simp [h, -isNaN_eq_decide_eq_nan]
  · simp only [not_or, Bool.not_eq_true] at h
    rw [compare_toModel h.1 h.2]
    simp [h, -isNaN_eq_decide_eq_nan]

/-- No double is beyond the overflow. -/
theorem abs_value_le (x : Float) : |x.value| ≤ overflow := by
  have hlt := abs_unpackedValue_lt (isDouble_toModel x)
  rw [value_eq]
  cases h : x.toModel.unpack with
  | notANumber => simpa [unpackedValue] using overflow_pos.le
  | infinity s => exact (abs_unpackedValue_infinity s).le
  | zero | finite =>
    rw [h] at hlt
    exact (hlt rfl).le

/-- A double that is finite is a number below the overflow. -/
theorem isFinite_iff : x.isFinite = true ↔ x.isNaN = false ∧ |x.value| < overflow := by
  have hlt := abs_unpackedValue_lt (isDouble_toModel x)
  change x.toModel.unpack.isFinite = true ↔ x.toModel.unpack.isNaN = false ∧ _
  rw [value_eq]
  cases h : x.toModel.unpack with
  | notANumber => simp [UnpackedFloat.isFinite, UnpackedFloat.isNaN]
  | infinity s => simp [UnpackedFloat.isFinite, abs_unpackedValue_infinity]
  | zero | finite =>
    rw [h] at hlt
    exact iff_of_true rfl ⟨rfl, hlt rfl⟩

@[simp] theorem value_zero : (0 : Float).value = 0 := by
  have h : ofFloat 0 = .finite false 0 leastExponent := by decide +kernel
  simp [value, h, toRat]

/-- A double from zero on is a number whose value is not negative. -/
theorem nonneg_iff : 0 ≤ x ↔ x.isNaN = false ∧ 0 ≤ x.value := by
  rw [le_iff, value_zero]
  exact and_iff_right (by decide +kernel)

/-- A double above zero is a number whose value is. -/
theorem pos_iff : 0 < x ↔ x.isNaN = false ∧ 0 < x.value := by
  rw [lt_iff, value_zero]
  exact and_iff_right (by decide +kernel)

/-! ## The laws of a total order -/

/-- A finite double is a number. -/
theorem isNaN_of_isFinite (h : x.isFinite = true) : x.isNaN = false :=
  (isFinite_iff.1 h).1

protected theorem le_refl (h : x.isNaN = false) : x ≤ x :=
  le_iff.2 ⟨h, h, Preorder.le_refl _⟩

protected theorem le_trans (h : x ≤ y) (h' : y ≤ z) : x ≤ z := by
  rw [le_iff] at *
  exact ⟨h.1, h'.2.1, h.2.2.trans h'.2.2⟩

protected theorem lt_of_lt_of_le (h : x < y) (h' : y ≤ z) : x < z := by
  rw [lt_iff, le_iff] at *
  exact ⟨h.1, h'.2.1, h.2.2.trans_le h'.2.2⟩

protected theorem lt_of_le_of_lt (h : x ≤ y) (h' : y < z) : x < z := by
  rw [lt_iff, le_iff] at *
  exact ⟨h.1, h'.2.1, h.2.2.trans_lt h'.2.2⟩

instance transLtLe : @Trans Float Float Float LT.lt LE.le LT.lt := ⟨Float.lt_of_lt_of_le⟩

instance transLeLt : @Trans Float Float Float LE.le LT.lt LT.lt := ⟨Float.lt_of_le_of_lt⟩

protected theorem le_of_lt (h : x < y) : x ≤ y := by
  rw [le_iff]
  exact ⟨(lt_iff.1 h).1, (lt_iff.1 h).2.1, (lt_iff.1 h).2.2.le⟩

protected theorem not_le_of_lt (h : x < y) : ¬y ≤ x :=
  fun h' => not_lt_of_ge (le_iff.1 h').2.2 (lt_iff.1 h).2.2

/-- Of two numbers, one is at or below the other. -/
protected theorem not_le (hx : x.isNaN = false) (hy : y.isNaN = false) : ¬x ≤ y ↔ y < x := by
  rw [le_iff, lt_iff]
  simp only [hx, hy, true_and, not_le]

protected theorem not_lt (hx : x.isNaN = false) (hy : y.isNaN = false) : ¬x < y ↔ y ≤ x := by
  rw [le_iff, lt_iff]
  simp only [hx, hy, true_and, not_lt]

/-- What lies between zero and a finite double is finite. -/
theorem isFinite_of_le (hx : 0 ≤ x) (h : x ≤ y) (hy : y.isFinite = true) : x.isFinite = true := by
  obtain ⟨hnum, hnonneg⟩ := nonneg_iff.1 hx
  have hlt := (isFinite_iff.1 hy).2
  refine isFinite_iff.2 ⟨hnum, ?_⟩
  rw [abs_of_nonneg hnonneg]
  exact (le_iff.1 h).2.2.trans_lt ((le_abs_self _).trans_lt hlt)

/-! ## The extremes of two doubles -/

/-- The smaller of two doubles is one of them. -/
theorem least_eq_or (x y : Float) : least x y = x ∨ least x y = y := by
  unfold least
  split_ifs <;> simp

/-- The larger of two doubles is one of them. -/
theorem greatest_eq_or (x y : Float) : greatest x y = x ∨ greatest x y = y := by
  unfold greatest
  split_ifs <;> simp

section
variable (hx : x.isNaN = false) (hy : y.isNaN = false)
include hx hy

theorem isNaN_least : (least x y).isNaN = false := by
  rcases least_eq_or x y with h | h <;> rw [h] <;> assumption

theorem isNaN_greatest : (greatest x y).isNaN = false := by
  rcases greatest_eq_or x y with h | h <;> rw [h] <;> assumption

/-- The value of the smaller of two numbers. -/
theorem value_least : (least x y).value = min x.value y.value := by
  unfold least
  rw [if_neg (by rw [hx]; decide), if_neg (by rw [hy]; decide)]
  simp only [lt_iff, hx, hy, true_and]
  split_ifs with h h' h''
  · exact (min_eq_left h.le).symm
  · exact (min_eq_right h'.le).symm
  · exact (min_eq_left (not_lt.1 h')).symm
  · exact (min_eq_right (not_lt.1 h)).symm

/-- The value of the larger of two numbers. -/
theorem value_greatest : (greatest x y).value = max x.value y.value := by
  unfold greatest
  rw [if_neg (by rw [hx]; decide), if_neg (by rw [hy]; decide)]
  simp only [lt_iff, hx, hy, true_and]
  split_ifs with h h' h''
  · exact (max_eq_left h.le).symm
  · exact (max_eq_right h'.le).symm
  · exact (max_eq_right (not_lt.1 h)).symm
  · exact (max_eq_left (not_lt.1 h')).symm

end

/-- The smaller of two doubles grows with both. -/
theorem least_le_least (h : x ≤ y) (h' : z ≤ w) : least x z ≤ least y w := by
  obtain ⟨hx, hy, hxy⟩ := le_iff.1 h
  obtain ⟨hz, hw, hzw⟩ := le_iff.1 h'
  refine le_iff.2 ⟨isNaN_least hx hz, isNaN_least hy hw, ?_⟩
  rw [value_least hx hz, value_least hy hw]
  exact min_le_min hxy hzw

/-- The larger of two doubles grows with both. -/
theorem greatest_le_greatest (h : x ≤ y) (h' : z ≤ w) : greatest x z ≤ greatest y w := by
  obtain ⟨hx, hy, hxy⟩ := le_iff.1 h
  obtain ⟨hz, hw, hzw⟩ := le_iff.1 h'
  refine le_iff.2 ⟨isNaN_greatest hx hz, isNaN_greatest hy hw, ?_⟩
  rw [value_greatest hx hz, value_greatest hy hw]
  exact max_le_max hxy hzw

end Float
