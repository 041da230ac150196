import BenchGate.Proofs.Binary64.Sign

/-!
# The extremes of doubles

`least` and `greatest` are the minimum and the maximum of a linear order: by the value first, and of
the two zeros `-0` is the lower one (`Float.rank`). What is no number has no place in the order and
swallows everything. So both operations are commutative and associative on all doubles
(`Float.RanksBy.comm`, `Float.RanksBy.assoc`), and an infinity is neutral to each of them
(`Float.least_infinity`, `Float.greatest_neg_infinity`).
-/

namespace Float

open BenchGate BenchGate.Binary64

variable {x y : Float}

/-! ## Places -/

/-- The place of a number among the doubles: its value, and of two zeros the sign. -/
def rank (x : Float) : ℚ ×ₗ Bool := toLex (x.value, !(ofFloat x).negative)

/-- Two doubles are one if both are no number, or if both are numbers at one place. -/
theorem eq_of_rank (hnum : x.isNaN = y.isNaN) (h : x.isNaN = false → x.rank = y.rank) : x = y := by
  cases hx : x.isNaN with
  | true =>
    have hy := hnum ▸ hx
    rw [isNaN_eq_decide_eq_nan, decide_eq_true_eq] at hx hy
    rw [hx, hy]
  | false =>
    obtain ⟨hvalue, hsign⟩ := Prod.mk.inj (toLex.injective (h hx))
    exact eq_of_value hx (hnum ▸ hx) hvalue (by simpa using hsign)

theorem rank_le_of_value_lt (h : x.value < y.value) : x.rank ≤ y.rank :=
  Prod.Lex.toLex_le_toLex.2 (.inl h)

section
variable (hx : x.isNaN = false) (hy : y.isNaN = false)
include hx hy

/-- The smaller of two numbers is the one at the lower place. -/
theorem rank_least : (least x y).rank = min x.rank y.rank := by
  unfold least
  rw [if_neg (by rw [hx]; decide), if_neg (by rw [hy]; decide)]
  simp only [lt_iff, hx, hy, true_and]
  split_ifs with hlt hgt hsign
  · exact (min_eq_left (rank_le_of_value_lt hlt)).symm
  · exact (min_eq_right (rank_le_of_value_lt hgt)).symm
  all_goals have heq := le_antisymm (not_lt.1 hgt) (not_lt.1 hlt)
  · refine (min_eq_left (Prod.Lex.toLex_le_toLex.2 (.inr ⟨heq, ?_⟩))).symm
    simp [hsign]
  · refine (min_eq_right (Prod.Lex.toLex_le_toLex.2 (.inr ⟨heq.symm, ?_⟩))).symm
    simp [hsign]

/-- The larger of two numbers is the one at the higher place. -/
theorem rank_greatest : (greatest x y).rank = max x.rank y.rank := by
  unfold greatest
  rw [if_neg (by rw [hx]; decide), if_neg (by rw [hy]; decide)]
  simp only [lt_iff, hx, hy, true_and]
  split_ifs with hlt hgt hsign
  · exact (max_eq_left (rank_le_of_value_lt hlt)).symm
  · exact (max_eq_right (rank_le_of_value_lt hgt)).symm
  all_goals have heq := le_antisymm (not_lt.1 hlt) (not_lt.1 hgt)
  · refine (max_eq_right (Prod.Lex.toLex_le_toLex.2 (.inr ⟨heq, ?_⟩))).symm
    simp [hsign]
  · refine (max_eq_left (Prod.Lex.toLex_le_toLex.2 (.inr ⟨heq.symm, ?_⟩))).symm
    simp [hsign]

end

/-! ## The laws of the two operations -/

/-- An operation on doubles is one on their places, and what is no number swallows everything. -/
structure RanksBy (op : Float → Float → Float)
    (place : ℚ ×ₗ Bool → ℚ ×ₗ Bool → ℚ ×ₗ Bool) : Prop where
  isNaN : ∀ x y, (op x y).isNaN = (x.isNaN || y.isNaN)
  rank : ∀ x y, x.isNaN = false → y.isNaN = false → (op x y).rank = place x.rank y.rank

theorem ranksBy_least : RanksBy least min where
  isNaN := fun x y => by
    unfold least
    split_ifs with hx hy
    · rw [hx, Bool.true_or]
    · rw [hy, Bool.or_true]
    all_goals simp only [Bool.not_eq_true] at hx hy; simp only [hx, hy, Bool.or_false]
  rank := fun _ _ => rank_least

theorem ranksBy_greatest : RanksBy greatest max where
  isNaN := fun x y => by
    unfold greatest
    split_ifs with hx hy
    · rw [hx, Bool.true_or]
    · rw [hy, Bool.or_true]
    all_goals simp only [Bool.not_eq_true] at hx hy; simp only [hx, hy, Bool.or_false]
  rank := fun _ _ => rank_greatest

namespace RanksBy

variable {op : Float → Float → Float} {place : ℚ ×ₗ Bool → ℚ ×ₗ Bool → ℚ ×ₗ Bool}
  (h : RanksBy op place)
include h

theorem comm [Std.Commutative place] (x y : Float) : op x y = op y x := by
  refine eq_of_rank (by rw [h.isNaN, h.isNaN, Bool.or_comm]) fun hnum => ?_
  rw [h.isNaN, Bool.or_eq_false_iff] at hnum
  obtain ⟨hx, hy⟩ := hnum
  rw [h.rank x y hx hy, h.rank y x hy hx]
  exact Std.Commutative.comm _ _

theorem assoc [Std.Associative place] (x y z : Float) : op (op x y) z = op x (op y z) := by
  refine eq_of_rank (by simp only [h.isNaN, Bool.or_assoc]) fun hnum => ?_
  simp only [h.isNaN, Bool.or_eq_false_iff] at hnum
  obtain ⟨⟨hx, hy⟩, hz⟩ := hnum
  rw [h.rank _ z (by rw [h.isNaN, hx, hy]; rfl) hz, h.rank x y hx hy,
    h.rank x _ hx (by rw [h.isNaN, hy, hz]; rfl), h.rank y z hy hz]
  exact Std.Associative.assoc _ _ _

/-- What an operation makes of a list is the same in every order. -/
theorem foldl_perm [Std.Commutative place] [Std.Associative place] {xs ys : List Float}
    (hperm : xs.Perm ys) (start : Float) : xs.foldl op start = ys.foldl op start :=
  hperm.foldl_eq' (fun x _ y _ z => by rw [h.assoc, h.assoc, h.comm x y]) start

end RanksBy

/-! ## Bounds -/

section
variable (hx : x.isNaN = false) (hy : y.isNaN = false)
include hx hy

theorem least_le_left : least x y ≤ x := by
  rw [le_iff, value_least hx hy]
  exact ⟨isNaN_least hx hy, hx, min_le_left _ _⟩

theorem least_le_right : least x y ≤ y := by
  rw [le_iff, value_least hx hy]
  exact ⟨isNaN_least hx hy, hy, min_le_right _ _⟩

end

/-- What is below two doubles is below the smaller one. -/
theorem le_least {z : Float} (h : z ≤ x) (h' : z ≤ y) : z ≤ least x y := by
  obtain ⟨hz, hx, hle⟩ := le_iff.1 h
  obtain ⟨-, hy, hle'⟩ := le_iff.1 h'
  rw [le_iff, value_least hx hy]
  exact ⟨hz, isNaN_least hx hy, le_min hle hle'⟩

@[simp] theorem least_self (x : Float) : least x x = x :=
  (least_eq_or x x).elim id id

/-- Infinity is above everything. -/
@[simp] theorem least_infinity (x : Float) : least BenchGate.infinity x = x := by
  refine eq_of_rank (by rw [ranksBy_least.isNaN, isNaN_infinity, Bool.false_or]) fun hnum => ?_
  rw [ranksBy_least.isNaN, isNaN_infinity, Bool.false_or] at hnum
  rw [rank_least isNaN_infinity hnum, min_eq_right]
  rcases (le_iff.1 (le_infinity hnum)).2.2.lt_or_eq with hlt | heq
  · exact rank_le_of_value_lt hlt
  · rw [eq_of_value_ne_zero hnum isNaN_infinity heq (by simp [heq, overflow_pos.ne'])]

/-- Minus infinity is below everything. -/
@[simp] theorem greatest_neg_infinity (x : Float) : greatest (-BenchGate.infinity) x = x := by
  have hstart : (-BenchGate.infinity).isNaN = false := (isNaN_neg _).trans isNaN_infinity
  refine eq_of_rank (by rw [ranksBy_greatest.isNaN, hstart, Bool.false_or]) fun hnum => ?_
  rw [ranksBy_greatest.isNaN, hstart, Bool.false_or] at hnum
  rw [rank_greatest hstart hnum, max_eq_right]
  have hle : (-BenchGate.infinity).value ≤ x.value := by
    rw [value_neg, value_infinity]
    exact (abs_le.1 (abs_value_le x)).1
  rcases hle.lt_or_eq with hlt | heq
  · exact rank_le_of_value_lt hlt
  · rw [eq_of_value_ne_zero hstart hnum heq (by simp [overflow_pos.ne'])]

end Float
