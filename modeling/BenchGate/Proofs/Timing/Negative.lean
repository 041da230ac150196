import BenchGate.Proofs.Binary64.RoundOff
import BenchGate.Proofs.Timing.Grammar

/-!
# Timings below zero

A literal is below zero when it begins with a minus sign and has a digit other than zero before its
exponent (`Literal.Denotes.neg_iff`). Whether it is refused is decided by its double, so that three
ranges are to be told apart (`Timings.ofWord_of_neg`): what is not further from zero than half the
least double is read as `-0`, what has a finite double below zero is reported as negative, and what
is beyond the doubles as invalid. `Timings.parse_negative` says what follows for a text, and
`Timings.parse_underflow` is a literal below zero that is read.
-/

namespace BenchGate

namespace Literal

/-- What stands before the exponent. -/
def beforeExponent (text : List Char) : List Char :=
  text.takeWhile fun c => decide (c ≠ 'e' ∧ c ≠ 'E')

/-- The text begins with a minus sign and has a digit other than zero before its exponent. -/
structure SaysNegative (text : List Char) : Prop where
  minus : text.head? = some '-'
  nonzero : ∃ c ∈ beforeExponent text, c.isDigit = true ∧ c ≠ '0'

variable {text digits power : List Char} {negative : Bool} {q : ℚ} {e : ℤ}

/-! ## Which digits -/

/-- A number is zero when all its digits are. -/
theorem natOfDigits_eq_zero_iff (h : ∀ c ∈ digits, c.isDigit = true) :
    natOfDigits digits = 0 ↔ ∀ c ∈ digits, c = '0' := by
  induction digits with
  | nil => simp [natOfDigits]
  | cons c digits ih =>
    obtain ⟨hc, hdigits⟩ := List.forall_mem_cons.1 h
    have hone : natOfDigits [c] = 0 ↔ c = '0' := by
      have hlow : 48 ≤ c.toNat := by
        simp only [Char.isDigit, Bool.and_eq_true, decide_eq_true_eq, ge_iff_le,
          UInt32.le_iff_toNat_le] at hc
        exact hc.1
      rw [show natOfDigits [c] = c.toNat - 48 by simp [natOfDigits, Nat.ofDigitChars_cons],
        ← Char.toNat_inj]
      change c.toNat - 48 = 0 ↔ c.toNat = 48
      omega
    rw [← List.singleton_append, natOfDigits_append, Nat.add_eq_zero_iff, Nat.mul_eq_zero,
      or_iff_right (by positivity), hone, ih hdigits, List.singleton_append, List.forall_mem_cons]

/-- A number whose digits are those of a text is above zero when one of them is not zero. -/
theorem pos_iff_of_digits {places : ℕ} (h : ∀ c ∈ digits, c.isDigit = true)
    (hmem : ∀ c, c.isDigit = true → (c ∈ text ↔ c ∈ digits)) :
    0 < (natOfDigits digits / 10 ^ places : ℚ) ↔ ∃ c ∈ text, c.isDigit = true ∧ c ≠ '0' := by
  rw [div_pos_iff_of_pos_right (by positivity), Nat.cast_pos, Nat.pos_iff_ne_zero, ne_eq,
    natOfDigits_eq_zero_iff h]
  push Not
  constructor
  · rintro ⟨c, hc, hne⟩
    exact ⟨c, (hmem c (h c hc)).2 hc, h c hc, hne⟩
  · rintro ⟨c, hc, hdigit, hne⟩
    exact ⟨c, (hmem c hdigit).1 hc, hne⟩

theorem ne_point_of_isDigit {c : Char} (h : c.isDigit = true) : c ≠ '.' := by
  rintro rfl
  exact absurd h (by decide)

/-- An unsigned number is above zero when it has a digit other than zero. -/
theorem Unsigned.pos_iff (h : Unsigned text q) :
    0 < q ↔ ∃ c ∈ text, c.isDigit = true ∧ c ≠ '0' := by
  cases h with
  | whole h =>
    rw [← div_one (natOfDigits text : ℚ), ← pow_zero (10 : ℚ)]
    exact pos_iff_of_digits h.isDigit fun _ _ => Iff.rfl
  | point h h' =>
    rw [cast_natOfDigits_append]
    refine pos_iff_of_digits (List.forall_mem_append.2 ⟨h.isDigit, h'⟩) fun c hc => ?_
    simp only [List.mem_append, List.mem_cons, ne_point_of_isDigit hc, false_or]
  | fraction h =>
    refine pos_iff_of_digits h.isDigit fun c hc => ?_
    simp only [List.mem_cons, ne_point_of_isDigit hc, false_or]

theorem Unsigned.nonneg (h : Unsigned text q) : 0 ≤ q := by
  cases h <;> positivity

/-- An unsigned number is made of digits and points. -/
theorem Unsigned.isDigit_or_point (h : Unsigned text q) :
    ∀ c ∈ text, c.isDigit = true ∨ c = '.' := by
  cases h with
  | whole h => exact fun c hc => .inl (h.isDigit c hc)
  | point h h' =>
    intro c hc
    rcases List.mem_append.1 hc with hc | hc
    · exact .inl (h.isDigit c hc)
    · exact (List.mem_cons.1 hc).symm.imp_left (h' c)
  | fraction h => exact fun c hc => (List.mem_cons.1 hc).symm.imp_left (h.isDigit c)

/-- What stands before the exponent of a literal with a minus sign. -/
theorem beforeExponent_append (h : Unsigned text q) (hpower : Power power e) :
    beforeExponent ('-' :: text ++ power) = '-' :: text := by
  refine List.takeWhile_append_of_head (fun c hc => decide_eq_true ?_) fun c hc => ?_
  · rcases List.mem_cons.1 hc with rfl | hc
    · decide
    rcases h.isDigit_or_point c hc with hdigit | rfl
    · constructor <;> rintro rfl <;> exact absurd hdigit (by decide)
    · decide
  · cases hpower with
    | none => cases hc
    | exponent hmark _ _ =>
      obtain rfl : _ = c := by simpa using hc
      rcases hmark with rfl | rfl <;> decide

/-- A literal is below zero when its text says so. -/
theorem Denotes.neg_iff (h : Denotes text negative q) : q < 0 ↔ SaysNegative text := by
  obtain @⟨sign, magnitude, power, _, q, e, hsign, hmagnitude, hpower⟩ := h
  have hten : (0 : ℚ) < 10 ^ e := by positivity
  have hnot : ¬q * 10 ^ e < 0 := not_lt.2 (mul_nonneg hmagnitude.nonneg hten.le)
  cases hsign with
  | none =>
    refine iff_of_false hnot fun ⟨hminus, _⟩ => ?_
    exact (hmagnitude.head power '-' hminus).1 rfl
  | plus => exact iff_of_false hnot fun ⟨hminus, _⟩ => absurd hminus (by simp)
  | minus =>
    have hbefore : beforeExponent (['-'] ++ magnitude ++ power) = '-' :: magnitude :=
      beforeExponent_append hmagnitude hpower
    have hdigit : ('-').isDigit = false := by decide
    rw [withSign, if_pos rfl, neg_lt_zero, mul_pos_iff_of_pos_right hten, hmagnitude.pos_iff]
    constructor
    · rintro ⟨c, hc, hnonzero⟩
      refine ⟨rfl, c, ?_, hnonzero⟩
      rw [hbefore]
      exact List.mem_cons_of_mem _ hc
    · rintro ⟨-, c, hc, hnonzero⟩
      rw [hbefore] at hc
      rcases List.mem_cons.1 hc with rfl | hc
      · exact absurd (hdigit.symm.trans hnonzero.1) Bool.false_ne_true
      · exact ⟨c, hc, hnonzero⟩

/-- Only a literal with a minus sign is below zero. -/
theorem Denotes.negative_of_neg (h : Denotes text negative q) (hq : q < 0) : negative = true := by
  obtain @⟨sign, magnitude, power, _, q, e, -, hmagnitude, -⟩ := h
  cases negative with
  | true => rfl
  | false => exact absurd hq (not_lt.2 (mul_nonneg hmagnitude.nonneg (by positivity)))

end Literal

namespace Timings

open Binary64

variable {word : List Char} {negative : Bool} {q : ℚ}

/-! ## One word -/

/-- A literal below zero is read as `-0` when it is too small for a double, reported as negative
when its double is finite, and as invalid when it is not. -/
theorem ofWord_of_neg (h : Literal.Denotes word negative q) (hq : q < 0) (position : ℕ) :
    ofWord word position =
      if -(leastPositive / 2) ≤ q then .ok (-0)
      else if -finiteEnd < q then .error (.negative (.ofList word) position)
      else .error (.invalid (.ofList word) position) := by
  obtain rfl := h.negative_of_neg hq
  obtain ⟨l, hl, hnegative, rfl⟩ := Literal.denotes_iff.1 h
  have hnearest := l.isNearest_toFloat
  have hfinite : l.toFloat.isFinite = true ↔ -finiteEnd < l.value := by
    rw [Float.isFinite_iff, hnearest.value, abs_round_lt_overflow_iff, abs_of_neg hq, neg_lt]
    exact and_iff_right hnearest.isNaN
  have hzero : Binary64.round l.value = 0 ↔ -(leastPositive / 2) ≤ l.value := by
    rw [round_eq_zero_iff, abs_of_neg hq, neg_le]
  have hround : Binary64.round l.value ≤ 0 := round_zero ▸ round_mono hq.le
  have hneg : l.toFloat < 0 ↔ ¬-(leastPositive / 2) ≤ l.value := by
    rw [← hzero, Float.lt_iff, Float.value_zero, hnearest.value, lt_iff_le_and_ne]
    exact ⟨fun h => h.2.2.2, fun h => ⟨hnearest.isNaN, by decide +kernel, hround, h⟩⟩
  rw [ofWord_of_some hl]
  by_cases hunder : -(leastPositive / 2) ≤ l.value
  · have hvalue : l.toFloat.value = 0 := hnearest.value.trans (hzero.2 hunder)
    have hminus : l.toFloat = -0 := by
      refine Float.eq_of_value hnearest.isNaN (by decide +kernel) ?_ ?_
      · rw [hvalue, Float.value_neg, Float.value_zero, neg_zero]
      · rw [hnearest.negative, hnegative]
        decide +kernel
    rw [if_pos hunder, if_neg (by rw [hminus]; decide +kernel),
      if_neg (hneg.not.2 (not_not.2 hunder)), hminus]
  · rw [if_neg hunder, if_pos (hneg.2 hunder)]
    by_cases hend : -finiteEnd < l.value
    · rw [if_pos hend, if_neg (by rw [hfinite.2 hend]; decide)]
    · rw [if_neg hend, if_pos (by rw [← Bool.not_eq_true, hfinite]; exact hend)]

/-- A timing is not below zero by more than half the least double. -/
theorem IsTiming.neg_half_le {time : Float} (h : IsTiming word time)
    (hword : Literal.Denotes word negative q) : -(leastPositive / 2) ≤ q := by
  by_contra hlt
  have hq : q < 0 := (not_le.1 hlt).trans (neg_lt_zero.2 (half_pos leastPositive_pos))
  have hread : ofWord word 0 = .ok time := ofWord_eq_ok_iff.2 h
  rw [ofWord_of_neg hword hq 0, if_neg hlt] at hread
  split_ifs at hread

/-! ## A text -/

/-- What happens to literals below zero, which are those with a minus sign and a digit other than
zero. A text that is read has none that is further below zero than half the least double; one that
has such a word is reported, with its first word that is no timing. The other literals below zero
are read as `-0`. -/
theorem parse_negative {source text : String} {runs : List (List Char)}
    (hruns : Text.Runs text.toList runs) :
    (∀ word negative q, Literal.Denotes word negative q → (q < 0 ↔ Literal.SaysNegative word)) ∧
    (∀ word negative q, Literal.Denotes word negative q → q < 0 → ∀ position,
      ofWord word position =
        if -(leastPositive / 2) ≤ q then .ok (-0)
        else if -finiteEnd < q then .error (.negative (.ofList word) position)
        else .error (.invalid (.ofList word) position)) ∧
    (∀ times, parse source text = .ok times → ∀ word ∈ runs, ∀ negative q,
      Literal.Denotes word negative q → -(leastPositive / 2) ≤ q) ∧
    ∀ word ∈ runs, ∀ negative q, Literal.Denotes word negative q → q < -(leastPositive / 2) →
      ∃ before first after fault, runs = before ++ first :: after ∧
        parse source text = .error ⟨source, fault⟩ ∧
        (fault = .negative (.ofList first) before.length ∨
          fault = .invalid (.ofList first) before.length) := by
  have hread : ∀ times, parse source text = .ok times → ∀ word ∈ runs, ∀ negative q,
      Literal.Denotes word negative q → -(leastPositive / 2) ≤ q := by
    intro times hparse word hmem negative q hword
    have htimings := List.exists_forall₂_iff.1 ⟨times, (parse_eq_ok_iff hruns).1 hparse⟩
    obtain ⟨time, htime⟩ := htimings word hmem
    exact htime.neg_half_le hword
  refine ⟨fun _ _ _ => Literal.Denotes.neg_iff, fun _ _ _ => ofWord_of_neg, hread, ?_⟩
  intro word hmem negative q hword hlt
  cases hparse : parse source text with
  | ok times => exact absurd (hread times hparse word hmem negative q hword) (not_le.2 hlt)
  | error e =>
    obtain ⟨rfl, before, first, after, hsplit, -, hfirst⟩ := (parse_eq_error_iff hruns).1 hparse
    exact ⟨before, first, after, e.fault, hsplit, rfl, ofWord_error_cases hfirst⟩

/-- A text with a literal below zero that is reported. -/
theorem parse_negative_five :
    Literal.SaysNegative "-5".toList ∧
      ∃ before first after fault, ["3".toList, "-5".toList] = before ++ first :: after ∧
        parse "old.txt" "3 -5" = .error ⟨"old.txt", fault⟩ ∧
        (fault = .negative (.ofList first) before.length ∨
          fault = .invalid (.ofList first) before.length) := by
  have hword : Literal.Denotes "-5".toList true (-5) :=
    Literal.denotes_iff.2 ⟨⟨true, 5, 0⟩, rfl, rfl, by norm_num [Literal.value, Literal.withSign]⟩
  have hleast : leastPositive ≤ 1 := zpow_le_one_of_nonpos₀ (by norm_num) (by decide)
  obtain ⟨hneg, -, -, hreported⟩ := @parse_negative "old.txt" "3 -5" ["3".toList, "-5".toList]
    (Text.runs_iff.2 (by decide +kernel))
  exact ⟨(hneg _ _ _ hword).1 (by norm_num),
    hreported _ (by simp) _ _ hword (by linarith)⟩

/-- A text of one literal below zero that is read. -/
theorem parse_underflow :
    Text.Runs "-1e-400".toList ["-1e-400".toList] ∧ Literal.SaysNegative "-1e-400".toList ∧
      (∃ q < 0, Literal.Denotes "-1e-400".toList true q) ∧
        parse "inline" "-1e-400" = .ok [-0] := by
  have hword : Literal.Denotes "-1e-400".toList true (Literal.value ⟨true, 1, -400⟩) :=
    Literal.denotes_iff.2 ⟨⟨true, 1, -400⟩, by decide +kernel, rfl, rfl⟩
  have hneg : Literal.SaysNegative "-1e-400".toList := ⟨rfl, '1', by decide +kernel, by decide⟩
  exact ⟨Text.runs_iff.2 (by decide +kernel), hneg, ⟨_, hword.neg_iff.2 hneg, hword⟩,
    by decide +kernel⟩

end Timings

end BenchGate
