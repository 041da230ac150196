import BenchGate.Decimal.Numeral
import BenchGate.Proofs.Decimal.Literal
import BenchGate.Proofs.Decimal.Shortest

/-!
# Numerals read back

A numeral is a plain literal: digits without a zero in front, digits after a point if there is one,
and an exponent if there is one (`Literal.Plain`). All four layouts of a decimal are such literals
of its number (`Decimal.plain_layout`), so that the numeral of a finite double reads as this double,
zero without its sign (`Float.plain_numeralChars`).
-/

namespace BenchGate

namespace Literal

/-- A literal without a sign and without zeros in front, and its number. -/
inductive Plain : List Char → ℚ → Prop where
  | mk {whole fraction power : List Char} {e : ℤ} (hwhole : IsDigits whole)
      (hzero : whole = ['0'] ∨ whole.head? ≠ some '0')
      (hfraction : ∀ c ∈ fraction, c.isDigit = true) (hpower : Power power e) :
      Plain (whole ++ (if fraction.isEmpty then [] else '.' :: fraction) ++ power)
        (natOfDigits (whole ++ fraction) / 10 ^ fraction.length * 10 ^ e)

/-- A plain literal with a sign is a literal. -/
theorem Plain.denotes {sign text : List Char} {negative : Bool} {q : ℚ} (h : Plain text q)
    (hsign : Sign sign negative) : Denotes (sign ++ text) negative (withSign negative q) := by
  obtain ⟨hwhole, -, hfraction, hpower⟩ := h
  rw [← List.append_assoc]
  refine .mk hsign ?_ hpower
  split_ifs with hempty
  · rw [List.isEmpty_iff.1 hempty]
    simpa using Unsigned.whole hwhole
  · rw [← cast_natOfDigits_append]
    exact .point hwhole hfraction

end Literal

/-! ## Digits -/

namespace Decimal

open Literal

theorem isDigits_toDigits (n : ℕ) : IsDigits (Nat.toDigits 10 n) where
  ne_nil := Nat.toDigits_ne_nil
  isDigit := fun _ hc => Nat.isDigit_of_mem_toDigits (by norm_num) (by norm_num) hc

theorem isDigits_zero : IsDigits ['0'] where
  ne_nil := List.cons_ne_nil _ _
  isDigit := fun _ hc => List.mem_singleton.1 hc ▸ rfl

@[simp]
theorem natOfDigits_toDigits (n : ℕ) : natOfDigits (Nat.toDigits 10 n) = n :=
  Nat.ofDigitChars_ten_toDigits

/-- A positive number does not begin with a zero. -/
theorem head?_toDigits_ne {n : ℕ} (h : 0 < n) : (Nat.toDigits 10 n).head? ≠ some '0' := by
  induction n using Nat.strong_induction_on with
  | _ n ih =>
    rcases Nat.lt_or_ge n 10 with hlt | hge
    · rw [Nat.toDigits_of_lt_base hlt, List.head?_cons, ne_eq, Option.some.injEq,
        Nat.digitChar_eq_zero]
      exact h.ne'
    · rw [Nat.toDigits_of_base_le (by norm_num) hge,
        List.head?_append_of_ne_nil _ Nat.toDigits_ne_nil]
      exact ih (n / 10) (Nat.div_lt_self h (by norm_num)) (Nat.div_pos hge (by norm_num))

/-- Digits are nothing but digits. -/
theorem not_mem_of_isDigit {c : Char} {text : List Char} (hc : c.isDigit = false)
    (h : ∀ c ∈ text, c.isDigit = true) : c ∉ text :=
  fun hmem => Bool.false_ne_true (hc.symm.trans (h c hmem))

/-- Zeros may follow the digits, and digits may follow zeros. -/
theorem isDigit_replicate (n : ℕ) : ∀ c ∈ List.replicate n '0', c.isDigit = true := by
  intro c hc
  rw [List.eq_of_mem_replicate hc]
  rfl

/-- Digits up to a width are digits. -/
theorem isDigit_of_mem_padded {width n : ℕ} : ∀ c ∈ padded width n, c.isDigit = true :=
  List.forall_mem_append.2 ⟨isDigit_replicate _, (isDigits_toDigits n).isDigit⟩

/-- A number with so many places after the point is a sign with digits and a point. From the limit
on it is the shortest text. -/
theorem fixed_cases (places : ℕ) {x : Float} {negative : Bool} {mantissa : ℕ} {exponent : ℤ}
    (hx : Binary64.ofFloat x = .finite negative mantissa exponent) :
    (10 ^ 21 * (Binary64.quotient mantissa exponent).2 ≤ (Binary64.quotient mantissa exponent).1 ∧
      fixed places x = numeral x) ∨
    ∃ body : List Char, (∀ c ∈ body, c.isDigit = true ∨ c = '.') ∧ (fixed places x).toList =
      (if negative = true ∧ mantissa ≠ 0 then ['-'] else []) ++ body := by
  unfold fixed
  simp only [hx]
  split
  · next hlarge => exact .inl ⟨hlarge, rfl⟩
  · refine .inr ⟨_, ?_, by rw [String.toList_ofList, List.append_assoc]⟩
    generalize hdigits : padded _ _ = digits
    have hall : ∀ c ∈ digits, c.isDigit = true := hdigits ▸ isDigit_of_mem_padded
    intro c hc
    split_ifs at hc with hplaces
    · rw [List.append_nil] at hc
      exact .inl (hall c (List.mem_of_mem_take hc))
    · rcases List.mem_append.1 hc with hc | hc
      · exact .inl (hall c (List.mem_of_mem_take hc))
      · rcases List.mem_cons.1 hc with rfl | hc
        · exact .inr rfl
        · exact .inl (hall c (List.mem_of_mem_drop hc))

/-! ## Layouts -/

/-- A text with no point and no exponent. -/
theorem plain_whole {whole : List Char} (hwhole : IsDigits whole)
    (hzero : whole = ['0'] ∨ whole.head? ≠ some '0') : Plain whole (natOfDigits whole) := by
  simpa using Plain.mk hwhole hzero (List.forall_mem_nil _) .none

/-- A text with a point and no exponent. -/
theorem plain_point {whole fraction : List Char} (hwhole : IsDigits whole)
    (hzero : whole = ['0'] ∨ whole.head? ≠ some '0') (hfraction : IsDigits fraction) :
    Plain (whole ++ '.' :: fraction) (natOfDigits (whole ++ fraction) / 10 ^ fraction.length) := by
  have hplain := Plain.mk hwhole hzero hfraction.isDigit .none
  rw [if_neg (by simpa using hfraction.ne_nil)] at hplain
  simpa using hplain

@[simp]
theorem natOfDigits_replicate (n : ℕ) : natOfDigits (List.replicate n '0') = 0 := by
  rw [natOfDigits, Nat.ofDigitChars_replicate_zero, Nat.mul_zero]

/-- An exponent with its sign. -/
theorem power_exponent (e : ℤ) :
    Power ('e' :: (if e < 0 then '-' else '+') :: Nat.toDigits 10 e.natAbs) e := by
  have hdigits := isDigits_toDigits e.natAbs
  split_ifs with h
  · have hpower := Power.exponent (.inl rfl) Sign.minus hdigits
    rw [natOfDigits_toDigits, withSign, if_pos rfl] at hpower
    rwa [show -(e.natAbs : ℤ) = e by omega] at hpower
  · have hpower := Power.exponent (.inl rfl) Sign.plus hdigits
    rw [natOfDigits_toDigits, withSign, if_neg (by simp)] at hpower
    rwa [show (e.natAbs : ℤ) = e by omega] at hpower

section
variable {digits : List Char} (hdigits : IsDigits digits)
include hdigits

/-- Zeros between the point and the digits. -/
theorem plain_zeros_before (k : ℕ) : Plain ('0' :: '.' :: (List.replicate k '0' ++ digits))
    (natOfDigits digits * 10 ^ (-(k + digits.length) : ℤ)) := by
  have hall : IsDigits (List.replicate k '0' ++ digits) :=
    ⟨by simp [hdigits.ne_nil], List.forall_mem_append.2 ⟨isDigit_replicate k, hdigits.isDigit⟩⟩
  have hplain := plain_point isDigits_zero (.inl rfl) hall
  have hzeros : natOfDigits (['0'] ++ (List.replicate k '0' ++ digits)) = natOfDigits digits := by
    rw [natOfDigits_append, natOfDigits_append, natOfDigits_replicate]
    simp [natOfDigits, Nat.ofDigitChars_cons]
  have hvalue := value_of_places (natOfDigits digits) (k + digits.length) 0
  rw [hzeros, List.length_append, List.length_replicate] at hplain
  rw [zpow_zero, mul_one, zero_sub] at hvalue
  rw [hvalue] at hplain
  exact_mod_cast hplain

variable (hhead : digits.head? ≠ some '0')
include hhead

/-- Zeros after the digits. -/
theorem plain_zeros_after (k : ℕ) :
    Plain (digits ++ List.replicate k '0') (natOfDigits digits * 10 ^ (k : ℤ)) := by
  have hall : IsDigits (digits ++ List.replicate k '0') :=
    ⟨by simp [hdigits.ne_nil], List.forall_mem_append.2 ⟨hdigits.isDigit, isDigit_replicate k⟩⟩
  have hplain := plain_whole hall (.inr (by rwa [List.head?_append_of_ne_nil _ hdigits.ne_nil]))
  rw [natOfDigits_append, natOfDigits_replicate, List.length_replicate, add_zero, mul_comm]
    at hplain
  rw [zpow_natCast]
  exact_mod_cast hplain

/-- A point between two digits. -/
theorem plain_between {k : ℕ} (hk : 0 < k) (hk' : k < digits.length) :
    Plain (digits.take k ++ '.' :: digits.drop k)
      (natOfDigits digits * 10 ^ (k - digits.length : ℤ)) := by
  have hplain := plain_point (hdigits.take hk)
    (.inr (by rwa [List.head?_take, if_neg hk.ne'])) (hdigits.drop hk')
  have hvalue := value_of_places (natOfDigits digits) (digits.length - k) 0
  rw [List.take_append_drop, List.length_drop] at hplain
  rw [zpow_zero, mul_one, show (0 : ℤ) - (digits.length - k : ℕ) = k - digits.length by omega]
    at hvalue
  rwa [hvalue] at hplain

/-- The point after the first digit, if there are others, and an exponent. -/
theorem plain_power {power : List Char} {e : ℤ} (hpower : Power power e) :
    Plain (digits.take 1 ++ (if (digits.drop 1).isEmpty then [] else '.' :: digits.drop 1) ++ power)
      (natOfDigits digits * 10 ^ (e - (digits.length - 1 : ℕ))) := by
  have hothers : ∀ c ∈ digits.drop 1, c.isDigit = true := fun c hc =>
    hdigits.isDigit c (List.mem_of_mem_drop hc)
  have hplain := Plain.mk (hdigits.take Nat.one_pos)
    (.inr (by rwa [List.head?_take, if_neg Nat.one_ne_zero])) hothers hpower
  rwa [List.take_append_drop, value_of_places, List.length_drop] at hplain

end

/-- A decimal is laid out as a plain literal of its number. -/
theorem plain_layout {d : Decimal} (h : 0 < d.digits) : Plain d.layout d.value := by
  have hdigits := isDigits_toDigits d.digits
  have hhead := head?_toDigits_ne h
  have hnat := natOfDigits_toDigits d.digits
  have hlen : 0 < (Nat.toDigits 10 d.digits).length := Nat.length_toDigits_pos
  unfold layout value
  simp only
  generalize Nat.toDigits 10 d.digits = digits at *
  split
  · obtain ⟨k, hk⟩ := Int.eq_ofNat_of_zero_le (show 0 ≤ d.scale by omega)
    rw [← hnat, hk, Int.toNat_natCast]
    exact plain_zeros_after hdigits hhead k
  split
  · next hpoint =>
    obtain ⟨k, hk⟩ := Int.eq_ofNat_of_zero_le hpoint.1.le
    rw [← hnat, show d.scale = k - digits.length by omega, add_sub_cancel, Int.toNat_natCast]
    exact plain_between hdigits hhead (by omega) (by omega)
  split
  · obtain ⟨k, hk⟩ := Int.eq_ofNat_of_zero_le (show 0 ≤ -(digits.length + d.scale) by omega)
    rw [← hnat, hk, Int.toNat_natCast, show d.scale = -(k + digits.length) by omega]
    exact plain_zeros_before hdigits k
  · have hplain := plain_power hdigits hhead (power_exponent (digits.length + d.scale - 1))
    rwa [hnat, show (digits.length + d.scale - 1 : ℤ) - (digits.length - 1 : ℕ) = d.scale by omega]
      at hplain

/-- The least decimal is zero. -/
theorem plain_layout_zero : Plain (layout ⟨0, 0⟩) 0 := by
  have hplain := plain_whole isDigits_zero (.inl rfl)
  rwa [show natOfDigits ['0'] = 0 from rfl, Nat.cast_zero] at hplain

end Decimal

end BenchGate

/-! ## Doubles -/

namespace Float

open BenchGate BenchGate.Binary64 BenchGate.Literal

/-- A double as a numeral gives it back: zero loses its sign. -/
def readBack (x : Float) : Float := if x == 0 then 0 else x

variable {x : Float}

/-- A double without a value is a zero. -/
theorem readBack_of_value_eq_zero (hx : x.isFinite = true) (h : x.value = 0) : x.readBack = 0 := by
  rw [readBack, if_pos (beq_iff.2 ⟨isNaN_of_isFinite hx, by decide +kernel, by rw [h, value_zero]⟩)]

theorem readBack_of_value_ne_zero (h : x.value ≠ 0) : x.readBack = x := by
  rw [readBack, if_neg]
  rw [beq_iff, value_zero]
  exact fun hzero => h hzero.2.2

/-- Mantissa and exponent of a double that is not zero. -/
theorem exists_of_isFinite (hx : x.isFinite = true) (h : x.value ≠ 0) :
    ∃ negative mantissa exponent, ofFloat x = .finite negative mantissa exponent ∧
      IsReduced mantissa exponent ∧ x.value = withSign negative (mantissa * 2 ^ exponent : ℚ) := by
  have hdouble := isDouble_toModel x
  have hfinite : x.toModel.unpack.isFinite = true := hx
  cases hunpack : x.toModel.unpack with
  | notANumber | infinity => rw [hunpack] at hfinite; cases hfinite
  | zero s => rw [value_eq, hunpack] at h; exact absurd rfl h
  | finite s m e hm =>
    rw [hunpack] at hdouble
    obtain ⟨⟨hlt, hleast, hfull⟩, -⟩ := hdouble
    refine ⟨(ofFloat x).negative, m, e, ?_, ⟨hm, hlt, hleast, hfull⟩, ?_⟩
    · cases s <;> simp [ofFloat, hunpack, Binary64.negative]
    · cases s <;> simp [value, ofFloat, hunpack, Binary64.negative, toRat, withSign]

/-- A double with mantissa and exponent is finite. -/
theorem isFinite_of_ofFloat {negative : Bool} {mantissa : ℕ} {exponent : ℤ}
    (h : ofFloat x = .finite negative mantissa exponent) : x.isFinite = true := by
  change x.toModel.unpack.isFinite = true
  unfold ofFloat at h
  cases hunpack : x.toModel.unpack with
  | notANumber | infinity => simp [hunpack] at h
  | zero | finite => rfl

/-- The numeral of zero. -/
theorem numeralChars_of_value_eq_zero (hx : x.isFinite = true) (h : x.value = 0) :
    numeralChars x = Decimal.layout ⟨0, 0⟩ := by
  have hfinite : x.toModel.unpack.isFinite = true := hx
  rw [value_eq] at h
  unfold numeralChars ofFloat
  cases hunpack : x.toModel.unpack with
  | notANumber | infinity => rw [hunpack] at hfinite; cases hfinite
  | zero s => simp [Decimal.shortest]
  | finite s m e hm =>
    rw [hunpack, unpackedValue] at h
    have habs := abs_signed s ((m : ℚ) * 2 ^ e)
    rw [h, abs_zero, abs_of_pos (mul_zpow_pos hm e)] at habs
    exact absurd habs (mul_zpow_pos hm e).ne

/-- The numeral of a double with the digits of its shortest decimal. -/
theorem isNearest_shortest {negative : Bool} {mantissa : ℕ} {exponent : ℤ}
    (hx : x.isFinite = true) (hofFloat : ofFloat x = .finite negative mantissa exponent)
    (hreduced : IsReduced mantissa exponent)
    (hvalue : x.value = withSign negative (mantissa * 2 ^ exponent : ℚ)) :
    x.IsNearest negative (withSign negative (Decimal.shortest mantissa exponent).value) := by
  have hnearest := Decimal.nearest_shortest hreduced
  have hlt := (isFinite_iff.1 hx).2
  have hround : Binary64.round (Decimal.shortest mantissa exponent).value =
      mantissa * 2 ^ exponent := by
    rw [← hnearest]
    refine round_eq_nearest (le_trans (le_of_eq ?_) hlt.le)
    rw [hvalue, hnearest]
    cases negative <;> simp [withSign]
  refine ⟨isNaN_of_isFinite hx, ?_, by rw [hofFloat]; rfl⟩
  rw [hvalue]
  cases negative
  · exact hround.symm
  · simp only [withSign, if_true, round_neg, hround]

/-- The numeral of a finite double is a plain literal, with a minus in front of a double below zero,
and the double nearest to its number is the double itself, zero without its sign. -/
theorem plain_numeralChars (hx : x.isFinite = true) :
    ∃ sign text negative q, numeralChars x = sign ++ text ∧ Sign sign negative ∧ sign ≠ ['+'] ∧
      Plain text q ∧ x.readBack.IsNearest negative (withSign negative q) := by
  by_cases h : x.value = 0
  · refine ⟨[], _, false, 0, numeralChars_of_value_eq_zero hx h, .none, by simp,
      Decimal.plain_layout_zero, ?_⟩
    rw [readBack_of_value_eq_zero hx h]
    exact ⟨by decide +kernel, by simp [withSign], by decide +kernel⟩
  · obtain ⟨negative, mantissa, exponent, hofFloat, hreduced, hvalue⟩ := exists_of_isFinite hx h
    have hnearest := isNearest_shortest hx hofFloat hreduced hvalue
    have hdigits : 0 < (Decimal.shortest mantissa exponent).digits := by
      refine Nat.pos_of_ne_zero fun hzero => ?_
      have hshortest := Decimal.nearest_shortest hreduced
      rw [Decimal.value, hzero, Nat.cast_zero, zero_mul, nearest_zero] at hshortest
      exact (mul_zpow_pos hreduced.pos exponent).ne hshortest
    refine ⟨if negative then ['-'] else [], _, negative, _, ?_, ?_, ?_,
      Decimal.plain_layout hdigits, by rwa [readBack_of_value_ne_zero h]⟩
    · simp [numeralChars, hofFloat, hreduced.pos.ne']
    · cases negative
      · exact .none
      · exact .minus
    · cases negative <;> simp

/-- A numeral says nothing about the sign of zero. -/
theorem numeralChars_readBack (hx : x.isFinite = true) :
    numeralChars x.readBack = numeralChars x := by
  by_cases h : x.value = 0
  · rw [readBack_of_value_eq_zero hx h, numeralChars_of_value_eq_zero hx h,
      numeralChars_of_value_eq_zero (by decide +kernel) value_zero]
  · rw [readBack_of_value_ne_zero h]

theorem isFinite_readBack (hx : x.isFinite = true) : x.readBack.isFinite = true := by
  by_cases h : x.value = 0
  · rw [readBack_of_value_eq_zero hx h]
    decide +kernel
  · rwa [readBack_of_value_ne_zero h]

/-- Finite doubles read back alike when they are equal as numbers. -/
theorem readBack_eq_iff {y : Float} (hx : x.isFinite = true) (hy : y.isFinite = true) :
    x.readBack = y.readBack ↔ (x == y) = true := by
  have hvalue : ∀ {x : Float}, x.isFinite = true → x.readBack.value = x.value := by
    intro x hx
    by_cases h : x.value = 0
    · rw [readBack_of_value_eq_zero hx h, value_zero, h]
    · rw [readBack_of_value_ne_zero h]
  rw [beq_iff]
  constructor
  · intro h
    exact ⟨isNaN_of_isFinite hx, isNaN_of_isFinite hy, by rw [← hvalue hx, h, hvalue hy]⟩
  · rintro ⟨hnan, hnan', h⟩
    by_cases hzero : x.value = 0
    · rw [readBack_of_value_eq_zero hx hzero, readBack_of_value_eq_zero hy (h ▸ hzero)]
    · rw [eq_of_value_ne_zero hnan hnan' h hzero]

end Float
