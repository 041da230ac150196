import BenchGate.Proofs.Binary64.Extremes
import BenchGate.Proofs.Decimal.Sign

/-!
# Numbers with a fixed number of places

`shown?` is the number that a text shows, exactly. A double from zero on is printed as its value
rounded to the places, a half going up, and from `10 ^ 21` on as its shortest text (`IsFixed`,
`isFixed_fixed`). Both ways of printing keep the order, and so does the step from one to the other:
of two doubles the smaller one never shows the larger number (`IsFixed.showsLE`).
-/

namespace BenchGate

open Binary64 Literal

/-! ## Reading a printed number -/

/-- The number that a text shows: infinity, or exactly that of a decimal literal. -/
def shown? (text : String) : Option (WithTop ℚ) :=
  if text = "Infinity" then some ⊤
  else (Literal.ofChars? text.toList).map fun l => (l.value : WithTop ℚ)

/-- Two texts show numbers, and the first one the smaller number. -/
def ShowsLE (first second : String) : Prop :=
  ∃ p q, shown? first = some p ∧ shown? second = some q ∧ p ≤ q

theorem shown?_infinity : shown? "Infinity" = some ⊤ := if_pos rfl

/-- A plain literal shows its number. -/
theorem shown?_of_plain {text : List Char} {q : ℚ} (h : Plain text q) :
    shown? (.ofList text) = some (q : WithTop ℚ) := by
  obtain ⟨l, hl, -, hvalue⟩ := denotes_iff.1 (h.denotes .none)
  rw [List.nil_append] at hl
  have hne : String.ofList text ≠ "Infinity" := by
    intro heq
    have htext : text = "Infinity".toList := by rw [← heq, String.toList_ofList]
    have hnone : Literal.ofChars? "Infinity".toList = none := by decide +kernel
    rw [htext, hnone] at hl
    cases hl
  rw [shown?, if_neg hne, String.toList_ofList, hl, Option.map_some, hvalue, withSign,
    if_neg Bool.false_ne_true]

/-! ## Rounding -/

/-- The quotient rounded to a whole number is the floor of the number half above it. -/
theorem nearestWhole_eq_floor {a b : ℕ} (hb : 0 < b) :
    nearestWhole a b = ⌊(a / b + 1 / 2 : ℚ)⌋₊ := by
  have hb' : (b : ℚ) ≠ 0 := Nat.cast_ne_zero.2 hb.ne'
  have hquotient : (a / b + 1 / 2 : ℚ) = ((2 * a + b : ℕ) : ℚ) / (2 * b : ℕ) := by
    push_cast
    field_simp
  rw [nearestWhole, hquotient, Nat.floor_div_eq_div]

namespace Decimal

/-- Zeros in front change no number. -/
theorem natOfDigits_padded (width n : ℕ) : natOfDigits (padded width n) = n := by
  rw [padded, natOfDigits_append, natOfDigits_replicate, mul_zero, zero_add, natOfDigits_toDigits]

theorem length_padded (width n : ℕ) : width ≤ (padded width n).length := by
  rw [padded, List.length_append, List.length_replicate]
  omega

/-- Digits up to a width begin with a zero only where the width asks for it: the part in front of
so many places is a single zero, or begins with another digit. -/
theorem whole_padded {places n : ℕ} :
    (padded (places + 1) n).take ((padded (places + 1) n).length - places) = ['0'] ∨
      ((padded (places + 1) n).take ((padded (places + 1) n).length - places)).head? ≠
        some '0' := by
  have hlength := length_padded (places + 1) n
  rw [List.head?_take, if_neg (by omega)]
  rcases Nat.lt_or_ge (Nat.toDigits 10 n).length (places + 1) with hshort | hlong
  · obtain ⟨k, hk⟩ := Nat.exists_eq_add_of_lt hshort
    left
    have hpadded : padded (places + 1) n = '0' :: (List.replicate k '0' ++ Nat.toDigits 10 n) := by
      rw [padded, show places + 1 - (Nat.toDigits 10 n).length = k + 1 by omega]
      rfl
    have htake : (padded (places + 1) n).length - places = 1 := by
      rw [hpadded, List.length_cons, List.length_append, List.length_replicate]
      omega
    rw [htake, hpadded]
    rfl
  · have hpadded : padded (places + 1) n = Nat.toDigits 10 n := by
      rw [padded, Nat.sub_eq_zero_of_le hlong]
      rfl
    rw [hpadded]
    rcases Nat.eq_zero_or_pos n with rfl | hpos
    · left
      obtain rfl : places = 0 := by simpa using hlong
      rfl
    · exact .inr (head?_toDigits_ne hpos)

end Decimal

/-- The text of a double from zero on with so many places: its value rounded, a half going up, and
from `10 ^ 21` on its shortest text. -/
inductive IsFixed (places : ℕ) (x : Float) : String → Prop where
  | rounded {whole fraction : List Char} (hx : x.value < 10 ^ 21) (hwhole : IsDigits whole)
      (hzero : whole = ['0'] ∨ whole.head? ≠ some '0') (hfraction : IsDigits fraction)
      (hplaces : fraction.length = places)
      (hnat : natOfDigits (whole ++ fraction) = ⌊x.value * 10 ^ places + 1 / 2⌋₊) :
      IsFixed places x (.ofList (whole ++ '.' :: fraction))
  | shortest (hx : 10 ^ 21 ≤ x.value) : IsFixed places x (numeral x)

section
variable {places : ℕ} {x y : Float} {text : String}

/-- A finite double has mantissa and exponent. -/
theorem exists_ofFloat (hx : x.isFinite = true) :
    ∃ negative mantissa exponent, ofFloat x = .finite negative mantissa exponent := by
  change x.toModel.unpack.isFinite = true at hx
  unfold ofFloat
  cases hunpack : x.toModel.unpack with
  | notANumber | infinity => rw [hunpack] at hx; cases hx
  | zero | finite => exact ⟨_, _, _, rfl⟩

theorem ofFloat_infinity : ofFloat infinity = .infinite false := by
  decide +kernel

theorem limit_le_overflow : (10 : ℚ) ^ 21 ≤ overflow := by
  calc (10 : ℚ) ^ 21 ≤ 2 ^ 70 := by norm_num
    _ ≤ 2 ^ 1024 := pow_le_pow_right₀ (by norm_num) (by norm_num)

/-- What is printed with places is the rounded value. -/
theorem isFixed_fixed (hplaces : 0 < places) (h : 0 ≤ x) : IsFixed places x (fixed places x) := by
  rcases Float.isFinite_or_eq_infinity h with hfin | rfl
  · obtain ⟨negative, mantissa, exponent, hx⟩ := exists_ofFloat hfin
    have hb := quotient_snd_pos mantissa exponent
    have hvalue := value_of_nonneg h hx
    rw [← quotient_eq] at hvalue
    unfold fixed
    simp only [hx, Nat.pow_eq]
    generalize quotient mantissa exponent = pair at hb hvalue
    obtain ⟨a, b⟩ := pair
    dsimp only at hb hvalue ⊢
    have hb' : (0 : ℚ) < b := Nat.cast_pos.2 hb
    split
    · next hlarge =>
      refine .shortest ?_
      rw [hvalue, le_div_iff₀ hb']
      exact_mod_cast hlarge
    · next hsmall =>
      rw [if_neg (not_negative_of_nonneg h hx), if_neg hplaces.ne', List.nil_append]
      have hwhole := @Decimal.whole_padded places (nearestWhole (a * 10 ^ places) b)
      have hlength := Decimal.length_padded (places + 1) (nearestWhole (a * 10 ^ places) b)
      have hnat := Decimal.natOfDigits_padded (places + 1) (nearestWhole (a * 10 ^ places) b)
      have hdigits : IsDigits (Decimal.padded (places + 1) (nearestWhole (a * 10 ^ places) b)) :=
        ⟨List.ne_nil_of_length_pos (by omega), Decimal.isDigit_of_mem_padded⟩
      generalize Decimal.padded _ _ = digits at *
      refine .rounded ?_ (hdigits.take (by omega)) hwhole (hdigits.drop (by omega)) ?_ ?_
      · rw [hvalue, div_lt_iff₀ hb']
        exact_mod_cast not_le.1 hsmall
      · rw [List.length_drop]
        omega
      · rw [List.take_append_drop, hnat, nearestWhole_eq_floor hb, hvalue]
        push_cast
        rw [div_mul_eq_mul_div]
  · have hnumeral : fixed places infinity = numeral infinity := by
      rw [fixed, ofFloat_infinity]
    rw [hnumeral]
    exact .shortest (Float.value_infinity ▸ limit_le_overflow)

/-- The text depends only on the value. -/
theorem IsFixed.of_value_eq (h : IsFixed places x text) (hx : x.isNaN = false)
    (hy : y.isNaN = false) (hvalue : x.value = y.value) : IsFixed places y text := by
  cases h with
  | rounded hlt hwhole hzero hfraction hplaces hnat =>
    rw [hvalue] at hlt hnat
    exact .rounded hlt hwhole hzero hfraction hplaces hnat
  | shortest hle =>
    have hne : x.value ≠ 0 := fun h0 => absurd hle (by norm_num [h0])
    rw [Float.eq_of_value_ne_zero hx hy hvalue hne] at hle ⊢
    exact .shortest hle

/-! ## Order -/

/-- The shortest text of a finite double above zero shows a number that rounds to the double. -/
theorem shown?_numeral (hx : x.isFinite = true) (hpos : 0 < x.value) :
    ∃ q : ℚ, shown? (numeral x) = some (q : WithTop ℚ) ∧ Binary64.round q = x.value := by
  obtain ⟨sign, text, negative, q, hchars, hsign, hplus, hplain, hnearest⟩ :=
    Float.plain_numeralChars hx
  rw [Float.readBack_of_value_ne_zero hpos.ne'] at hnearest
  obtain rfl : negative = false := by
    rw [← hnearest.negative, Float.negative_of_value hpos.ne']
    exact decide_eq_false hpos.not_gt
  obtain rfl : sign = [] := by
    cases hsign with
    | none => rfl
    | plus => exact absurd rfl hplus
  refine ⟨q, ?_, hnearest.value.symm⟩
  rw [numeral, hchars, List.nil_append]
  exact shown?_of_plain hplain

theorem shown?_numeral_infinity : shown? (numeral infinity) = some ⊤ := by
  have hinfinity : numeral infinity = "Infinity" := by decide +kernel
  rw [hinfinity, shown?_infinity]

/-- The shortest texts of two doubles above zero are in order. -/
theorem numeral_showsLE (hpos : 0 < x.value) (hle : x ≤ y) : ShowsLE (numeral x) (numeral y) := by
  obtain ⟨hx, hy, hvalue⟩ := Float.le_iff.1 hle
  rcases Float.isFinite_or_eq_infinity (Float.nonneg_iff.2 ⟨hy, hpos.le.trans hvalue⟩) with
    hyfin | rfl
  · have hxfin := Float.isFinite_of_le (Float.nonneg_iff.2 ⟨hx, hpos.le⟩) hle hyfin
    rcases hvalue.eq_or_lt with heq | hlt
    · obtain ⟨q, hq, -⟩ := shown?_numeral hxfin hpos
      obtain rfl := Float.eq_of_value_ne_zero hx hy heq hpos.ne'
      exact ⟨q, q, hq, hq, le_rfl⟩
    · obtain ⟨p, hp, hroundp⟩ := shown?_numeral hxfin hpos
      obtain ⟨q, hq, hroundq⟩ := shown?_numeral hyfin (hpos.trans hlt)
      refine ⟨p, q, hp, hq, WithTop.coe_le_coe.2 (le_of_lt ?_)⟩
      by_contra hnot
      have hround := round_mono (not_lt.1 hnot)
      rw [hroundp, hroundq] at hround
      exact hlt.not_ge hround
  · rcases Float.isFinite_or_eq_infinity (Float.nonneg_iff.2 ⟨hx, hpos.le⟩) with hxfin | rfl
    · obtain ⟨p, hp, -⟩ := shown?_numeral hxfin hpos
      exact ⟨p, ⊤, hp, shown?_numeral_infinity, le_top⟩
    · exact ⟨⊤, ⊤, shown?_numeral_infinity, shown?_numeral_infinity, le_rfl⟩

/-- The double from which on the shortest text is printed shows its value. -/
theorem value_limit : (1e21 : Float).value = 10 ^ 21 ∧
    shown? (numeral 1e21) = some ((10 ^ 21 : ℚ) : WithTop ℚ) := by
  have hlimit : ofFloat 1e21 = .finite false (5 ^ 21 * 2 ^ 4) 17 := by decide +kernel
  have hnumeral : numeral 1e21 = .ofList (Decimal.layout ⟨1, 21⟩) := by decide +kernel
  constructor
  · rw [Float.value, hlimit]
    norm_num [toRat]
  · rw [hnumeral, shown?_of_plain (Decimal.plain_layout Nat.one_pos)]
    norm_num [Decimal.value]

/-- A rounded number shows what it is rounded to. -/
theorem IsFixed.shown_of_lt (h : IsFixed places x text) (hlt : x.value < 10 ^ 21) :
    shown? text = some ((⌊x.value * 10 ^ places + 1 / 2⌋₊ / 10 ^ places : ℚ) : WithTop ℚ) := by
  cases h with
  | shortest hle => exact absurd hlt hle.not_gt
  | rounded _ hwhole hzero hfraction hplaces hnat =>
    rw [shown?_of_plain (Decimal.plain_point hwhole hzero hfraction), hnat, hplaces]

theorem IsFixed.eq_numeral (h : IsFixed places x text) (hle : 10 ^ 21 ≤ x.value) :
    text = numeral x := by
  cases h with
  | shortest => rfl
  | rounded hlt => exact absurd hlt hle.not_gt

/-- A value below `10 ^ 21` is rounded to at most this number. -/
theorem floor_le_limit {q : ℚ} (h : q ≤ 10 ^ 21) :
    (⌊q * 10 ^ places + 1 / 2⌋₊ / 10 ^ places : ℚ) ≤ 10 ^ 21 := by
  have hten : (0 : ℚ) < 10 ^ places := by positivity
  have hlt : ⌊q * 10 ^ places + 1 / 2⌋₊ < 10 ^ 21 * 10 ^ places + 1 := by
    refine (Nat.floor_lt' (Nat.succ_ne_zero _)).2 ?_
    have hmul := mul_le_mul_of_nonneg_right h hten.le
    push_cast
    linarith
  rw [div_le_iff₀ hten]
  exact_mod_cast Nat.le_of_lt_succ hlt

/-- The smaller of two doubles never shows the larger number. Where only the larger one is printed
with its shortest text, `10 ^ 21` stands between the two numbers. -/
theorem IsFixed.showsLE {text' : String} (h : IsFixed places x text) (h' : IsFixed places y text')
    (hle : x ≤ y) : ShowsLE text text' := by
  obtain ⟨-, hy, hvalue⟩ := Float.le_iff.1 hle
  have hten : (0 : ℚ) < 10 ^ places := by positivity
  rcases lt_or_ge x.value (10 ^ 21) with hx | hx
  · rcases lt_or_ge y.value (10 ^ 21) with hlt | hge
    · refine ⟨_, _, h.shown_of_lt hx, h'.shown_of_lt hlt, WithTop.coe_le_coe.2 ?_⟩
      have hfloor : ⌊x.value * 10 ^ places + 1 / 2⌋₊ ≤ ⌊y.value * 10 ^ places + 1 / 2⌋₊ :=
        Nat.floor_le_floor (by linarith [mul_le_mul_of_nonneg_right hvalue hten.le])
      exact div_le_div_of_nonneg_right (Nat.cast_le.2 hfloor) hten.le
    · obtain ⟨hlimit, hshown⟩ := value_limit
      obtain ⟨p, q, hp, hq, hpq⟩ := numeral_showsLE (x := 1e21) (y := y) (by rw [hlimit]; norm_num)
        (Float.le_iff.2 ⟨by decide +kernel, hy, hlimit.trans_le hge⟩)
      obtain rfl := Option.some.inj (hshown.symm.trans hp)
      rw [h'.eq_numeral hge]
      exact ⟨_, q, h.shown_of_lt hx, hq, (WithTop.coe_le_coe.2 (floor_le_limit hx.le)).trans hpq⟩
  · rw [h.eq_numeral hx, h'.eq_numeral (hx.trans hvalue)]
    exact numeral_showsLE (lt_of_lt_of_le (by norm_num) hx) hle

end

end BenchGate
