import BenchGate.Decimal.Literal
import BenchGate.Proofs.Binary64.Scientific
import BenchGate.Proofs.Text.Words

/-!
# The grammar of decimal literals

`Literal.Denotes` is the grammar of decimal literals with the number each of them stands for: an
optional sign, digits with an optional point and further digits, or a point and digits, then an
optional exponent. `Literal.denotes_iff` says that `Literal.ofChars?` reads exactly these texts, and
`Literal.isNearest_toFloat` that a literal becomes the double nearest to its number.
-/

namespace BenchGate.Literal

/-- A number of given size and sign. -/
def withSign {α : Type} [Neg α] (negative : Bool) (q : α) : α := if negative then -q else q

/-- The number of a literal. -/
def value (l : Literal) : ℚ := withSign l.negative (l.mantissa * 10 ^ l.exponent)

/-- A literal becomes the double nearest to its number. -/
theorem isNearest_toFloat (l : Literal) : l.toFloat.IsNearest l.negative l.value := by
  have habs : (if decide (l.exponent < 0) then -(l.exponent.natAbs : ℤ) else l.exponent.natAbs) =
      l.exponent := by
    simp only [decide_eq_true_eq]
    split_ifs <;> omega
  have hnearest := Float.isNearest_ofScientific l.mantissa (l.exponent < 0) l.exponent.natAbs
  rw [habs] at hnearest
  unfold toFloat value withSign
  cases l.negative
  · exact hnearest
  · exact hnearest.neg

/-! ## The grammar -/

/-- Decimal digits, at least one. -/
structure IsDigits (text : List Char) : Prop where
  ne_nil : text ≠ []
  isDigit : ∀ c ∈ text, c.isDigit = true

/-- An optional sign; `true` is minus. -/
inductive Sign : List Char → Bool → Prop where
  | none : Sign [] false
  | plus : Sign ['+'] false
  | minus : Sign ['-'] true

/-- Digits with an optional point and further digits, or a point and digits. -/
inductive Unsigned : List Char → ℚ → Prop where
  | whole {whole : List Char} (h : IsDigits whole) : Unsigned whole (natOfDigits whole)
  | point {whole fraction : List Char} (h : IsDigits whole)
      (h' : ∀ c ∈ fraction, c.isDigit = true) :
      Unsigned (whole ++ '.' :: fraction)
        (natOfDigits whole + natOfDigits fraction / 10 ^ fraction.length)
  | fraction {fraction : List Char} (h : IsDigits fraction) :
      Unsigned ('.' :: fraction) (natOfDigits fraction / 10 ^ fraction.length)

/-- An optional exponent. -/
inductive Power : List Char → ℤ → Prop where
  | none : Power [] 0
  | exponent {mark : Char} {sign digits : List Char} {negative : Bool}
      (hmark : mark = 'e' ∨ mark = 'E') (hsign : Sign sign negative) (h : IsDigits digits) :
      Power (mark :: (sign ++ digits)) (withSign negative (natOfDigits digits : ℤ))

/-- The texts of decimal literals, with their sign and number. -/
inductive Denotes : List Char → Bool → ℚ → Prop where
  | mk {sign magnitude power : List Char} {negative : Bool} {q : ℚ} {e : ℤ}
      (hsign : Sign sign negative) (hmagnitude : Unsigned magnitude q) (hpower : Power power e) :
      Denotes (sign ++ magnitude ++ power) negative (withSign negative (q * 10 ^ e))

/-! ## Which characters -/

/-- The characters of a literal. -/
def IsLiteralChar (c : Char) : Prop := c.isDigit = true ∨ c ∈ ['+', '-', '.', 'e', 'E']

instance : DecidablePred IsLiteralChar := fun _ => inferInstanceAs (Decidable (_ ∨ _))

theorem Sign.isLiteralChar {text : List Char} {negative : Bool} (h : Sign text negative) :
    ∀ c ∈ text, IsLiteralChar c := by
  intro c hc
  cases h with
  | none => cases hc
  | plus | minus =>
    obtain rfl := List.mem_singleton.1 hc
    decide

theorem Unsigned.isLiteralChar {text : List Char} {q : ℚ} (h : Unsigned text q) :
    ∀ c ∈ text, IsLiteralChar c := by
  have hpoint : IsLiteralChar '.' := by decide
  cases h with
  | whole h => exact fun c hc => .inl (h.isDigit c hc)
  | point h h' =>
    intro c hc
    rcases List.mem_append.1 hc with hc | hc
    · exact .inl (h.isDigit c hc)
    rcases List.mem_cons.1 hc with rfl | hc
    · exact hpoint
    · exact .inl (h' c hc)
  | fraction h =>
    intro c hc
    rcases List.mem_cons.1 hc with rfl | hc
    · exact hpoint
    · exact .inl (h.isDigit c hc)

theorem Power.isLiteralChar {text : List Char} {e : ℤ} (h : Power text e) :
    ∀ c ∈ text, IsLiteralChar c := by
  cases h with
  | none => exact fun c hc => absurd hc List.not_mem_nil
  | exponent hmark hsign h =>
    intro c hc
    rcases List.mem_cons.1 hc with rfl | hc
    · rcases hmark with rfl | rfl <;> decide
    rcases List.mem_append.1 hc with hc | hc
    · exact hsign.isLiteralChar c hc
    · exact .inl (h.isDigit c hc)

/-- A literal is made of digits, signs, points and exponent marks. -/
theorem Denotes.isLiteralChar {text : List Char} {negative : Bool} {q : ℚ}
    (h : Denotes text negative q) : ∀ c ∈ text, IsLiteralChar c := by
  obtain ⟨hsign, hmagnitude, hpower⟩ := h
  intro c hc
  rcases List.mem_append.1 hc with hc | hc
  · rcases List.mem_append.1 hc with hc | hc
    · exact hsign.isLiteralChar c hc
    · exact hmagnitude.isLiteralChar c hc
  · exact hpower.isLiteralChar c hc

/-! ## The reader follows the grammar -/

/-- The digits that are read and what follows them make up the text. -/
theorem eq_append_of_span {text front rest : List Char}
    (h : text.span Char.isDigit = (front, rest)) :
    text = front ++ rest ∧ ∀ c ∈ front, c.isDigit = true := by
  rw [List.span_eq_takeWhile_dropWhile, Prod.mk.injEq] at h
  obtain ⟨rfl, rfl⟩ := h
  exact ⟨List.takeWhile_append_dropWhile.symm, fun c hc => List.mem_takeWhile_imp hc⟩

/-- Only the two signs are cut off. -/
theorem splitSign_of_head {text : List Char} (h : ∀ c ∈ text.head?, c ≠ '-' ∧ c ≠ '+') :
    splitSign text = (false, text) := by
  unfold splitSign
  split
  · exact absurd rfl (h '-' rfl).1
  · exact absurd rfl (h '+' rfl).2
  · rfl

theorem Sign.splitSign {sign rest : List Char} {negative : Bool} (h : Sign sign negative)
    (hrest : ∀ c ∈ rest.head?, c ≠ '-' ∧ c ≠ '+') :
    splitSign (sign ++ rest) = (negative, rest) := by
  cases h with
  | none => exact splitSign_of_head hrest
  | plus => rfl
  | minus => rfl

/-- What is cut off is a sign. -/
theorem sign_splitSign (text : List Char) :
    ∃ sign, Sign sign (splitSign text).1 ∧ text = sign ++ (splitSign text).2 := by
  unfold splitSign
  split
  · exact ⟨['-'], .minus, rfl⟩
  · exact ⟨['+'], .plus, rfl⟩
  · exact ⟨[], .none, rfl⟩

theorem not_sign_of_isDigit {c : Char} (h : c.isDigit = true) : c ≠ '-' ∧ c ≠ '+' := by
  constructor <;> rintro rfl <;> exact absurd h (by decide)

theorem IsDigits.head {text : List Char} (h : IsDigits text) (rest : List Char) :
    ∀ c ∈ (text ++ rest).head?, c.isDigit = true := by
  rw [List.head?_append_of_ne_nil _ h.ne_nil]
  exact fun c hc => h.isDigit c (List.mem_of_mem_head? hc)

theorem IsDigits.take {text : List Char} (h : IsDigits text) {k : ℕ} (hk : 0 < k) :
    IsDigits (text.take k) where
  ne_nil := by simp [h.ne_nil, hk.ne']
  isDigit := fun c hc => h.isDigit c (List.mem_of_mem_take hc)

theorem IsDigits.drop {text : List Char} (h : IsDigits text) {k : ℕ} (hk : k < text.length) :
    IsDigits (text.drop k) where
  ne_nil := by simpa using hk
  isDigit := fun c hc => h.isDigit c (List.mem_of_mem_drop hc)

/-- The exponent of a text is read. -/
theorem Power.exponentOf? {text : List Char} {e : ℤ} (h : Power text e) :
    exponentOf? text = some e := by
  cases h with
  | none => rfl
  | @exponent mark sign digits negative hmark hsign h =>
    have hhead : ∀ c ∈ digits.head?, c ≠ '-' ∧ c ≠ '+' := fun c hc =>
      not_sign_of_isDigit (h.head [] c (by rwa [List.append_nil]))
    have hsplit := hsign.splitSign hhead
    have hall : digits.all Char.isDigit = true := List.all_eq_true.2 h.isDigit
    simp only [Literal.exponentOf?, hmark, if_true, hsplit, hall, ne_eq, h.ne_nil,
      not_false_eq_true, and_self, withSign]

/-- A text whose exponent is read is an exponent. -/
theorem power_of_exponentOf? {text : List Char} {e : ℤ} (h : exponentOf? text = some e) :
    Power text e := by
  cases text with
  | nil =>
    cases h
    exact .none
  | cons mark rest =>
    obtain ⟨sign, hsign, hrest⟩ := sign_splitSign rest
    rcases hsplit : splitSign rest with ⟨negative, digits⟩
    rw [hsplit] at hsign hrest
    simp only [exponentOf?, hsplit] at h
    by_cases hmark : mark = 'e' ∨ mark = 'E'
    · by_cases hdigits : digits ≠ [] ∧ digits.all Char.isDigit = true
      · rw [if_pos hmark, if_pos hdigits] at h
        cases h
        rw [hrest]
        exact .exponent hmark hsign ⟨hdigits.1, List.all_eq_true.1 hdigits.2⟩
      · rw [if_pos hmark, if_neg hdigits] at h
        cases h
    · rw [if_neg hmark] at h
      cases h

theorem Power.head {text : List Char} {e : ℤ} (h : Power text e) :
    ∀ c ∈ text.head?, c.isDigit = false ∧ c ≠ '.' := by
  cases h with
  | none => exact fun c hc => absurd hc (by simp)
  | exponent hmark _ _ =>
    intro c hc
    obtain rfl : _ = c := by simpa using hc
    rcases hmark with rfl | rfl <;> decide

/-- The digits on both sides of a point. -/
theorem natOfDigits_append (whole fraction : List Char) :
    natOfDigits (whole ++ fraction) =
      10 ^ fraction.length * natOfDigits whole + natOfDigits fraction := by
  rw [natOfDigits, Nat.ofDigitChars_append, Nat.ofDigitChars_eq_ofDigitChars_zero]

theorem cast_natOfDigits_append (whole fraction : List Char) :
    (natOfDigits whole + natOfDigits fraction / 10 ^ fraction.length : ℚ) =
      natOfDigits (whole ++ fraction) / 10 ^ fraction.length := by
  rw [natOfDigits_append, eq_div_iff (by positivity), add_mul, div_mul_cancel₀ _ (by positivity)]
  push_cast
  ring

theorem splitFraction_of_head {text : List Char} (h : ∀ c ∈ text.head?, c ≠ '.') :
    splitFraction text = ([], text) := by
  unfold splitFraction
  split
  · exact absurd rfl (h '.' rfl)
  · rfl

/-- The digits of an unsigned number are read up to what follows it. -/
theorem Unsigned.read {text rest : List Char} {q : ℚ} (h : Unsigned text q)
    (hrest : ∀ c ∈ rest.head?, c.isDigit = false ∧ c ≠ '.') :
    ∃ whole after fraction, (text ++ rest).span Char.isDigit = (whole, after) ∧
      splitFraction after = (fraction, rest) ∧ ¬(whole = [] ∧ fraction = []) ∧
      q = natOfDigits (whole ++ fraction) / 10 ^ fraction.length := by
  have hdigit : ∀ c ∈ rest.head?, c.isDigit = false := fun c hc => (hrest c hc).1
  have hpoint : ∀ rest : List Char, ∀ c ∈ ('.' :: rest).head?, c.isDigit = false := by
    rintro rest c ⟨⟩
    decide
  cases h with
  | whole h =>
    refine ⟨text, rest, [], List.span_append_of_head h.isDigit hdigit,
      splitFraction_of_head fun c hc => (hrest c hc).2, fun hnil => h.ne_nil hnil.1, ?_⟩
    simp
  | @point whole fraction h h' =>
    refine ⟨whole, '.' :: (fraction ++ rest), fraction, ?_, List.span_append_of_head h' hdigit,
      fun hnil => h.ne_nil hnil.1, cast_natOfDigits_append whole fraction⟩
    rw [List.append_assoc]
    exact List.span_append_of_head h.isDigit (hpoint _)
  | @fraction fraction h =>
    exact ⟨[], '.' :: (fraction ++ rest), fraction,
      List.span_append_of_head (List.forall_mem_nil _) (hpoint _),
      List.span_append_of_head h.isDigit hdigit, fun hnil => h.ne_nil hnil.2, rfl⟩

theorem Unsigned.head {text : List Char} {q : ℚ} (h : Unsigned text q) (rest : List Char) :
    ∀ c ∈ (text ++ rest).head?, c ≠ '-' ∧ c ≠ '+' := by
  have hpoint : ∀ rest : List Char, ∀ c ∈ ('.' :: rest).head?, c ≠ '-' ∧ c ≠ '+' := by
    rintro rest c ⟨⟩
    decide
  cases h with
  | whole h => exact fun c hc => not_sign_of_isDigit (h.head rest c hc)
  | point h _ =>
    rw [List.append_assoc]
    exact fun c hc => not_sign_of_isDigit (h.head _ c hc)
  | fraction _ => exact hpoint _

/-- Digits that were read are those of an unsigned number. -/
theorem unsigned_of_read {text whole after fraction rest : List Char}
    (hspan : text.span Char.isDigit = (whole, after))
    (hfraction : splitFraction after = (fraction, rest)) (hne : ¬(whole = [] ∧ fraction = [])) :
    ∃ magnitude, text = magnitude ++ rest ∧
      Unsigned magnitude (natOfDigits (whole ++ fraction) / 10 ^ fraction.length) := by
  obtain ⟨rfl, hdigits⟩ := eq_append_of_span hspan
  unfold splitFraction at hfraction
  split at hfraction
  · next after =>
    obtain ⟨rfl, hdigits'⟩ := eq_append_of_span hfraction
    refine ⟨whole ++ '.' :: fraction, by rw [List.append_assoc, List.cons_append], ?_⟩
    by_cases hwhole : whole = []
    · subst hwhole
      exact .fraction ⟨fun hnil => hne ⟨rfl, hnil⟩, hdigits'⟩
    · rw [← cast_natOfDigits_append]
      exact .point ⟨hwhole, hdigits⟩ hdigits'
  · cases hfraction
    refine ⟨whole, rfl, ?_⟩
    simpa using Unsigned.whole ⟨fun hnil => hne ⟨hnil, rfl⟩, hdigits⟩

/-- Places after the point lower the exponent. -/
theorem value_of_places (n places : ℕ) (e : ℤ) :
    (n : ℚ) / 10 ^ places * 10 ^ e = n * 10 ^ (e - places) := by
  rw [zpow_sub₀ (by norm_num : (10 : ℚ) ≠ 0), zpow_natCast, mul_div_assoc', div_mul_eq_mul_div]

/-- The number of a literal from its digits and its exponent. -/
theorem value_mk (negative : Bool) (mantissa places : ℕ) (e : ℤ) :
    value ⟨negative, mantissa, e - places⟩ =
      withSign negative (mantissa / 10 ^ places * 10 ^ e : ℚ) := by
  rw [value, value_of_places]

/-- The reader accepts the grammar of literals, and a literal has the sign and the number that the
grammar gives its text. -/
theorem denotes_iff {text : List Char} {negative : Bool} {q : ℚ} : Denotes text negative q ↔
    ∃ l, ofChars? text = some l ∧ l.negative = negative ∧ l.value = q := by
  constructor
  · rintro @⟨sign, magnitude, power, _, q, e, hsign, hmagnitude, hpower⟩
    obtain ⟨whole, after, fraction, hspan, hfraction, hne, rfl⟩ := hmagnitude.read hpower.head
    have hsplit := hsign.splitSign (hmagnitude.head power)
    rw [← List.append_assoc] at hsplit
    refine ⟨_, ?_, rfl, value_mk _ _ _ _⟩
    simp only [ofChars?, hsplit, hspan, hfraction, if_neg hne, hpower.exponentOf?, Option.map_some]
  · rintro ⟨l, hl, rfl, rfl⟩
    obtain ⟨sign, hsign, htext⟩ := sign_splitSign text
    rcases hsplit : splitSign text with ⟨negative, afterSign⟩
    rcases hspan : afterSign.span Char.isDigit with ⟨whole, afterWhole⟩
    rcases hfraction : splitFraction afterWhole with ⟨fraction, afterFraction⟩
    rw [hsplit] at hsign htext
    simp only [ofChars?, hsplit, hspan, hfraction] at hl
    by_cases hne : whole = [] ∧ fraction = []
    · rw [if_pos hne] at hl
      cases hl
    rw [if_neg hne, Option.map_eq_some_iff] at hl
    obtain ⟨e, he, rfl⟩ := hl
    obtain ⟨magnitude, rfl, hmagnitude⟩ := unsigned_of_read hspan hfraction hne
    rw [htext, ← List.append_assoc, value_mk]
    exact .mk hsign hmagnitude (power_of_exponentOf? he)

end BenchGate.Literal
