import BenchGate.Json.Reader
import BenchGate.Json.Writer
import BenchGate.Proofs.Decimal.Numeral
import BenchGate.Proofs.Text.Utf16

/-!
# Numbers and quoted texts

The grammar of the two parts of a document that are not made of others: `Json.Number` is a plain
literal with at most a minus in front, and stands for the nearest double; `Json.Quoted` is a text in
quotation marks, and stands for UTF-16 units. `Json.readNumber?` and `Json.readUnits?` read exactly
these, whatever follows them (`Number.read`, `Body.read` and the lemmas after them). The numeral of
a finite double is a number, and units that are written are quoted (`Json.number_numeralChars`,
`Json.quoted_quoted`).
-/

namespace BenchGate.Json

open Literal

/-! ## Numbers -/

/-- The texts of numbers, each with the double nearest to it. -/
inductive Number : List Char → Float → Prop where
  | mk {sign text : List Char} {negative : Bool} {q : ℚ} {x : Float} (hsign : Sign sign negative)
      (hplus : sign ≠ ['+']) (h : Plain text q) (hx : x.IsNearest negative (withSign negative q)) :
      Number (sign ++ text) x

/-- The numeral of a finite double is a number, and its double is this one, zero without its
sign. -/
theorem number_numeralChars {x : Float} (hx : x.isFinite = true) :
    Number (numeralChars x) x.readBack := by
  obtain ⟨sign, text, negative, q, htext, hsign, hplus, hplain, hnearest⟩ := x.plain_numeralChars hx
  rw [htext]
  exact .mk hsign hplus hplain hnearest

/-- Digits without a zero in front are the whole part of a number. -/
theorem isWhole_of {whole : List Char} (h : IsDigits whole)
    (hzero : whole = ['0'] ∨ whole.head? ≠ some '0') : isWhole whole = true := by
  rcases hzero with rfl | hzero
  · rfl
  · cases whole with
    | nil => exact absurd rfl h.ne_nil
    | cons c whole =>
      have hc : c ≠ '0' := by simpa using hzero
      unfold isWhole
      split
      · rfl
      · next heq =>
        cases heq
        simpa using hc
      · next heq => cases heq

theorem eq_zero_or_head_of_isWhole {whole : List Char} (h : isWhole whole = true) :
    whole = ['0'] ∨ whole.head? ≠ some '0' := by
  unfold isWhole at h
  split at h
  · exact .inl rfl
  · right
    simpa using h
  · cases h

/-- The minus in front of a number is left out first. -/
theorem unsigned_eq {sign text : List Char} {negative : Bool} (hsign : Sign sign negative)
    (hplus : sign ≠ ['+']) (htext : text.head? ≠ some '-') :
    (if (sign ++ text).head? = some '-' then (sign ++ text).drop 1 else sign ++ text) = text := by
  cases hsign with
  | none => rw [List.nil_append, if_neg htext]
  | plus => exact absurd rfl hplus
  | minus => rfl

/-- A plain literal is a number. -/
theorem isNumber_of_plain {sign text : List Char} {negative : Bool} {q : ℚ} (h : Plain text q)
    (hsign : Sign sign negative) (hplus : sign ≠ ['+']) : isNumber (sign ++ text) = true := by
  obtain @⟨whole, fraction, power, e, hwhole, hzero, hfraction, hpower⟩ := h
  rw [List.append_assoc]
  generalize hrest : (if fraction.isEmpty then [] else '.' :: fraction) ++ power = rest
  have htext : (whole ++ rest).head? ≠ some '-' := fun hminus =>
    (not_sign_of_isDigit (hwhole.head rest _ hminus)).1 rfl
  have hhead : ∀ c ∈ rest.head?, c.isDigit = false := by
    rw [← hrest]
    split_ifs
    · exact fun c hc => (hpower.head c hc).1
    · rintro c ⟨⟩
      decide
  unfold isNumber
  simp only [unsigned_eq hsign hplus htext, List.span_append_of_head hwhole.isDigit hhead,
    isWhole_of hwhole hzero, Bool.true_and]
  cases fraction with
  | nil =>
    rw [List.isEmpty_nil, if_pos rfl, List.nil_append] at hrest
    subst hrest
    split
    · next c _ => exact absurd rfl (hpower.head '.' rfl).2
    · exact absurd rfl (hpower.head '.' rfl).2
    · rfl
  | cons c fraction =>
    rw [← hrest]
    exact hfraction c List.mem_cons_self

/-- The texts that are numbers are plain literals with at most a minus in front. -/
theorem plain_of_isNumber {sign magnitude power : List Char} {negative : Bool} {q : ℚ} {e : ℤ}
    (hsign : Sign sign negative) (hmagnitude : Unsigned magnitude q) (hpower : Power power e)
    (h : isNumber (sign ++ (magnitude ++ power)) = true) :
    sign ≠ ['+'] ∧ Plain (magnitude ++ power) (q * 10 ^ e) := by
  have hplus : sign ≠ ['+'] := by
    rintro rfl
    cases h
  refine ⟨hplus, ?_⟩
  have hhead : (magnitude ++ power).head? ≠ some '-' := fun hminus =>
    (hmagnitude.head power _ hminus).1 rfl
  unfold isNumber at h
  simp only [unsigned_eq hsign hplus hhead] at h
  have hpoint : ∀ rest : List Char, ∀ c ∈ ('.' :: rest).head?, c.isDigit = false := by
    rintro rest c ⟨⟩
    decide
  cases hmagnitude with
  | whole hwhole =>
    rw [List.span_append_of_head hwhole.isDigit fun c hc => (hpower.head c hc).1] at h
    have hzero := eq_zero_or_head_of_isWhole (Bool.and_eq_true _ _ ▸ h).1
    simpa using Plain.mk hwhole hzero (List.forall_mem_nil _) hpower
  | @point whole fraction hwhole hfraction =>
    rw [List.append_assoc, List.cons_append,
      List.span_append_of_head hwhole.isDigit (hpoint _)] at h
    obtain ⟨hzero, hdigit⟩ := Bool.and_eq_true _ _ ▸ h
    have hne : fraction ≠ [] := by
      -- without digits after the point there would be an exponent or nothing
      rintro rfl
      cases power with
      | nil => cases hdigit
      | cons mark power => exact Bool.false_ne_true ((hpower.head mark rfl).1.symm.trans hdigit)
    have hplain := Plain.mk hwhole (eq_zero_or_head_of_isWhole hzero) hfraction hpower
    rw [if_neg (by simpa using hne)] at hplain
    rwa [cast_natOfDigits_append]
  | fraction hfraction =>
    rw [List.cons_append, show '.' :: _ = [] ++ '.' :: _ from rfl,
      List.span_append_of_head (List.forall_mem_nil _) (hpoint _)] at h
    cases h

/-- The characters of a literal are those of a number. -/
theorem isNumberChar_of_isLiteralChar {c : Char} (h : IsLiteralChar c) : isNumberChar c = true := by
  unfold isNumberChar
  rcases h with h | h
  · simp [h]
  · simp only [List.mem_cons, List.not_mem_nil, or_false] at h
    rcases h with rfl | rfl | rfl | rfl | rfl <;> rfl

/-- What ends a number. -/
def Stops (rest : List Char) : Prop := ∀ c ∈ rest.head?, isNumberChar c = false

/-- A number is read up to something that is no part of it. -/
theorem Number.read {text rest : List Char} {x : Float} (h : Number text x) (hrest : Stops rest) :
    readNumber? (text ++ rest) = some (.number x, rest) := by
  obtain ⟨hsign, hplus, hplain, hnearest⟩ := h
  have hdenotes := hplain.denotes hsign
  obtain ⟨l, hl, rfl, hvalue⟩ := denotes_iff.1 hdenotes
  have hfloat : l.toFloat = x := l.isNearest_toFloat.eq (hvalue ▸ hnearest)
  have hchars : ∀ c ∈ _, isNumberChar c = true := fun c hc =>
    isNumberChar_of_isLiteralChar (hdenotes.isLiteralChar c hc)
  unfold readNumber?
  simp only [List.span_append_of_head hchars hrest]
  rw [if_pos (isNumber_of_plain hplain hsign hplus), hl, Option.map_some, hfloat]

/-- A literal that is a number stands for its nearest double. -/
theorem number_of_isNumber {literal : List Char} {l : Literal} (hl : ofChars? literal = some l)
    (h : isNumber literal = true) : Number literal l.toFloat := by
  have hnearest := l.isNearest_toFloat
  have hdenotes : Denotes literal l.negative l.value := denotes_iff.2 ⟨l, hl, rfl, rfl⟩
  generalize l.negative = negative, l.value = q, l.toFloat = x at hnearest hdenotes
  obtain ⟨hsign, hmagnitude, hpower⟩ := hdenotes
  rw [List.append_assoc] at h ⊢
  obtain ⟨hplus, hplain⟩ := plain_of_isNumber hsign hmagnitude hpower h
  exact .mk hsign hplus hplain hnearest

/-- What is read as a number is one. -/
theorem exists_of_readNumber? {text rest : List Char} {d : Document}
    (h : readNumber? text = some (d, rest)) :
    ∃ form x, text = form ++ rest ∧ Number form x ∧ d = .number x := by
  unfold readNumber? at h
  rw [List.span_eq_takeWhile_dropWhile] at h
  simp only at h
  split_ifs at h with hnumber
  obtain ⟨l, hl, heq⟩ := Option.map_eq_some_iff.1 h
  cases heq
  exact ⟨_, _, List.takeWhile_append_dropWhile.symm, number_of_isNumber hl hnumber, rfl⟩

/-! ## Quoted texts -/

/-- The escapes of one letter, each with the character that it stands for. -/
def shortEscapes : List (Char × Char) :=
  [('"', '"'), ('\\', '\\'), ('/', '/'), ('b', '\x08'), ('f', '\x0c'), ('n', '\n'), ('r', '\r'),
    ('t', '\t')]

/-- A hexadecimal digit in either case, with its value. -/
def HexDigit (c : Char) (n : ℕ) : Prop :=
  "0123456789abcdef".toList[n]? = some c ∨ "0123456789ABCDEF".toList[n]? = some c

/-- The texts between quotation marks, each with the UTF-16 units that it stands for. -/
inductive Body : List Char → List UInt16 → Prop where
  | nil : Body [] []
  | plain {c : Char} {text : List Char} {units : List UInt16} (hquote : c ≠ '"') (hslash : c ≠ '\\')
      (hcontrol : 0x20 ≤ c.toNat) (h : Body text units) :
      Body (c :: text) (Utf16.unitsOfChar c ++ units)
  | short {c e : Char} {text : List Char} {units : List UInt16} (hc : (c, e) ∈ shortEscapes)
      (h : Body text units) : Body ('\\' :: c :: text) (Utf16.unitsOfChar e ++ units)
  | unit {a b c d : Char} {i j k l : ℕ} {text : List Char} {unit : UInt16} {units : List UInt16}
      (ha : HexDigit a i) (hb : HexDigit b j) (hc : HexDigit c k) (hd : HexDigit d l)
      (hunit : unit.toNat = 0x1000 * i + 0x100 * j + 0x10 * k + l) (h : Body text units) :
      Body ('\\' :: 'u' :: a :: b :: c :: d :: text) (unit :: units)

/-- The texts in quotation marks, each with the units that it stands for. -/
inductive Quoted : List Char → List UInt16 → Prop where
  | mk {body : List Char} {units : List UInt16} (h : Body body units) :
      Quoted ('"' :: (body ++ ['"'])) units

section
variable {text body rest : List Char} {done units : List UInt16}

/-- The escapes that the reader knows are those of the grammar. -/
theorem shortEscape?_eq_some_iff {c e : Char} :
    shortEscape? c = some e ↔ (c, e) ∈ shortEscapes := by
  constructor
  · intro h
    unfold shortEscape? at h
    split at h
    all_goals first
      | cases h; decide
      | cases h
  · intro h
    simp only [shortEscapes, List.mem_cons, Prod.mk.injEq, List.not_mem_nil, or_false] at h
    rcases h with ⟨rfl, rfl⟩ | ⟨rfl, rfl⟩ | ⟨rfl, rfl⟩ | ⟨rfl, rfl⟩ | ⟨rfl, rfl⟩ | ⟨rfl, rfl⟩ |
      ⟨rfl, rfl⟩ | ⟨rfl, rfl⟩ <;> rfl

/-- No escape of one letter begins like a code unit. -/
theorem ne_of_shortEscape? {c e : Char} (h : shortEscape? c = some e) : c ≠ 'u' := by
  rintro rfl
  cases h

theorem HexDigit.lt {c : Char} {n : ℕ} (h : HexDigit c n) : n < 16 := by
  rcases h with h | h <;> exact (List.getElem?_eq_some_iff.1 h).1

/-- The digits that the reader knows are those of the grammar. Beyond ASCII there are none. -/
theorem value?_eq_some_iff {c : Char} {n : ℕ} : Hex.value? c = some n ↔ HexDigit c n := by
  have hdigits : ∀ n < 16, "0123456789abcdef".toList[n]?.bind Hex.value? = some n ∧
      "0123456789ABCDEF".toList[n]?.bind Hex.value? = some n := by decide +kernel
  constructor
  case mpr =>
    intro h
    obtain ⟨hlower, hupper⟩ := hdigits n h.lt
    rcases h with h | h
    · rwa [h, Option.bind_some] at hlower
    · rwa [h, Option.bind_some] at hupper
  intro h
  have hascii : c.toNat < 0x80 := by
    unfold Hex.value? at h
    split_ifs at h with hdigit hlower hupper
    · simp only [Char.isDigit, Bool.and_eq_true, decide_eq_true_eq] at hdigit
      have hle : c.toNat ≤ 0x39 := hdigit.2
      omega
    · have hle : c.toNat ≤ 0x66 := hlower.2
      omega
    · have hle : c.toNat ≤ 0x46 := hupper.2
      omega
  have hall : ∀ m < 0x80, ∀ n ∈ Hex.value? (Char.ofNat m),
      "0123456789abcdef".toList[n]? = some (Char.ofNat m) ∨
        "0123456789ABCDEF".toList[n]? = some (Char.ofNat m) := by decide +kernel
  have hdigit := hall c.toNat hascii n
  rw [Char.ofNat_toNat] at hdigit
  exact hdigit h

/-- The code unit of four digits. -/
theorem codeUnit?_eq_some_iff {a b c d : Char} {unit : UInt16} :
    codeUnit? a b c d = some unit ↔ ∃ i j k l, HexDigit a i ∧ HexDigit b j ∧ HexDigit c k ∧
      HexDigit d l ∧ unit.toNat = 0x1000 * i + 0x100 * j + 0x10 * k + l := by
  have hnat : ∀ n, Hex.natOf? [a, b, c, d] = some n ↔ ∃ i j k l, HexDigit a i ∧ HexDigit b j ∧
      HexDigit c k ∧ HexDigit d l ∧ n = 0x1000 * i + 0x100 * j + 0x10 * k + l := by
    intro n
    simp only [Hex.natOf?, List.foldlM_cons, List.foldlM_nil, Option.bind_eq_bind,
      Option.bind_eq_some_iff, Option.map_eq_some_iff, value?_eq_some_iff, Option.pure_def,
      Option.some.injEq]
    constructor
    · rintro ⟨_, ⟨i, ha, rfl⟩, _, ⟨j, hb, rfl⟩, _, ⟨k, hc, rfl⟩, _, ⟨l, hd, rfl⟩, rfl⟩
      exact ⟨i, j, k, l, ha, hb, hc, hd, by omega⟩
    · rintro ⟨i, j, k, l, ha, hb, hc, hd, rfl⟩
      exact ⟨_, ⟨i, ha, rfl⟩, _, ⟨j, hb, rfl⟩, _, ⟨k, hc, rfl⟩, _, ⟨l, hd, rfl⟩, by omega⟩
  simp only [codeUnit?, Option.map_eq_some_iff, hnat]
  constructor
  · rintro ⟨n, ⟨i, j, k, l, ha, hb, hc, hd, rfl⟩, rfl⟩
    have hlt := And.intro (And.intro ha.lt hb.lt) (And.intro hc.lt hd.lt)
    exact ⟨i, j, k, l, ha, hb, hc, hd, Utf16.toNat_toUInt16 (by omega)⟩
  · rintro ⟨i, j, k, l, ha, hb, hc, hd, hunit⟩
    exact ⟨_, ⟨i, j, k, l, ha, hb, hc, hd, rfl⟩, by rw [← hunit]; simp⟩

/-- An escape of one letter is read as its character. -/
theorem readUnits?_short {c e : Char} (hc : shortEscape? c = some e) :
    readUnits? done ('\\' :: c :: rest) =
      readUnits? ((Utf16.unitsOfChar e).reverse ++ done) rest := by
  have hne := ne_of_shortEscape? hc
  rw [readUnits?.eq_def]
  split
  · next h => cases h
  · next h => cases h
  · next h => exact absurd (List.cons.inj (List.cons.inj h).2).1 hne
  · next h =>
    cases h
    rw [hc]
  · next hshort h =>
    cases h
    exact (hshort c rest rfl rfl).elim

/-- A character that is not escaped is read as it is. -/
theorem readUnits?_plain {c : Char} (hquote : c ≠ '"') (hslash : c ≠ '\\')
    (hcontrol : 0x20 ≤ c.toNat) :
    readUnits? done (c :: rest) = readUnits? ((Utf16.unitsOfChar c).reverse ++ done) rest := by
  rw [readUnits?.eq_def]
  split
  · next h => cases h
  · next h => cases h; exact absurd rfl hquote
  · next h => cases h; exact absurd rfl hslash
  · next h => cases h; exact absurd rfl hslash
  · next h =>
    cases h
    rw [if_neg (not_or.2 ⟨hcontrol.not_gt, hslash⟩)]

/-- A text is read up to its closing quotation mark. -/
theorem Body.read (h : Body body units) (done : List UInt16) (rest : List Char) :
    readUnits? done (body ++ '"' :: rest) = some (done.reverse ++ units, rest) := by
  induction h generalizing done with
  | nil => simp [readUnits?]
  | plain hquote hslash hcontrol _ ih =>
    rw [List.cons_append, readUnits?_plain hquote hslash hcontrol, ih]
    simp
  | short hc _ ih =>
    rw [List.cons_append, List.cons_append, readUnits?_short (shortEscape?_eq_some_iff.2 hc), ih]
    simp
  | unit ha hb hc hd hunit _ ih =>
    simp only [List.cons_append]
    rw [readUnits?, codeUnit?_eq_some_iff.2 ⟨_, _, _, _, ha, hb, hc, hd, hunit⟩,
      Option.bind_eq_bind, Option.bind_some, ih]
    simp

/-- What is read as a text is one. -/
theorem exists_of_readUnits? {found : List UInt16} (h : readUnits? done text = some (found, rest)) :
    ∃ body units, text = body ++ '"' :: rest ∧ Body body units ∧ found = done.reverse ++ units := by
  fun_induction readUnits? done text with
  | case1 => cases h
  | case2 done rest =>
    cases h
    exact ⟨[], [], rfl, .nil, (List.append_nil _).symm⟩
  | case3 done a b c d text ih =>
    obtain ⟨unit, hunit, h⟩ := Option.bind_eq_some_iff.1 h
    obtain ⟨body, units, rfl, hbody, rfl⟩ := ih unit h
    obtain ⟨i, j, k, l, ha, hb, hc, hd, hunit⟩ := codeUnit?_eq_some_iff.1 hunit
    exact ⟨_, _, rfl, .unit ha hb hc hd hunit hbody, by simp⟩
  | case4 done c text _ e hc ih =>
    obtain ⟨body, units, rfl, hbody, rfl⟩ := ih h
    exact ⟨_, _, rfl, .short (shortEscape?_eq_some_iff.1 hc) hbody, by simp⟩
  | case5 => cases h
  | case6 => cases h
  | case7 done c text hquote _ _ hplain ih =>
    obtain ⟨hcontrol, hslash⟩ := not_or.1 hplain
    obtain ⟨body, units, rfl, hbody, rfl⟩ := ih h
    exact ⟨_, _, rfl, .plain hquote hslash (not_lt.1 hcontrol) hbody, by simp⟩

/-! ## Written texts -/

/-- A digit that is written is one. -/
theorem hexDigit_digitChar {n : ℕ} (h : n < 16) : HexDigit (Nat.digitChar n) n := by
  have hall : ∀ n < 16, "0123456789abcdef".toList[n]? = some (Nat.digitChar n) := by decide +kernel
  exact .inl (hall n h)

/-- A character is written so that it stands for itself. -/
theorem Body.escape (c : Char) (h : Body body units) :
    Body (escape c ++ body) (Utf16.unitsOfChar c ++ units) := by
  unfold Json.escape
  split_ifs with h₁ h₂ h₃ h₄ h₅ h₆ h₇ h₈
  on_goal 8 =>
    rw [(Utf16.unitsOfChar_of_lt (by omega)).1]
    refine .unit (hexDigit_digitChar (by decide : 0 < 16)) (hexDigit_digitChar (by decide : 0 < 16))
      (hexDigit_digitChar (by omega)) (hexDigit_digitChar (by omega)) ?_ h
    rw [Utf16.toNat_toUInt16 (by omega)]
    omega
  on_goal 8 => exact .plain h₁ h₂ (not_lt.1 h₈) h
  all_goals
    subst_vars
    exact .short (by decide) h

/-- A unit that is written as an escape stands for itself. -/
theorem Body.escapeUnit (unit : UInt16) (h : Body body units) :
    Body (escapeUnit unit ++ body) (unit :: units) := by
  have hlt := unit.toNat_lt
  exact .unit (hexDigit_digitChar (by omega)) (hexDigit_digitChar (by omega))
    (hexDigit_digitChar (by omega)) (hexDigit_digitChar (by omega)) (by omega) h

end

/-- Units that are written are quoted: each piece of them stands for its units. -/
theorem quoted_quoted (units : List UInt16) : Quoted (quoted units) units := by
  have hbody : ∀ pieces : List (Char ⊕ UInt16),
      Body (pieces.flatMap (Sum.elim escape escapeUnit)) (pieces.flatMap Utf16.unitsOfPiece) := by
    intro pieces
    induction pieces with
    | nil => exact .nil
    | cons piece pieces ih =>
      cases piece with
      | inl c => exact ih.escape c
      | inr unit => exact ih.escapeUnit unit
  have hquoted := Quoted.mk (hbody (Utf16.pieces units))
  rwa [Utf16.flatMap_pieces] at hquoted

end BenchGate.Json
