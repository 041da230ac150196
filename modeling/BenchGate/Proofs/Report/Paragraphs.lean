import BenchGate.Proofs.Decimal.Numeral
import BenchGate.Report.Lines

/-!
# The paragraphs of a report

A report that is cut at its blank lines falls into the parts that it was put together from
(`Report.paragraphs_of_build?`), because each part is a single line. Numbers are written in one
line, whatever double they are (`Text.isLine_numeral`, `Text.isLine_fixed`), and with them the
findings, the line of the mean and the footer.
-/

namespace BenchGate

/-! ## Cutting at blank lines -/

namespace Text

/-- The parts of a text between its blank lines, which are looked for from the front: two line
breaks in a row end a part, and the next part begins behind them. -/
def paragraphs : List Char → List (List Char)
  | [] => [[]]
  | '\n' :: '\n' :: rest => [] :: paragraphs rest
  | c :: rest => (paragraphs rest).modifyHead (c :: ·)

/-- A text of one line. -/
def IsLine (text : String) : Prop := '\n' ∉ text.toList

instance : DecidablePred IsLine := fun _ => inferInstanceAs (Decidable (_ ∉ _))

section
variable {line rest : List Char}

theorem paragraphs_cons {c : Char} (hc : c ≠ '\n') :
    paragraphs (c :: rest) = (paragraphs rest).modifyHead (c :: ·) := by
  rw [paragraphs]
  exact fun _ h _ => hc h

/-- A line is one paragraph. -/
theorem paragraphs_of_line (h : '\n' ∉ line) : paragraphs line = [line] := by
  induction line with
  | nil => rfl
  | cons c line ih =>
    rw [paragraphs_cons (List.ne_of_not_mem_cons h).symm, ih (List.not_mem_of_not_mem_cons h)]
    rfl

/-- A line in front of a blank line is the first paragraph. -/
theorem paragraphs_append (h : '\n' ∉ line) :
    paragraphs (line ++ '\n' :: '\n' :: rest) = line :: paragraphs rest := by
  induction line with
  | nil => rfl
  | cons c line ih =>
    rw [List.cons_append, paragraphs_cons (List.ne_of_not_mem_cons h).symm,
      ih (List.not_mem_of_not_mem_cons h)]
    rfl

end

/-! ## Texts of one line -/

section
variable {line : List Char} {x : Float}

@[simp]
theorem isLine_append {text text' : String} :
    IsLine (text ++ text') ↔ IsLine text ∧ IsLine text' := by
  simp [IsLine]

/-- A double is written in one line. -/
theorem isLine_numeral : IsLine (numeral x) := by
  rw [IsLine, numeral, String.toList_ofList]
  cases h : Binary64.ofFloat x with
  | nan =>
    rw [numeralChars, h]
    decide
  | infinite negative =>
    rw [numeralChars, h]
    cases negative <;> decide
  | finite negative mantissa exponent =>
    obtain ⟨sign, text, negative, q, hnumeral, hsign, -, hplain, -⟩ :=
      Float.plain_numeralChars (Float.isFinite_of_ofFloat h)
    intro hmem
    rw [hnumeral] at hmem
    exact absurd ((hplain.denotes hsign).isLiteralChar _ hmem) (by decide)

/-- So it is with a number of places. -/
theorem isLine_fixed {places : ℕ} : IsLine (fixed places x) := by
  cases hx : Binary64.ofFloat x with
  | nan =>
    rw [fixed, hx]
    exact isLine_numeral
  | infinite negative =>
    rw [fixed, hx]
    exact isLine_numeral
  | finite negative mantissa exponent =>
    rcases Decimal.fixed_cases places hx with ⟨-, hfixed⟩ | ⟨body, hbody, hfixed⟩
    · rw [hfixed]
      exact isLine_numeral
    · have hsign : '\n' ∉ if negative = true ∧ mantissa ≠ 0 then ['-'] else [] := by
        split_ifs <;> decide
      rw [IsLine, hfixed, List.mem_append]
      refine not_or.2 ⟨hsign, fun hmem => ?_⟩
      rcases hbody _ hmem with hdigit | hpoint
      · cases hdigit
      · cases hpoint

theorem isLine_meanChange : IsLine (meanChange x) := by
  simp only [meanChange]
  split_ifs <;> exact isLine_append.2 ⟨isLine_fixed, by decide⟩

end

end Text

/-- What is said about a benchmark is one line. -/
theorem Kind.isLine_of_line? {kind : Kind} {index percent : Float} {text : String}
    (h : kind.line? index percent = some text) : Text.IsLine text := by
  cases kind with
  | withinNoise => cases h
  | speedup | slowdown | regression =>
    cases h
    simp only [Text.isLine_append, Text.isLine_numeral, Text.isLine_fixed, and_true]
    decide

namespace Report

theorem isLine_meanLine (s : Summary) : Text.IsLine (meanLine s) := by
  simp only [meanLine, Text.isLine_append, Text.isLine_numeral, Text.isLine_meanChange, true_and]
  decide

theorem isLine_footer (t : Thresholds) : Text.IsLine (footer t) :=
  Text.isLine_append.2 ⟨Text.isLine_append.2 ⟨by decide, Text.isLine_numeral⟩, by decide⟩

/-- The paragraphs of a report. -/
def paragraphs (text : String) : List String := (Text.paragraphs text.toList).map String.ofList

/-- Lines with blank lines between them are the paragraphs. -/
theorem paragraphs_intercalate {parts : List String} (hne : parts ≠ [])
    (h : ∀ part ∈ parts, Text.IsLine part) : paragraphs (separator.intercalate parts) = parts := by
  induction parts with
  | nil => exact absurd rfl hne
  | cons part parts ih =>
    obtain ⟨hpart, hparts⟩ := List.forall_mem_cons.1 h
    by_cases hnil : parts = []
    · rw [hnil, String.intercalate_singleton, paragraphs, Text.paragraphs_of_line hpart]
      simp
    · -- the cut after the first part is the separator, since no line break comes earlier
      have hsplit : (separator.intercalate (part :: parts)).toList =
          part.toList ++ '\n' :: '\n' :: (separator.intercalate parts).toList := by
        rw [String.intercalate_cons_of_ne_nil hnil]
        simp [separator]
      rw [paragraphs, hsplit, Text.paragraphs_append hpart, List.map_cons, String.ofList_toList]
      exact congrArg _ (ih hnil hparts)

/-- A report falls into the lines it was put together from. -/
theorem paragraphs_of_build? {t : Thresholds} {messages : List String} {s : Summary}
    {text : String} (hmessages : ∀ message ∈ messages, Text.IsLine message)
    (h : build? t messages s = some text) :
    paragraphs text = messages ++ [meanLine s, footer t] := by
  unfold build? at h
  split_ifs at h
  cases h
  refine paragraphs_intercalate (by simp) (List.forall_mem_append.2 ⟨hmessages, ?_⟩)
  simp [isLine_meanLine, isLine_footer]

end Report

end BenchGate
