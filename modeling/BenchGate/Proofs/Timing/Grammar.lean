import BenchGate.Proofs.Decimal.Literal
import BenchGate.Proofs.Result
import BenchGate.Proofs.Text.Utf8
import BenchGate.Timing.Text

/-!
# The grammar of timings

A text of timings is a list of words, and each word has to be a decimal literal whose nearest double
is finite and not below zero. `Timings.parse` reads exactly these texts, gives those doubles, and
otherwise reports the first word that is none (`Timings.parse_follows_grammar`). A file of timings
is therefore UTF-8 made of blanks and of the characters of literals.
-/

namespace List

/-- A list is related to another one exactly when each of its members is related to something. -/
theorem exists_forall₂_iff {α β : Type} {R : α → β → Prop} {l : List α} :
    (∃ l', Forall₂ R l l') ↔ ∀ a ∈ l, ∃ b, R a b := by
  induction l with
  | nil => exact ⟨fun _ _ h => absurd h not_mem_nil, fun _ => ⟨[], .nil⟩⟩
  | cons a l ih =>
    rw [forall_mem_cons, ← ih]
    constructor
    · rintro ⟨_, _ | ⟨h, h'⟩⟩
      exact ⟨⟨_, h⟩, _, h'⟩
    · rintro ⟨⟨b, h⟩, l', h'⟩
      exact ⟨b :: l', .cons h h'⟩

end List

namespace BenchGate.Timings

/-- The word is a decimal literal, and the double is the one nearest to its number. -/
def Reads (word : List Char) (time : Float) : Prop :=
  ∃ negative q, Literal.Denotes word negative q ∧ time.IsNearest negative q

/-- The word is a timing, and this is its duration. -/
structure IsTiming (word : List Char) (time : Float) : Prop where
  reads : Reads word time
  isFinite : time.isFinite = true
  not_neg : ¬time < 0

/-- The word is a decimal literal, but its double is below zero. -/
def IsNegative (word : List Char) : Prop :=
  ∃ time, Reads word time ∧ time.isFinite = true ∧ time < 0

variable {word : List Char} {runs : List (List Char)} {time : Float} {position : ℕ}

/-! ## One word -/

/-- A word reads as a double when it is a literal that becomes this double. -/
theorem reads_iff : Reads word time ↔ ∃ l, Literal.ofChars? word = some l ∧ l.toFloat = time := by
  constructor
  · rintro ⟨negative, q, hword, hnearest⟩
    obtain ⟨l, hl, rfl, rfl⟩ := Literal.denotes_iff.1 hword
    exact ⟨l, hl, l.isNearest_toFloat.eq hnearest⟩
  · rintro ⟨l, hl, rfl⟩
    exact ⟨_, _, Literal.denotes_iff.2 ⟨l, hl, rfl, rfl⟩, l.isNearest_toFloat⟩

/-- A word that is no literal is invalid. -/
theorem ofWord_of_none (h : Literal.ofChars? word = none) :
    ofWord word position = .error (.invalid (.ofList word) position) := by
  rw [ofWord, h]

theorem ofWord_of_some {l : Literal} (h : Literal.ofChars? word = some l) :
    ofWord word position =
      if l.toFloat.isFinite = false then .error (.invalid (.ofList word) position)
      else if l.toFloat < 0 then .error (.negative (.ofList word) position)
      else .ok l.toFloat := by
  rw [ofWord, h]
  simp only [Bool.not_eq_true']

/-- The words that are taken, and what they give. -/
theorem ofWord_eq_ok_iff : ofWord word position = .ok time ↔ IsTiming word time := by
  constructor
  · intro h
    cases hl : Literal.ofChars? word with
    | none =>
      rw [ofWord_of_none hl] at h
      cases h
    | some l =>
      rw [ofWord_of_some hl] at h
      split_ifs at h with hfinite hneg
      cases h
      exact ⟨reads_iff.2 ⟨l, hl, rfl⟩, by simpa using hfinite, hneg⟩
  · rintro ⟨hreads, hfinite, hneg⟩
    obtain ⟨l, hl, rfl⟩ := reads_iff.1 hreads
    rw [ofWord_of_some hl, if_neg (by simp [hfinite]), if_neg hneg]

/-- The words that are reported as negative. -/
theorem ofWord_eq_negative_iff :
    ofWord word position = .error (.negative (.ofList word) position) ↔ IsNegative word := by
  constructor
  · intro h
    cases hl : Literal.ofChars? word with
    | none =>
      rw [ofWord_of_none hl] at h
      cases h
    | some l =>
      rw [ofWord_of_some hl] at h
      split_ifs at h with hfinite hneg
      · cases h
      · exact ⟨l.toFloat, reads_iff.2 ⟨l, hl, rfl⟩, by simpa using hfinite, hneg⟩
  · rintro ⟨time, hreads, hfinite, hneg⟩
    obtain ⟨l, hl, rfl⟩ := reads_iff.1 hreads
    rw [ofWord_of_some hl, if_neg (by simp [hfinite]), if_pos hneg]

/-- A word that is not taken is reported in one of two ways. -/
theorem ofWord_error_cases {fault : TimingFault} (h : ofWord word position = .error fault) :
    fault = .negative (.ofList word) position ∨ fault = .invalid (.ofList word) position := by
  cases hl : Literal.ofChars? word with
  | none =>
    rw [ofWord_of_none hl] at h
    cases h
    exact .inr rfl
  | some l =>
    rw [ofWord_of_some hl] at h
    split_ifs at h <;> cases h
    · exact .inr rfl
    · exact .inl rfl

/-- The words that are not taken, and what is reported about them. -/
theorem ofWord_eq_error_iff {fault : TimingFault} :
    ofWord word position = .error fault ↔ (∀ time, ¬IsTiming word time) ∧
      (IsNegative word ∧ fault = .negative (.ofList word) position ∨
        ¬IsNegative word ∧ fault = .invalid (.ofList word) position) := by
  have htiming : (∀ time, ¬IsTiming word time) ↔ ∃ fault, ofWord word position = .error fault := by
    simp only [← @ofWord_eq_ok_iff word _ position]
    cases ofWord word position <;> simp
  rw [htiming, ← @ofWord_eq_negative_iff word position]
  constructor
  · intro h
    refine ⟨⟨fault, h⟩, ?_⟩
    rcases ofWord_error_cases h with rfl | rfl
    · exact .inl ⟨h, rfl⟩
    · exact .inr ⟨by simp [h], rfl⟩
  · rintro ⟨⟨fault', h⟩, ⟨hneg, rfl⟩ | ⟨hneg, rfl⟩⟩
    · exact hneg
    · rcases ofWord_error_cases h with rfl | rfl
      · exact absurd h hneg
      · exact h

/-! ## A list of words -/

/-- The words of a list are numbered, read in order, and all of them have to be timings. -/
theorem mapM_eq_ok_iff {times : Timings} (start : ℕ) :
    (runs.zipIdx start).mapM (fun (word, position) => ofWord word position) = .ok times ↔
      List.Forall₂ IsTiming runs times := by
  induction runs generalizing start times with
  | nil => cases times <;> simp [pure, Except.pure]
  | cons word runs ih =>
    rw [List.zipIdx_cons, List.mapM_cons]
    constructor
    · intro h
      obtain ⟨time, htime, h⟩ := Except.bind_eq_ok_iff.1 h
      obtain ⟨times, htimes, h⟩ := Except.bind_eq_ok_iff.1 h
      cases h
      exact .cons (ofWord_eq_ok_iff.1 htime) ((ih _).1 htimes)
    · rintro (_ | ⟨htime, htimes⟩)
      exact Except.bind_eq_ok_iff.2 ⟨_, ofWord_eq_ok_iff.2 htime,
        Except.bind_eq_ok_iff.2 ⟨_, (ih _).2 htimes, rfl⟩⟩

/-- The first word that is no timing is the one reported. -/
theorem mapM_eq_error_iff {fault : TimingFault} (start : ℕ) :
    (runs.zipIdx start).mapM (fun (word, position) => ofWord word position) = .error fault ↔
      ∃ before word after, runs = before ++ word :: after ∧
        (∀ word ∈ before, ∃ time, IsTiming word time) ∧
        ofWord word (start + before.length) = .error fault := by
  induction runs generalizing start with
  | nil => simp [pure, Except.pure]
  | cons word runs ih =>
    rw [List.zipIdx_cons, List.mapM_cons]
    constructor
    · intro h
      rcases Except.bind_eq_error_iff.1 h with h | ⟨time, htime, h⟩
      · exact ⟨[], word, runs, rfl, by simp, h⟩
      rcases Except.bind_eq_error_iff.1 h with h | ⟨times, -, h⟩
      · obtain ⟨before, word', after, rfl, hbefore, hword'⟩ := (ih _).1 h
        refine ⟨word :: before, word', after, rfl, ?_, ?_⟩
        · exact List.forall_mem_cons.2 ⟨⟨time, ofWord_eq_ok_iff.1 htime⟩, hbefore⟩
        · rwa [List.length_cons, ← Nat.add_assoc, Nat.add_right_comm]
      · cases h
    · rintro ⟨before, word', after, hruns, hbefore, hword'⟩
      cases before with
      | nil =>
        cases hruns
        exact Except.bind_eq_error_iff.2 (.inl hword')
      | cons first before =>
        cases hruns
        obtain ⟨⟨time, htime⟩, hbefore⟩ := List.forall_mem_cons.1 hbefore
        refine Except.bind_eq_error_iff.2 (.inr ⟨time, ofWord_eq_ok_iff.2 htime, ?_⟩)
        refine Except.bind_eq_error_iff.2 (.inl ((ih _).2 ⟨before, word', after, rfl, hbefore, ?_⟩))
        rwa [List.length_cons, ← Nat.add_assoc, Nat.add_right_comm] at hword'

/-! ## A text, and a file -/

theorem parse_eq_ok_iff {source text : String} {times : Timings}
    (hruns : Text.Runs text.toList runs) :
    parse source text = .ok times ↔ List.Forall₂ IsTiming runs times := by
  rw [parse, Text.runs_iff.1 hruns, ← mapM_eq_ok_iff 0]
  cases (runs.zipIdx 0).mapM fun (word, position) => ofWord word position <;> simp

theorem parse_eq_error_iff {source text : String} {e : TimingError}
    (hruns : Text.Runs text.toList runs) :
    parse source text = .error e ↔ e.source = source ∧
      ∃ before word after, runs = before ++ word :: after ∧
        (∀ word ∈ before, ∃ time, IsTiming word time) ∧
        ofWord word before.length = .error e.fault := by
  have hmap := @mapM_eq_error_iff runs e.fault 0
  simp only [Nat.zero_add] at hmap
  rw [parse, Text.runs_iff.1 hruns, ← hmap]
  cases (runs.zipIdx 0).mapM fun (word, position) => ofWord word position with
  | ok times => simp
  | error fault =>
    obtain ⟨source', fault'⟩ := e
    simp [eq_comm]

/-- The characters of a text of timings. -/
theorem isLiteralChar_of_parse {source text : String} {times : Timings}
    (h : parse source text = .ok times) :
    ∀ c ∈ text.toList, Text.isBlank c = true ∨ Literal.IsLiteralChar c := by
  have hruns := Text.runs_words text.toList
  have hwords := List.exists_forall₂_iff.1 ⟨times, (parse_eq_ok_iff hruns).1 h⟩
  intro c hc
  rcases hruns.isBlank_or_mem c hc with hblank | ⟨run, hrun, hc⟩
  · exact .inl hblank
  · obtain ⟨time, ⟨negative, q, hword, -⟩, -, -⟩ := hwords run hrun
    exact .inr (hword.isLiteralChar c hc)

/-- A file of timings is the UTF-8 form of a text of timings. -/
theorem exists_text_of_read {tree : Tree} {path : String} {times : Timings}
    (h : read tree path = .ok times) :
    ∃ text, tree.read path = .ok (Utf8.encode text) ∧ parse path text = .ok times := by
  unfold read at h
  split at h
  · next content hcontent =>
    have hreplacement : Utf8.replacement ∉ (Utf8.decode content).toList := by
      intro hmem
      rcases isLiteralChar_of_parse h _ hmem with hblank | hliteral
      · exact absurd hblank (by decide)
      · exact absurd hliteral (by decide)
    exact ⟨Utf8.decode content, by rw [Utf8.encode_decode hreplacement, hcontent], h⟩
  · cases h
  · cases h

/-- A text of timings is read exactly when all its words are decimal literals whose nearest doubles
are finite and not below zero, and gives these doubles; otherwise the first word that is none is
reported, as negative when it is a literal below zero and as invalid in all other cases. A file that
is read is UTF-8 of blanks and characters of literals. -/
theorem parse_follows_grammar {source text : String} {runs : List (List Char)}
    (hruns : Text.Runs text.toList runs) :
    ((∃ times, parse source text = .ok times) ↔ ∀ word ∈ runs, ∃ time, IsTiming word time) ∧
    (∀ times, parse source text = .ok times ↔ List.Forall₂ IsTiming runs times) ∧
    (∀ e, parse source text = .error e ↔
      ∃ before word after, runs = before ++ word :: after ∧
        (∀ word ∈ before, ∃ time, IsTiming word time) ∧ (∀ time, ¬IsTiming word time) ∧
        (IsNegative word ∧ e = ⟨source, .negative (.ofList word) before.length⟩ ∧
            e.message = "Negative timing \"" ++ .ofList word ++ "\" at position " ++
              toString before.length ++ " in " ++ source ∨
          ¬IsNegative word ∧ e = ⟨source, .invalid (.ofList word) before.length⟩ ∧
            e.message = "Invalid timing \"" ++ .ofList word ++ "\" at position " ++
              toString before.length ++ " in " ++ source)) ∧
    ∀ tree path times, read tree path = .ok times →
      ∃ text, tree.read path = .ok (Utf8.encode text) ∧ parse path text = .ok times ∧
        ∀ c ∈ text.toList, Text.isBlank c = true ∨ Literal.IsLiteralChar c := by
  refine ⟨?_, fun times => parse_eq_ok_iff hruns, fun e => ?_, fun tree path times h => ?_⟩
  · simp only [parse_eq_ok_iff hruns, List.exists_forall₂_iff]
  · rw [parse_eq_error_iff hruns]
    constructor
    · rintro ⟨rfl, before, word, after, hsplit, hbefore, hword⟩
      obtain ⟨hnone, hfault⟩ := ofWord_eq_error_iff.1 hword
      obtain ⟨source, fault⟩ := e
      refine ⟨before, word, after, hsplit, hbefore, hnone, ?_⟩
      rcases hfault with ⟨hneg, rfl⟩ | ⟨hneg, rfl⟩
      · exact .inl ⟨hneg, rfl, rfl⟩
      · exact .inr ⟨hneg, rfl, rfl⟩
    · rintro ⟨before, word, after, hsplit, hbefore, hnone, ⟨hneg, rfl, -⟩ | ⟨hneg, rfl, -⟩⟩
      · exact ⟨rfl, before, word, after, hsplit, hbefore,
          ofWord_eq_error_iff.2 ⟨hnone, .inl ⟨hneg, rfl⟩⟩⟩
      · exact ⟨rfl, before, word, after, hsplit, hbefore,
          ofWord_eq_error_iff.2 ⟨hnone, .inr ⟨hneg, rfl⟩⟩⟩
  · obtain ⟨text, hread, hparse⟩ := exists_text_of_read h
    exact ⟨text, hread, hparse, isLiteralChar_of_parse hparse⟩

/-- A byte order mark, and two words that are written with a sign, a point and an exponent. -/
theorem parse_follows_grammar_two :
    List.Forall₂ IsTiming ["+15e-1".toList, ".25E1".toList] [1.5, 2.5] ∧
      ∃ text, ((({} : Tree).addFile "new.txt" (Utf8.encode "\n+15e-1 .25E1")).read "new.txt") =
          .ok (Utf8.encode text) ∧ parse "new.txt" text = .ok [1.5, 2.5] ∧
        ∀ c ∈ text.toList, Text.isBlank c = true ∨ Literal.IsLiteralChar c := by
  have hall := @parse_follows_grammar "old.txt" "\ufeff+15e-1\t.25E1"
    ["+15e-1".toList, ".25E1".toList]
    (Text.runs_iff.2 (by decide +kernel))
  obtain ⟨-, hok, -, hread⟩ := hall
  exact ⟨(hok _).1 (by decide +kernel), hread _ _ _ (by decide +kernel)⟩

end BenchGate.Timings
