import BenchGate.Proofs.Binary64.Order
import BenchGate.Proofs.Result
import BenchGate.Timing.Text

/-!
# Timings that were read

Whatever a text holds, the times that are read from it are finite and not negative
(`Timings.isDuration_of_parse`), and so are the faster ones of two texts
(`Timings.isDuration_of_fastest`). The times of a file are those of its text.
-/

namespace BenchGate.Timings

/-- A time in seconds: finite and not negative. -/
@[mk_iff]
structure IsDuration (time : Float) : Prop where
  isFinite : time.isFinite = true
  nonneg : 0 ≤ time

instance (time : Float) : Decidable (IsDuration time) := decidable_of_iff' _ (isDuration_iff time)

/-- A time that is not zero or below is above zero. -/
theorem IsDuration.not_le_zero_iff {time : Float} (h : IsDuration time) : ¬time ≤ 0 ↔ 0 < time :=
  Float.not_le (Float.isNaN_of_isFinite h.isFinite) (by decide +kernel)

/-- The faster times of two samples are times. -/
theorem isDuration_of_fastest {first second : Timings} (h : ∀ time ∈ first, IsDuration time)
    (h' : ∀ time ∈ second, IsDuration time) :
    ∀ time ∈ List.zipWith least first second, IsDuration time := by
  intro time htime
  obtain ⟨i, hi, rfl⟩ := List.mem_iff_getElem.1 htime
  have hlt := hi
  rw [List.length_zipWith, lt_min_iff] at hlt
  obtain ⟨hfirst, hsecond⟩ := hlt
  rw [List.getElem_zipWith]
  rcases Float.least_eq_or first[i] second[i] with hleast | hleast <;> rw [hleast]
  · exact h _ (List.getElem_mem hfirst)
  · exact h' _ (List.getElem_mem hsecond)

/-- What a word stands for is a time. -/
theorem isDuration_of_word {word : List Char} {position : Nat} {time : Float}
    (h : ofWord word position = .ok time) : IsDuration time := by
  unfold ofWord at h
  cases hliteral : Literal.ofChars? word with
  | none =>
    rw [hliteral] at h
    cases h
  | some literal =>
    simp only [hliteral] at h
    split_ifs at h with hinfinite hnegative
    cases h
    have hfin : literal.toFloat.isFinite = true := by simpa using hinfinite
    have hzero : (0 : Float).isNaN = false := by decide +kernel
    exact ⟨hfin, (Float.not_lt (Float.isNaN_of_isFinite hfin) hzero).1 hnegative⟩

/-- What a text holds are times. -/
theorem isDuration_of_parse {source text : String} {times : Timings}
    (h : parse source text = .ok times) : ∀ time ∈ times, IsDuration time := by
  unfold parse at h
  split at h
  · next values hvalues =>
    cases h
    intro time htime
    obtain ⟨word, -, hword⟩ := Except.exists_of_mem_mapM hvalues time htime
    exact isDuration_of_word hword
  · cases h

/-- What a file holds was read from a text. -/
theorem exists_parse_of_read {tree : Tree} {path : String} {times : Timings}
    (h : read tree path = .ok times) : ∃ source text, parse source text = .ok times := by
  unfold read at h
  split at h
  · exact ⟨_, _, h⟩
  · cases h
  · cases h

end BenchGate.Timings
