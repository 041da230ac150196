import BenchGate.Proofs.Comparison.Percent
import BenchGate.Proofs.Comparison.Verdict
import BenchGate.Proofs.Config.Thresholds
import BenchGate.Proofs.Decimal.Sign
import BenchGate.Proofs.Timing.Text

/-!
# The direction of a reported change

Thresholds that are accepted are above zero, but they may lie on either side of one. A regression is
slower by more than an amount of time that is not negative, so it always took longer. A slowdown and
a speedup are told by the ratio alone, and so they name the true direction exactly when slowdowns
begin at one or above and speedups at one or below. `Thresholds.kind_tellsDirection` puts this
together, with the sign that a message shows; `Thresholds.slowdown_faster` is a benchmark that got
faster and is called a slowdown.
-/

namespace BenchGate

open Timings

namespace Comparison

/-! ## Rows -/

/-- A row of a comparison of two runs whose times are finite and not negative. -/
def IsMeasured (c : Comparison) : Prop :=
  ∃ allowLengthMismatch baseline latest rows, (∀ time ∈ baseline, IsDuration time) ∧
    (∀ time ∈ latest, IsDuration time) ∧ ofRuns allowLengthMismatch baseline latest = .ok rows ∧
    c ∈ rows

/-- A row is a quotient of two times, the baseline being above zero. -/
structure IsSound (c : Comparison) : Prop where
  baseline : IsDuration c.baseline
  baseline_pos : 0 < c.baseline
  latest : IsDuration c.latest
  ratio : c.ratio = c.latest / c.baseline

section
variable {allowLengthMismatch : Bool} {baseline latest : Timings} {rows : List Comparison}
  {c : Comparison}

/-- The rows of two runs are those of their pairs, if no baseline is zero or below. -/
theorem ofRuns_eq_ok (h : ofRuns allowLengthMismatch baseline latest = .ok rows) :
    rows = ofPairs (baseline.zip latest) ∧ ∀ pair ∈ baseline.zip latest, ¬pair.1 ≤ 0 := by
  unfold ofRuns at h
  split_ifs at h
  dsimp only at h
  split at h
  · cases h
  · next hnone =>
    cases h
    exact ⟨rfl, (Measurement.find?_eq_none_iff _).1 hnone⟩

/-- A row of pairs is the row of one of them. -/
theorem exists_of_mem_ofPairs {pairs : List (Float × Float)} (h : c ∈ ofPairs pairs) :
    ∃ pair ∈ pairs, ∃ index, c = ofTimes index pair.1 pair.2 := by
  obtain ⟨⟨pair, index⟩, hpair, rfl⟩ := List.mem_map.1 h
  exact ⟨pair, List.fst_mem_of_mem_zipIdx hpair, index, rfl⟩

/-- The rows of pairs of times are sound, if no baseline is zero or below. -/
theorem isSound_of_mem_ofPairs {pairs : List (Float × Float)}
    (htimes : ∀ pair ∈ pairs, IsDuration pair.1 ∧ IsDuration pair.2)
    (hpos : ∀ pair ∈ pairs, ¬pair.1 ≤ 0) (h : c ∈ ofPairs pairs) : c.IsSound := by
  obtain ⟨pair, hpair, index, rfl⟩ := exists_of_mem_ofPairs h
  obtain ⟨hbaseline, hlatest⟩ := htimes pair hpair
  exact ⟨hbaseline, hbaseline.not_le_zero_iff.1 (hpos pair hpair), hlatest, rfl⟩

/-- A row that was measured is sound. -/
theorem IsMeasured.isSound (h : c.IsMeasured) : c.IsSound := by
  obtain ⟨_, baseline, latest, rows, hbaseline, hlatest, hrows, hc⟩ := h
  obtain ⟨rfl, hpos⟩ := ofRuns_eq_ok hrows
  refine isSound_of_mem_ofPairs (fun pair hpair => ?_) hpos hc
  obtain ⟨hfirst, hsecond⟩ := List.of_mem_zip hpair
  exact ⟨hbaseline _ hfirst, hlatest _ hsecond⟩

/-- A ratio is a number from zero on. -/
theorem IsSound.ratio_nonneg (h : c.IsSound) : 0 ≤ c.ratio :=
  h.ratio ▸ Float.div_nonneg h.latest.nonneg h.baseline_pos h.baseline.isFinite

end

/-! ## Messages -/

/-- The change that the message about a row shows. -/
def change (c : Comparison) : String := fixed 1 (percentOfRatio c.ratio)

/-- A row took longer, and its message shows a plus sign and a number without a minus sign. -/
structure SaysSlower (t : Thresholds) (c : Comparison) : Prop where
  slower : c.baseline < c.latest
  message : ∃ text,
    (Classification.ofComparison t c).message = some (text ++ ": +" ++ c.change ++ "%")
  change : '-' ∉ c.change.toList

/-- A row took less time, and its message shows a number that begins with a minus sign. -/
structure SaysFaster (t : Thresholds) (c : Comparison) : Prop where
  faster : c.latest < c.baseline
  message : ∃ text,
    (Classification.ofComparison t c).message = some (text ++ ": " ++ c.change ++ "%")
  change : c.change.toList.head? = some '-'

section
variable {t : Thresholds} {c : Comparison} (h : c.IsSound)
include h

/-- A row that took longer is no decrease. -/
theorem IsSound.minus_not_mem_change (hslower : c.baseline < c.latest) :
    '-' ∉ c.change.toList := by
  have hratio : 1 ≤ c.ratio := h.ratio ▸ Float.one_le_div_of_le h.latest.isFinite
    h.baseline.isFinite h.baseline_pos (Float.le_of_lt hslower)
  exact minus_not_mem_fixed (percentOfRatio_nonneg hratio)

/-- A regression took longer, since the difference of its times is above zero. -/
theorem IsSound.slower_of_regression (ht : t.IsValid) (hkind : t.kind c = .regression) :
    c.baseline < c.latest := by
  obtain ⟨-, habsolute⟩ := Thresholds.kind_eq_regression_iff.1 hkind
  exact (Float.sub_pos_iff h.latest.isFinite h.baseline.isFinite).1
    (Float.lt_of_le_of_lt ht.regressionAbsolute habsolute)

/-- A slowdown took longer, if slowdowns begin at one or above. -/
theorem IsSound.slower_of_slowdown (ht : 1 ≤ t.slowdownRatio) (hkind : t.kind c = .slowdown) :
    c.baseline < c.latest := by
  unfold Thresholds.kind at hkind
  split_ifs at hkind with _ hslowdown
  rw [gt_iff_lt, h.ratio] at hslowdown
  exact Float.lt_of_lt_div h.latest.isFinite h.baseline.isFinite h.baseline_pos ht hslowdown

/-- The message about a regression or a slowdown that took longer shows that it did. -/
theorem IsSound.saysSlower (hkind : t.kind c = .regression ∨ t.kind c = .slowdown)
    (hslower : c.baseline < c.latest) : c.SaysSlower t where
  slower := hslower
  message := by
    rcases hkind with hkind | hkind
    · refine ⟨"🚫 Benchmark #" ++ numeral c.index ++ " is too slow", ?_⟩
      have hsplit : " is too slow: +" = " is too slow" ++ ": +" := by decide
      rw [Classification.ofComparison, hkind, Kind.line?, hsplit, ← String.append_assoc]
      rfl
    · refine ⟨"⚠️Potential non-blocking slowdown in benchmark #" ++ numeral c.index, ?_⟩
      rw [Classification.ofComparison, hkind]
      rfl
  change := h.minus_not_mem_change hslower

/-- A speedup took less time and says so, if speedups begin at one or below. -/
theorem IsSound.saysFaster_of_speedup (ht : t.speedupRatio ≤ 1) (hkind : t.kind c = .speedup) :
    c.SaysFaster t := by
  have hspeedup : c.ratio < t.speedupRatio := by
    unfold Thresholds.kind at hkind
    split_ifs at hkind with _ _ hspeedup
    exact hspeedup
  refine ⟨?_, ⟨"🔥 Potential speedup in benchmark #" ++ numeral c.index, ?_⟩, ?_⟩
  · exact Float.lt_of_div_lt h.latest.isFinite h.baseline.isFinite h.baseline_pos ht
      (h.ratio ▸ hspeedup)
  · rw [Classification.ofComparison, hkind]
    rfl
  · exact head_fixed (percentOfRatio_neg h.ratio_nonneg (Float.lt_of_lt_of_le hspeedup ht))

end

/-! ## A benchmark that did not change -/

/-- A benchmark that took one second twice. -/
def unchanged : Comparison := ofTimes 0 1 1

theorem isMeasured_unchanged : unchanged.IsMeasured := by
  have hone : IsDuration 1 := by decide +kernel
  refine ⟨false, [1], [1], [unchanged], ?_, ?_, rfl, List.mem_singleton_self _⟩
  all_goals exact List.forall_mem_singleton.2 hone

/-- It is a slowdown or a speedup if these begin on the wrong side of one. -/
theorem kind_unchanged {t : Thresholds} (ht : t.IsValid) :
    t.kind unchanged = if t.slowdownRatio < 1 then .slowdown
      else if 1 < t.speedupRatio then .speedup else .withinNoise := by
  have hratio : unchanged.ratio = 1 := Float.toBits_inj.1 (by decide +kernel)
  have hdifference : unchanged.latest - unchanged.baseline = 0 :=
    Float.toBits_inj.1 (by decide +kernel)
  have hregression : ¬0 > t.regressionAbsolute := fun h =>
    Float.not_le_of_lt h ht.regressionAbsolute
  rw [Thresholds.kind, hratio, hdifference, if_neg fun h => hregression h.2]

end Comparison

namespace Thresholds

open Comparison

/-- When the kinds of change that thresholds tell apart name the direction of every change: a
regression always, a slowdown and a speedup when they begin on their own side of one. -/
theorem kind_tellsDirection {document : Datum} {config : Config}
    (h : Config.ofDatum document = .ok config) :
    (∀ c : Comparison, c.IsMeasured → config.thresholds.kind c = .regression →
        c.SaysSlower config.thresholds) ∧
      ((∀ c : Comparison, c.IsMeasured → config.thresholds.kind c = .slowdown →
          c.SaysSlower config.thresholds) ↔ 1 ≤ config.thresholds.slowdownRatio) ∧
        ((∀ c : Comparison, c.IsMeasured → config.thresholds.kind c = .speedup →
          c.SaysFaster config.thresholds) ↔ config.thresholds.speedupRatio ≤ 1) := by
  have ht := Config.ofDatum_isValid h
  have hone : (1 : Float).isNaN = false := by decide +kernel
  have hself : ¬(1 : Float) < 1 := by decide +kernel
  refine ⟨?_, ⟨?_, ?_⟩, ⟨?_, ?_⟩⟩
  · intro c hc hkind
    exact hc.isSound.saysSlower (.inl hkind) (hc.isSound.slower_of_regression ht hkind)
  · -- otherwise the benchmark that did not change is a slowdown
    intro hall
    rw [← Float.not_lt (Float.pos_iff.1 ht.slowdownRatio).1 hone]
    intro hlt
    have hkind := kind_unchanged ht
    rw [if_pos hlt] at hkind
    exact hself (hall unchanged isMeasured_unchanged hkind).slower
  · intro hle c hc hkind
    exact hc.isSound.saysSlower (.inr hkind) (hc.isSound.slower_of_slowdown hle hkind)
  · -- slowdowns begin no lower than speedups, so it is a speedup here
    intro hall
    rw [← Float.not_lt hone (Float.pos_iff.1 ht.speedupRatio).1]
    intro hlt
    have hslowdown : ¬config.thresholds.slowdownRatio < 1 :=
      (Float.not_lt (Float.pos_iff.1 ht.slowdownRatio).1 hone).2
        (Float.le_of_lt (Float.lt_of_lt_of_le hlt ht.ordered))
    have hkind := kind_unchanged ht
    rw [if_neg hslowdown, if_pos hlt] at hkind
    exact hself (hall unchanged isMeasured_unchanged hkind).faster
  · intro hle c hc hkind
    exact hc.isSound.saysFaster_of_speedup hle hkind

/-- By default all three directions are told, here of three benchmarks. -/
theorem kind_tellsDirection_default :
    (ofTimes 0 10 20).SaysSlower {} ∧ (ofTimes 1 10 11.5).SaysSlower {} ∧
      (ofTimes 2 10 8).SaysFaster {} := by
  have hdefault : Config.ofDatum .null = .ok {} := rfl
  obtain ⟨hregression, hslowdown, hspeedup⟩ := kind_tellsDirection hdefault
  have hmeasured : ∀ c ∈ [ofTimes 0 10 20, ofTimes 1 10 11.5, ofTimes 2 10 8], c.IsMeasured :=
    fun c hc => ⟨false, [10, 10, 10], [20, 11.5, 8], _, by decide +kernel, by decide +kernel,
      rfl, hc⟩
  refine ⟨?_, ?_, ?_⟩
  · exact hregression _ (hmeasured _ (by simp)) (by decide +kernel)
  · exact hslowdown.2 (by decide +kernel) _ (hmeasured _ (by simp)) (by decide +kernel)
  · exact hspeedup.2 (by decide +kernel) _ (hmeasured _ (by simp)) (by decide +kernel)

/-- The section of thresholds that lie below one on both sides. -/
def belowOne : List (String × Datum) :=
  [("slowdownRatio", .number 0.5), ("speedupRatio", .number 0.4)]

/-- These thresholds are accepted, and a benchmark that took eight seconds after ten is a slowdown
to them, in a message with both signs. -/
theorem slowdown_faster :
    ∃ config, Config.ofDatum (.record [("thresholds", .record belowOne)]) = .ok config ∧
      ∃ c : Comparison, c.IsMeasured ∧ config.thresholds.kind c = .slowdown ∧
        c.latest < c.baseline ∧
          (Classification.ofComparison config.thresholds c).message =
            some "⚠️Potential non-blocking slowdown in benchmark #0: +-20.0%" := by
  refine ⟨_, rfl, ofTimes 0 10 8, ?_, ?_, ?_, ?_⟩
  · exact ⟨false, [10], [8], _, by decide +kernel, by decide +kernel, rfl,
      List.mem_singleton_self _⟩
  all_goals decide +kernel

end Thresholds

end BenchGate
