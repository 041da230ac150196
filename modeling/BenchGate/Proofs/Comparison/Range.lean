import BenchGate.Proofs.Binary64.Scientific
import BenchGate.Proofs.Comparison.Direction
import BenchGate.Report.Lines

/-!
# No number of an outcome is undefined

An undefined number would make every comparison with a threshold false, and a run would pass without
a reason. For thresholds that were accepted, infinite ones included, and times that were read there
is none: `Measurement.IsInRange` gives the range of every number of a measurement and of the numbers
on the way to it, and `Samples.measure_isInRange` shows that all of them are kept. Sums may overflow
and quotients may be infinite, but nothing is taken from infinity except finite numbers, and no
factor is zero where the other may be infinite.
-/

namespace BenchGate

open Timings

/-- A number from a least one up to infinity. -/
structure IsFrom (low x : Float) : Prop where
  le : low ≤ x
  le_infinity : x ≤ infinity

section
variable {low x y : Float}

theorem isFrom_of_le (h : low ≤ x) : IsFrom low x := ⟨h, Float.le_infinity (Float.le_iff.1 h).2.1⟩

theorem IsFrom.isNaN (h : IsFrom low x) : x.isNaN = false := (Float.le_iff.1 h.le).2.1

/-- A product of a finite factor above zero and one that may be infinite. -/
theorem isFrom_mul (hx : 0 < x) (hfin : x.isFinite = true) (hy : 0 < y) : IsFrom 0 (x * y) := by
  refine isFrom_of_le ?_
  rcases Float.isFinite_or_eq_infinity (Float.le_of_lt hy) with hfin' | rfl
  · obtain ⟨hvalue, hnum⟩ := Float.value_mul hfin hfin'
    rw [Float.nonneg_iff, hvalue]
    exact ⟨hnum, Binary64.round_nonneg
      (mul_nonneg (Float.pos_iff.1 hx).2.le (Float.pos_iff.1 hy).2.le)⟩
  · rw [Float.mul_infinity hx hfin]
    decide +kernel

/-- One less than a number from zero on, which may be infinite. -/
theorem isNaN_sub_one (h : 0 ≤ x) : (x - 1).isNaN = false := by
  rcases Float.isFinite_or_eq_infinity h with hfin | rfl
  · exact Float.isNaN_of_isFinite (value_sub_one h hfin).2
  · decide +kernel

theorem isNaN_ofNat (n : ℕ) : (Float.ofNat n).isNaN = false :=
  (Float.isNearest_ofScientific n false 0).isNaN

theorem isNaN_roundHalfUp (h : x.isNaN = false) : (roundHalfUp x).isNaN = false := by
  unfold roundHalfUp
  split
  · split
    · exact h
    · dsimp only
      generalize Int.fdiv _ _ = n
      cases n with
      | ofNat n => exact isNaN_ofNat n
      | negSucc n =>
        change (-(Float.ofNat n.succ)).isNaN = false
        rw [Float.isNaN_neg]
        exact isNaN_ofNat n.succ
  · exact h

end

/-! ## Rows -/

/-- The numbers of a row, and what is computed from them to tell its kind, are in their ranges. -/
structure Comparison.IsInRange (t : Thresholds) (c : Comparison) : Prop extends c.IsSound where
  index : c.index.isNaN = false
  ratio_isFrom : IsFrom 0 c.ratio
  limit : IsFrom 0 (c.baseline * t.regressionRatio)
  difference : (c.latest - c.baseline).isNaN = false
  above_one : (c.ratio - 1).isNaN = false
  percent : IsFrom (-100) (percentOfRatio c.ratio)

/-- A sound row is in range. -/
theorem Comparison.IsSound.isInRange {t : Thresholds} {c : Comparison} (h : c.IsSound)
    (ht : t.IsValid) (hindex : c.index.isNaN = false) : c.IsInRange t where
  toIsSound := h
  index := hindex
  ratio_isFrom := isFrom_of_le h.ratio_nonneg
  limit := isFrom_mul h.baseline_pos h.baseline.isFinite ht.regressionRatio
  difference := (Float.value_sub h.latest.isFinite h.baseline.isFinite).2
  above_one := isNaN_sub_one h.ratio_nonneg
  percent := isFrom_of_le (percentOfRatio_range h.ratio_nonneg).1

/-! ## Summaries -/

namespace Summary

/-- The numbers of a summary are in their ranges. -/
structure IsInRange (s : Summary) : Prop where
  count : s.count.isNaN = false
  totalBaseline : IsFrom 0 s.totalBaseline
  totalLatest : IsFrom 0 s.totalLatest
  meanRatio : IsFrom 0 s.meanRatio
  minRatio : IsFrom 0 s.minRatio
  maxRatio : IsFrom 0 s.maxRatio

/-- What has been added up and compared after some rows. The greatest ratio so far is minus infinity
before the first row. -/
structure IsRunning (rows : List Comparison) : Prop where
  baseline : IsFrom 0 (total (·.baseline) rows)
  latest : IsFrom 0 (total (·.latest) rows)
  ratio : IsFrom 0 (total (·.ratio) rows)
  minRatio : IsFrom 0 (ofRows rows).minRatio
  maxRatio : IsFrom (-infinity) (ofRows rows).maxRatio

section
variable {rows : List Comparison}

/-- A total of numbers from zero on is one. -/
theorem isFrom_total {column : Comparison → Float} (h : ∀ c ∈ rows, 0 ≤ column c) :
    IsFrom 0 (total column rows) := by
  refine isFrom_of_le (List.foldlRecOn rows _ (by decide +kernel) fun sum hsum c hc => ?_)
  exact Float.add_nonneg hsum (h c hc)

/-- The least of numbers from zero on is one; of none it is infinity. -/
theorem isFrom_minRatio (h : ∀ c ∈ rows, 0 ≤ c.ratio) : IsFrom 0 (ofRows rows).minRatio := by
  refine isFrom_of_le (List.foldlRecOn rows _ (by decide +kernel) fun m hm c hc => ?_)
  rcases Float.least_eq_or m c.ratio with heq | heq <;> rw [heq]
  · exact hm
  · exact h c hc

/-- A greatest number that is sought among numbers from zero on stays where it is above. -/
theorem le_foldl_greatest {low start : Float} (hstart : low ≤ start)
    (h : ∀ c ∈ rows, low ≤ c.ratio) :
    low ≤ rows.foldl (fun m row => greatest m row.ratio) start := by
  refine List.foldlRecOn rows _ hstart fun m hm c hc => ?_
  rcases Float.greatest_eq_or m c.ratio with heq | heq <;> rw [heq]
  · exact hm
  · exact h c hc

/-- The greatest of some numbers from zero on is one. -/
theorem isFrom_maxRatio (h : ∀ c ∈ rows, 0 ≤ c.ratio) (hne : rows ≠ []) :
    IsFrom 0 (ofRows rows).maxRatio := by
  cases rows with
  | nil => exact absurd rfl hne
  | cons c rows =>
    obtain ⟨hc, hrows⟩ := List.forall_mem_cons.1 h
    obtain ⟨hnum, hnonneg⟩ := Float.nonneg_iff.1 hc
    have hseed : (-infinity).isNaN = false := by decide +kernel
    -- the first ratio already takes the place of minus infinity
    have hfirst : 0 ≤ greatest (-infinity) c.ratio := by
      rw [Float.nonneg_iff, Float.value_greatest hseed hnum]
      exact ⟨Float.isNaN_greatest hseed hnum, hnonneg.trans (le_max_right _ _)⟩
    have hle := le_foldl_greatest hfirst hrows
    exact isFrom_of_le hle

/-- What has been computed after some sound rows is in range. -/
theorem isRunning_of_isSound (h : ∀ c ∈ rows, c.IsSound) : IsRunning rows where
  baseline := isFrom_total fun c hc => (h c hc).baseline.nonneg
  latest := isFrom_total fun c hc => (h c hc).latest.nonneg
  ratio := isFrom_total fun c hc => (h c hc).ratio_nonneg
  minRatio := isFrom_minRatio fun c hc => (h c hc).ratio_nonneg
  maxRatio := by
    refine isFrom_of_le (le_foldl_greatest (by decide +kernel) fun c hc => ?_)
    exact Float.le_trans (by decide +kernel) (h c hc).ratio_nonneg

/-- The summary of sound rows is in range. -/
theorem isInRange_ofRows (h : ∀ c ∈ rows, c.IsSound) (hne : rows ≠ []) :
    (ofRows rows).IsInRange where
  count := (Float.value_ofCount _).2
  totalBaseline := (isRunning_of_isSound h).baseline
  totalLatest := (isRunning_of_isSound h).latest
  meanRatio := isFrom_of_le (Float.div_nonneg (isRunning_of_isSound h).ratio.le
    (Float.ofCount_pos.2 (List.length_pos_iff.2 hne)) (Float.isFinite_ofCount _))
  minRatio := (isRunning_of_isSound h).minRatio
  maxRatio := isFrom_maxRatio (fun c hc => (h c hc).ratio_nonneg) hne

end

end Summary

/-! ## Measurements -/

/-- The numbers of a reason to fail. -/
def Objection.numbers : Objection → List Float
  | regression count => [count]
  | aggregate meanRatio threshold => [meanRatio, threshold]

/-- All numbers of a measurement, part by part. -/
def Measurement.numbers (m : Measurement) : List Float :=
  (m.comparisons.flatMap fun c => [c.index, c.baseline, c.latest, c.ratio]) ++
    [m.summary.count, m.summary.totalBaseline, m.summary.totalLatest, m.summary.meanRatio,
      m.summary.minRatio, m.summary.maxRatio] ++
    (m.findings.classifications.flatMap fun x => [x.index, x.percent]) ++
    [m.findings.regressionCount, m.verdict.regressionCount, m.verdict.meanRatio] ++
    m.verdict.failures.flatMap Objection.numbers

/-- All numbers of a measurement are in their ranges, and so are those on the way to it: the sums
and extremes after each row, and what the report shows of the mean and of the thresholds. -/
structure Measurement.IsInRange (t : Thresholds) (m : Measurement) : Prop where
  limits : ∀ limit ∈ t.limits, limit.2.isNaN = false
  comparisons : ∀ c ∈ m.comparisons, c.IsInRange t
  percents : ∀ x ∈ m.findings.classifications, IsFrom (-100) x.percent
  summary : m.summary.IsInRange
  summary_eq : m.summary = .ofRows m.comparisons
  running : ∀ k, Summary.IsRunning (m.comparisons.take k)
  meanChange : (m.summary.meanRatio - 1).isNaN = false ∧
    IsFrom (-100) (percentOfRatio m.summary.meanRatio)
  reportedPercent : (t.slowdownRatio - 1).isNaN = false ∧
    ((t.slowdownRatio - 1) * 100).isNaN = false ∧ (Report.reportedPercent t).isNaN = false
  numbers : ∀ x ∈ m.numbers, x.isNaN = false

section
variable {t : Thresholds} {pairs : List (Float × Float)}

/-- No limit that was accepted is undefined. -/
theorem Thresholds.IsValid.isNaN_of_mem_limits (ht : t.IsValid) :
    ∀ limit ∈ t.limits, limit.2.isNaN = false := by
  simp only [limits, List.forall_mem_cons]
  exact ⟨(Float.pos_iff.1 ht.regressionRatio).1, (Float.nonneg_iff.1 ht.regressionAbsolute).1,
    (Float.pos_iff.1 ht.slowdownRatio).1, (Float.pos_iff.1 ht.speedupRatio).1,
    (Float.pos_iff.1 ht.meanRatio).1, List.forall_mem_nil _⟩

/-- The percentage in the closing line is a number, or infinity. -/
theorem Thresholds.IsValid.isNaN_reportedPercent (ht : t.IsValid) :
    ((t.slowdownRatio - 1) * 100).isNaN = false ∧ (Report.reportedPercent t).isNaN = false := by
  have hpos := Float.le_of_lt ht.slowdownRatio
  have hnum : ((t.slowdownRatio - 1) * 100).isNaN = false := by
    rcases Float.isFinite_or_eq_infinity hpos with hfin | heq
    · exact (Float.value_mul (value_sub_one hpos hfin).2 value_hundred.2).2
    · rw [heq]
      decide +kernel
  exact ⟨hnum, isNaN_roundHalfUp hnum⟩

/-- The reasons of a verdict show no undefined number. -/
theorem Verdict.isNaN_of_mem_failures {summary : Summary} {count : Float}
    (hcount : count.isNaN = false) (hmean : summary.meanRatio.isNaN = false)
    (hlimit : t.meanRatio.isNaN = false) :
    ∀ objection ∈ (ofSummary t summary count).failures, ∀ x ∈ objection.numbers,
      x.isNaN = false := by
  intro objection hobjection
  simp only [ofSummary, List.mem_append, List.mem_ite_nil_right, List.mem_singleton] at hobjection
  rcases hobjection with ⟨-, rfl⟩ | ⟨-, rfl⟩
  · exact List.forall_mem_singleton.2 hcount
  · exact List.forall_mem_cons.2 ⟨hmean, List.forall_mem_singleton.2 hlimit⟩

/-- The measurement of pairs of times whose baselines are above zero is in range. -/
theorem Measurement.ofPairs_isInRange (ht : t.IsValid)
    (htimes : ∀ pair ∈ pairs, IsDuration pair.1 ∧ IsDuration pair.2)
    (hpos : ∀ pair ∈ pairs, ¬pair.1 ≤ 0) (hne : pairs ≠ []) : (ofPairs t pairs).IsInRange t := by
  have hne' : Comparison.ofPairs pairs ≠ [] := mt Comparison.ofPairs_eq_nil_iff.1 hne
  have hsound : ∀ c ∈ Comparison.ofPairs pairs, c.IsSound := fun c hc =>
    Comparison.isSound_of_mem_ofPairs htimes hpos hc
  have hrows : ∀ c ∈ Comparison.ofPairs pairs, c.IsInRange t := by
    intro c hc
    obtain ⟨pair, -, index, rfl⟩ := Comparison.exists_of_mem_ofPairs hc
    exact (hsound _ hc).isInRange ht (isNaN_ofNat index)
  have hsummary := Summary.isInRange_ofRows hsound hne'
  have hcount : (Findings.ofComparisons t (Comparison.ofPairs pairs)).regressionCount.isNaN =
      false := (Float.value_ofCount _).2
  have hclasses : ∀ x ∈ (Findings.ofComparisons t (Comparison.ofPairs pairs)).classifications,
      x.index.isNaN = false ∧ IsFrom (-100) x.percent := by
    intro x hx
    obtain ⟨c, hc, rfl⟩ := List.mem_map.1 hx
    exact ⟨(hrows c hc).index, (hrows c hc).percent⟩
  -- all numbers, part by part in the order of the list
  have hnumbers : ∀ x ∈ (ofPairs t pairs).numbers, x.isNaN = false := by
    simp only [numbers, List.forall_mem_append, List.forall_mem_flatMap, List.forall_mem_cons]
    refine ⟨⟨⟨⟨fun c hc => ?_, ?_⟩, fun x hx => ?_⟩, ?_⟩, ?_⟩
    · have hrow := hrows c hc
      exact ⟨hrow.index, Float.isNaN_of_isFinite hrow.baseline.isFinite,
        Float.isNaN_of_isFinite hrow.latest.isFinite, hrow.ratio_isFrom.isNaN,
        List.forall_mem_nil _⟩
    · exact ⟨hsummary.count, hsummary.totalBaseline.isNaN, hsummary.totalLatest.isNaN,
        hsummary.meanRatio.isNaN, hsummary.minRatio.isNaN, hsummary.maxRatio.isNaN,
        List.forall_mem_nil _⟩
    · exact ⟨(hclasses x hx).1, (hclasses x hx).2.isNaN, List.forall_mem_nil _⟩
    · exact ⟨hcount, hcount, hsummary.meanRatio.isNaN, List.forall_mem_nil _⟩
    · exact Verdict.isNaN_of_mem_failures hcount hsummary.meanRatio.isNaN
        (Float.pos_iff.1 ht.meanRatio).1
  constructor
  case limits => exact ht.isNaN_of_mem_limits
  case comparisons => exact hrows
  case percents => exact fun x hx => (hclasses x hx).2
  case summary => exact hsummary
  case summary_eq => rfl
  case running =>
    exact fun k => Summary.isRunning_of_isSound fun c hc => hsound c (List.mem_of_mem_take hc)
  case meanChange =>
    exact ⟨isNaN_sub_one hsummary.meanRatio.le,
      isFrom_of_le (percentOfRatio_range hsummary.meanRatio.le).1⟩
  case reportedPercent =>
    exact ⟨isNaN_sub_one (Float.le_of_lt ht.slowdownRatio), ht.isNaN_reportedPercent⟩
  case numbers => exact hnumbers

end

namespace Samples

/-- Each sample was read from a text. -/
structure IsRead (s : Samples) : Prop where
  baseline : (∃ source text, parse source text = .ok s.baseline.1) ∧
    ∃ source text, parse source text = .ok s.baseline.2
  latest : (∃ source text, parse source text = .ok s.latest.1) ∧
    ∃ source text, parse source text = .ok s.latest.2

/-- The pairs of samples that were read are pairs of times. -/
theorem IsRead.isDuration_of_mem_pairs {s : Samples} (h : s.IsRead) :
    ∀ pair ∈ s.pairs, IsDuration pair.1 ∧ IsDuration pair.2 := by
  obtain ⟨⟨⟨_, _, hb₁⟩, _, _, hb₂⟩, ⟨_, _, hl₁⟩, _, _, hl₂⟩ := h
  intro pair hpair
  obtain ⟨hfirst, hsecond⟩ := List.of_mem_zip hpair
  exact ⟨isDuration_of_fastest (isDuration_of_parse hb₁) (isDuration_of_parse hb₂) _ hfirst,
    isDuration_of_fastest (isDuration_of_parse hl₁) (isDuration_of_parse hl₂) _ hsecond⟩

/-- Whatever thresholds were accepted and whatever times were read, no number of a measurement is
undefined, and none on the way to it. -/
theorem measure_isInRange {document : Datum} {config : Config} {allowLengthMismatch : Bool}
    {s : Samples} {m : Measurement} (hconfig : Config.ofDatum document = .ok config)
    (hread : s.IsRead) (hm : s.measure config.thresholds allowLengthMismatch = .ok m) :
    m.IsInRange config.thresholds := by
  obtain ⟨-, hpos, hne, rfl⟩ := measure_eq_ok_iff.1 hm
  exact Measurement.ofPairs_isInRange (Config.ofDatum_isValid hconfig)
    hread.isDuration_of_mem_pairs hpos hne

/-- Times whose total is too large for a double, with the least double and a negative zero. -/
def extreme : Samples where
  baseline := ([1e308, 1e308, 5e-324], [1e308, 1e308, 5e-324])
  latest := ([1e308, -0, 1e308], [1.5e308, 1e308, 1e308])

/-- The limits that make every change noise. -/
def unlimited : List (String × Datum) :=
  [("regressionRatio", .number infinity), ("regressionAbsolute", .number infinity),
    ("slowdownRatio", .number infinity), ("meanRatio", .number infinity)]

/-- Of these times the totals, a ratio and the mean are infinite and another ratio is negative zero,
and with them the run fails limits that are all infinite. -/
theorem measure_isInRange_extreme :
    ∃ config m, Config.ofDatum (.record [("thresholds", .record unlimited)]) = .ok config ∧
      extreme.IsRead ∧ extreme.measure config.thresholds false = .ok m ∧
        m.summary.totalBaseline = infinity ∧ m.summary.meanRatio = infinity ∧
          m.verdict.passed = false ∧ m.IsInRange config.thresholds := by
  have hread : extreme.IsRead := by
    refine ⟨⟨⟨"a", "1e308 1e308 5e-324", ?_⟩, "b", "1e308 1e308 5e-324", ?_⟩,
      ⟨"c", "1e308 -0 1e308", ?_⟩, "d", "15e307 1e308 1e308", ?_⟩ <;> decide +kernel
  have hconfig : ∃ config, Config.ofDatum (.record [("thresholds", .record unlimited)]) =
      .ok config ∧ config.thresholds.meanRatio = infinity := ⟨_, rfl, rfl⟩
  obtain ⟨config, hconfig, hlimit⟩ := hconfig
  have hlength : extreme.AgreeInLength := by constructor <;> decide +kernel
  have hm : extreme.measure config.thresholds false =
      .ok (.ofPairs config.thresholds extreme.pairs) :=
    measure_eq_ok_iff.2 ⟨.inr hlength, by decide +kernel, by decide +kernel, rfl⟩
  have hsummary : ∀ t pairs, (Measurement.ofPairs t pairs).summary =
      .ofRows (Comparison.ofPairs pairs) := fun _ _ => rfl
  have htotal : (Measurement.ofPairs config.thresholds extreme.pairs).summary.totalBaseline =
      infinity := by
    rw [hsummary]
    exact Float.toBits_inj.1 (by decide +kernel)
  have hmean : (Measurement.ofPairs config.thresholds extreme.pairs).summary.meanRatio =
      infinity := by
    rw [hsummary]
    exact Float.toBits_inj.1 (by decide +kernel)
  refine ⟨config, _, hconfig, hread, hm, htotal, hmean, ?_, measure_isInRange hconfig hread hm⟩
  rw [hsummary] at hmean
  rw [Bool.eq_false_iff, ne_eq, Measurement.ofPairs, Measurement.ofSummary, Verdict.passed_iff,
    hmean, hlimit]
  exact fun h => h.2 (by decide +kernel)

end Samples

end BenchGate
