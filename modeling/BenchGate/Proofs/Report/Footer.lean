import BenchGate.Proofs.Comparison.Direction
import BenchGate.Proofs.Decimal.Whole
import BenchGate.Proofs.Run.Coherence

/-!
# The footer of a report

The footer names one percentage, the change at which slowdowns begin, rounded to a whole number. A
row is reported by limits of its own: from the slowdowns upwards, from the speedups downwards, and
both are compared before rounding. `Report.footer_keepsPromise` says how far the footer can be
relied on: from half a percent above its percentage every slower row is reported, and all deviations
beyond it are when rounding went up and speedups begin at least as close to one. Where regressions
do not begin below slowdowns, this is also necessary. `Report.footer_missesDeviations` has rows of
both directions that are beyond the footer and not reported.
-/

namespace BenchGate

open Binary64 Timings

/-! ## The percentage -/

namespace Report

variable {t : Thresholds}

/-- The percentage is the change at which slowdowns begin, as a whole number. -/
theorem reportedPercent_eq (ht : t.IsValid) :
    reportedPercent t = roundHalfUp (percentOfRatio t.slowdownRatio) := by
  rw [reportedPercent, sub_one_mul_hundred (Float.le_of_lt ht.slowdownRatio)]

/-- The percentage is less than half a percent below the limit of slowdowns, and at most half a
percent above it. -/
theorem reportedPercent_near (ht : t.IsValid) :
    (reportedPercent t).isNaN = false ∧
      (reportedPercent t).value - 1 / 2 ≤ (percentOfRatio t.slowdownRatio).value ∧
      (percentOfRatio t.slowdownRatio).value < (reportedPercent t).value + 1 / 2 := by
  rw [reportedPercent_eq ht]
  rcases isFinite_or_eq_infinity_percentOfRatio (Float.le_of_lt ht.slowdownRatio) with
    hfin | heq
  · obtain ⟨hvalue, hnum⟩ := Float.value_roundHalfUp hfin
    have hlow := Int.floor_le ((percentOfRatio t.slowdownRatio).value + 1 / 2)
    have hhigh := Int.lt_floor_add_one ((percentOfRatio t.slowdownRatio).value + 1 / 2)
    rw [hvalue]
    exact ⟨hnum, by linarith, by linarith⟩
  · rw [heq, Float.roundHalfUp_infinity]
    exact ⟨Float.isNaN_infinity, by linarith, by linarith⟩

end Report

/-! ## Rows that are reported -/

namespace Comparison

/-- A row is reported: it has a message, and every report about rows of which it is one has the
message and the footer among its paragraphs. -/
def IsReported (t : Thresholds) (c : Comparison) : Prop :=
  ∃ message, (Classification.ofComparison t c).message = some message ∧
    ∀ rows s, c ∈ rows → ∃ text,
      Report.build? t (Findings.ofComparisons t rows).messages s = some text ∧
        message ∈ Report.paragraphs text ∧ Report.footer t ∈ Report.paragraphs text

section
variable {t : Thresholds} {c : Comparison}

/-- What is not noise is reported. -/
theorem isReported_iff : c.IsReported t ↔ t.kind c ≠ .withinNoise := by
  constructor
  · rintro ⟨message, hmessage, -⟩ hkind
    cases hmessage.symm.trans (Kind.line?_eq_none_iff.2 hkind)
  · intro hkind
    obtain ⟨message, hmessage⟩ := Option.ne_none_iff_exists'.1 (mt Kind.line?_eq_none_iff.1 hkind)
    refine ⟨message, hmessage, fun rows s hc => ?_⟩
    have hmem : message ∈ (Findings.ofComparisons t rows).messages :=
      List.mem_filterMap.2 ⟨_, List.mem_map_of_mem hc, hmessage⟩
    obtain ⟨text, htext⟩ := Option.ne_none_iff_exists'.1
      (mt (@Report.build?_eq_none_iff t _ s).1 (List.ne_nil_of_mem hmem))
    refine ⟨text, htext, ?_⟩
    rw [Report.paragraphs_of_build? Findings.isLine_messages htext]
    exact ⟨List.mem_append_left _ hmem, by simp⟩

/-- Noise is what no limit is exceeded by. -/
theorem kind_eq_withinNoise_iff : t.kind c = .withinNoise ↔
    t.kind c ≠ .regression ∧ ¬t.slowdownRatio < c.ratio ∧ ¬c.ratio < t.speedupRatio := by
  unfold Thresholds.kind
  split_ifs with _ hslowdown hspeedup <;> simp_all

/-- A row that changed by more than the limit of slowdowns, or of speedups, is reported. -/
theorem IsSound.isReported_of_percent (h : c.IsSound) (ht : t.IsValid)
    (hpercent : percentOfRatio t.slowdownRatio < percentOfRatio c.ratio ∨
      percentOfRatio c.ratio < percentOfRatio t.speedupRatio) : c.IsReported t := by
  rw [isReported_iff, Ne, kind_eq_withinNoise_iff]
  rintro ⟨-, hslowdown, hspeedup⟩
  rcases hpercent with hpercent | hpercent
  · exact hslowdown
      (lt_of_percentOfRatio_lt (Float.le_of_lt ht.slowdownRatio) h.ratio_nonneg hpercent)
  · exact hspeedup
      (lt_of_percentOfRatio_lt h.ratio_nonneg (Float.le_of_lt ht.speedupRatio) hpercent)

end

/-! ## Rows between the limits -/

section
variable {t : Thresholds} {x : Float}

theorem isMeasured_ofTimes_one (hx : IsDuration x) : (ofTimes 0 1 x).IsMeasured := by
  have hone : IsDuration 1 := by decide +kernel
  have hpos : ¬(1 : Float) ≤ 0 := by decide +kernel
  refine ⟨false, [1], [x], [ofTimes 0 1 x], List.forall_mem_singleton.2 hone,
    List.forall_mem_singleton.2 hx, ?_, List.mem_singleton_self _⟩
  simp [ofRuns, ofPairs, hpos]

/-- A row with a baseline of one second has its latest time as its ratio. -/
theorem ratio_ofTimes_one (hx : x.isFinite = true) : (ofTimes 0 1 x).ratio = x :=
  Float.div_one hx

/-- Such a row between the limits is noise, unless regressions begin below slowdowns. -/
theorem kind_ofTimes_one (ht : t.IsValid) (hx : x.isFinite = true) (hlow : t.speedupRatio ≤ x)
    (hhigh : x ≤ t.slowdownRatio) (hregression : t.slowdownRatio ≤ t.regressionRatio) :
    t.kind (ofTimes 0 1 x) = .withinNoise := by
  rw [kind_eq_withinNoise_iff, ratio_ofTimes_one hx]
  refine ⟨fun hkind => ?_, fun hlt => Float.not_le_of_lt hlt hhigh,
    fun hlt => Float.not_le_of_lt hlt hlow⟩
  obtain ⟨hlt, -⟩ := Thresholds.kind_eq_regression_iff.1 hkind
  refine Float.not_le_of_lt hlt (Float.le_trans hhigh ?_)
  rwa [show (ofTimes 0 1 x).baseline = 1 from rfl, Float.one_mul_of_pos ht.regressionRatio]

end

end Comparison

namespace Report

open Comparison

/-- The footer keeps its promise: every measured row that deviates from its baseline by more than
the footer says is reported. -/
def KeepsFooter (t : Thresholds) : Prop :=
  ∀ c : Comparison, c.IsMeasured → reportedPercent t < (percentOfRatio c.ratio).abs → c.IsReported t

section
variable {t : Thresholds} {c : Comparison}

/-- A row that is slower by more than the footer says is reported, if rounding did not go down, or
if it is slower than the limit, as it is from half a percent above the footer. -/
theorem isReported_of_slower (ht : t.IsValid) (hc : c.IsMeasured)
    (hbeyond : reportedPercent t < percentOfRatio c.ratio)
    (hlimit : percentOfRatio t.slowdownRatio ≤ reportedPercent t ∨
      percentOfRatio t.slowdownRatio < percentOfRatio c.ratio ∨
      (reportedPercent t).value + 1 / 2 ≤ (percentOfRatio c.ratio).value) : c.IsReported t := by
  refine hc.isSound.isReported_of_percent ht (.inl ?_)
  rcases hlimit with hrounded | hslower | hhalf
  · exact Float.lt_of_le_of_lt hrounded hbeyond
  · exact hslower
  · obtain ⟨-, -, hnear⟩ := reportedPercent_near ht
    have hnum := (percentOfRatio_range (Float.le_of_lt ht.slowdownRatio)).2
    exact Float.lt_iff.2 ⟨(Float.le_iff.1 hnum).1, (Float.lt_iff.1 hbeyond).2.1, by linarith⟩

/-- A row that is faster by more than the footer says is reported, if speedups begin at least as
close to one, or if it is faster than their limit. -/
theorem isReported_of_faster (ht : t.IsValid) (hc : c.IsMeasured)
    (hbeyond : percentOfRatio c.ratio < -reportedPercent t)
    (hlimit : -reportedPercent t ≤ percentOfRatio t.speedupRatio ∨
      percentOfRatio c.ratio < percentOfRatio t.speedupRatio) : c.IsReported t := by
  refine hc.isSound.isReported_of_percent ht (.inr ?_)
  rcases hlimit with hclose | hfaster
  · exact Float.lt_of_lt_of_le hbeyond hclose
  · exact hfaster

/-- When both limits are no farther from one than the footer says, it keeps its promise. -/
theorem keepsFooter_of_le (ht : t.IsValid)
    (hslowdown : percentOfRatio t.slowdownRatio ≤ reportedPercent t)
    (hspeedup : -reportedPercent t ≤ percentOfRatio t.speedupRatio) : KeepsFooter t := by
  intro c hc hbeyond
  have hnum := (Float.le_iff.1 (percentOfRatio_range hc.isSound.ratio_nonneg).2).1
  rw [Float.lt_abs_iff (reportedPercent_near ht).1 hnum] at hbeyond
  rcases hbeyond with hslower | hfaster
  · exact isReported_of_slower ht hc hslower (.inl hslowdown)
  · exact isReported_of_faster ht hc hfaster (.inl hspeedup)

/-- A ratio between the limits is no deviation beyond a footer that keeps its promise. -/
theorem KeepsFooter.not_beyond (h : KeepsFooter t) (ht : t.IsValid)
    (hregression : t.slowdownRatio ≤ t.regressionRatio) {x : Float} (hx : x.isFinite = true)
    (hlow : t.speedupRatio ≤ x) (hhigh : x ≤ t.slowdownRatio) :
    ¬reportedPercent t < (percentOfRatio x).abs := by
  intro hbeyond
  have htime : IsDuration x := ⟨hx, Float.le_trans (Float.le_of_lt ht.speedupRatio) hlow⟩
  rw [← ratio_ofTimes_one hx] at hbeyond
  exact isReported_iff.1 (h _ (isMeasured_ofTimes_one htime) hbeyond)
    (kind_ofTimes_one ht hx hlow hhigh hregression)

/-- Where regressions do not begin below slowdowns, the footer keeps its promise only then. -/
theorem KeepsFooter.limits (h : KeepsFooter t) (ht : t.IsValid)
    (hregression : t.slowdownRatio ≤ t.regressionRatio) :
    percentOfRatio t.slowdownRatio ≤ reportedPercent t ∧
      -reportedPercent t ≤ percentOfRatio t.speedupRatio := by
  have hslowdown := Float.le_of_lt ht.slowdownRatio
  have hspeedup := Float.le_of_lt ht.speedupRatio
  have hnum := (reportedPercent_near ht).1
  have hnum' := (Float.le_iff.1 (percentOfRatio_range hslowdown).2).1
  have hnum'' := (Float.le_iff.1 (percentOfRatio_range hspeedup).2).1
  rcases Float.isFinite_or_eq_infinity hslowdown with hfin | hinf
  · have hfin' := Float.isFinite_of_le hspeedup ht.ordered hfin
    -- the rows whose ratios are the limits themselves
    have hself := h.not_beyond ht hregression hfin ht.ordered
      (Float.le_refl (Float.pos_iff.1 ht.slowdownRatio).1)
    have hself' := h.not_beyond ht hregression hfin'
      (Float.le_refl (Float.pos_iff.1 ht.speedupRatio).1) ht.ordered
    rw [Float.lt_abs_iff hnum hnum', not_or, Float.not_lt hnum hnum'] at hself
    rw [Float.lt_abs_iff hnum hnum'', not_or,
      Float.not_lt hnum'' ((Float.isNaN_neg _).trans hnum)] at hself'
    exact ⟨hself.1, hself'.2⟩
  · have hpercent : reportedPercent t = infinity := by
      rw [reportedPercent_eq ht, hinf, percentOfRatio_infinity, Float.roundHalfUp_infinity]
    rw [hpercent]
    exact ⟨Float.le_infinity hnum',
      Float.le_trans (by decide +kernel) (percentOfRatio_range hspeedup).1⟩

end

/-- What the footer of accepted thresholds promises, and when it is true. It shows the change at
which slowdowns begin, rounded to a whole percent. A row that is slower by more than that is
reported if rounding did not go down or the row is beyond the limit itself, as it is from half a
percent above; a row that is faster by more than that is reported if speedups begin at least as
close to one or the row is beyond their limit. So the promise is kept for all rows when rounding did
not go down and speedups begin close enough to one, and only then where regressions do not begin
below slowdowns. -/
theorem footer_keepsPromise {document : Datum} {config : Config}
    (h : Config.ofDatum document = .ok config) :
    let t := config.thresholds
    footer t = "Deviations greater than " ++ numeral (reportedPercent t) ++
      "% from the baseline are reported. See run output for more details." ∧
    ((reportedPercent t).value - 1 / 2 ≤ (percentOfRatio t.slowdownRatio).value ∧
      (percentOfRatio t.slowdownRatio).value < (reportedPercent t).value + 1 / 2) ∧
    (∀ c : Comparison, c.IsMeasured → reportedPercent t < percentOfRatio c.ratio →
      percentOfRatio t.slowdownRatio ≤ reportedPercent t ∨
        percentOfRatio t.slowdownRatio < percentOfRatio c.ratio ∨
        (reportedPercent t).value + 1 / 2 ≤ (percentOfRatio c.ratio).value → c.IsReported t) ∧
    (∀ c : Comparison, c.IsMeasured → percentOfRatio c.ratio < -reportedPercent t →
      -reportedPercent t ≤ percentOfRatio t.speedupRatio ∨
        percentOfRatio c.ratio < percentOfRatio t.speedupRatio → c.IsReported t) ∧
    (percentOfRatio t.slowdownRatio ≤ reportedPercent t →
      -reportedPercent t ≤ percentOfRatio t.speedupRatio → KeepsFooter t) ∧
    (t.slowdownRatio ≤ t.regressionRatio → KeepsFooter t →
      percentOfRatio t.slowdownRatio ≤ reportedPercent t ∧
        -reportedPercent t ≤ percentOfRatio t.speedupRatio) := by
  have ht := Config.ofDatum_isValid h
  exact ⟨rfl, (reportedPercent_near ht).2, fun c hc => isReported_of_slower ht hc,
    fun c hc => isReported_of_faster ht hc, keepsFooter_of_le ht,
    fun hregression hkeeps => hkeeps.limits ht hregression⟩

/-- Thresholds of a quarter up and down. -/
def quarterThresholds : List (String × Datum) :=
  [("regressionRatio", .number 1.5), ("slowdownRatio", .number 1.25),
    ("speedupRatio", .number 0.75)]

/-- With thresholds of a quarter the footer keeps its promise. With those that apply by default it
does not, since ten percent are a little less than the limit of slowdowns, but rows that are eleven
percent slower or faster are reported. -/
theorem footer_keepsPromise_quarter :
    (∃ config, Config.ofDatum (.record [("thresholds", .record quarterThresholds)]) = .ok config ∧
      footer config.thresholds = "Deviations greater than 25% from the baseline are reported. " ++
        "See run output for more details." ∧
      KeepsFooter config.thresholds) ∧
    ¬KeepsFooter {} ∧ (ofTimes 0 10 11.1).IsReported {} ∧ (ofTimes 1 10 8.9).IsReported {} := by
  have hdefault : Config.ofDatum .null = .ok {} := rfl
  obtain ⟨config, hconfig⟩ : ∃ config,
      Config.ofDatum (.record [("thresholds", .record quarterThresholds)]) = .ok config := ⟨_, rfl⟩
  have hquarter := footer_keepsPromise hconfig
  cases hconfig
  obtain ⟨-, -, -, -, hkeeps, -⟩ := hquarter
  obtain ⟨-, -, hslower, hfaster, -, honly⟩ := footer_keepsPromise hdefault
  have hmeasured : ∀ c ∈ [ofTimes 0 10 11.1, ofTimes 1 10 8.9], c.IsMeasured :=
    fun c hc => ⟨false, [10, 10], [11.1, 8.9], _, by decide +kernel, by decide +kernel, rfl, hc⟩
  refine ⟨⟨_, rfl, by decide +kernel, hkeeps (by decide +kernel) (by decide +kernel)⟩,
    fun hkept => ?_, ?_, ?_⟩
  · obtain ⟨hrounded, -⟩ := honly (by decide +kernel) hkept
    exact absurd hrounded (by decide +kernel)
  · exact hslower _ (hmeasured _ (by simp)) (by decide +kernel) (.inr (.inl (by decide +kernel)))
  · exact hfaster _ (hmeasured _ (by simp)) (by decide +kernel) (.inl (by decide +kernel))

/-- Rows of one run that deviate by more than the footer says, one in each direction, and have no
message: the first one is at the limit of slowdowns, which the footer shows rounded, and the second
one is not as fast as a speedup has to be. -/
theorem footer_missesDeviations :
    ∃ config c c', Config.ofDatum (.record [("thresholds", .record
        [("speedupRatio", .number 0.5)])]) = .ok config ∧
      Comparison.ofRuns false [10, 10] [11, 7.5] = .ok [c, c'] ∧
      footer config.thresholds = "Deviations greater than 10% from the baseline are reported. " ++
        "See run output for more details." ∧
      10 < (percentOfRatio c.ratio).abs ∧ 10 < (percentOfRatio c'.ratio).abs ∧
      (Classification.ofComparison config.thresholds c).message = none ∧
      (Classification.ofComparison config.thresholds c').message = none := by
  refine ⟨_, ofTimes 0 10 11, ofTimes 1 10 7.5, rfl, rfl, ?_⟩
  decide +kernel

end Report

end BenchGate
