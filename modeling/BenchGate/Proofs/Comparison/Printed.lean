import BenchGate.Proofs.Comparison.Direction
import BenchGate.Proofs.Comparison.Reordering
import BenchGate.Proofs.Decimal.Fixed
import BenchGate.Report.Lines

/-!
# What is printed agrees with what was decided

A verdict compares doubles, and a reader compares the numbers that are printed. Since printing keeps
the order, a mean that reached its limit is not printed below it, the least ratio is not printed
above the greatest one, and the words for the mean change name the side of one that the mean is on
(`Summary.printed_agrees`).
-/

namespace BenchGate

open Binary64

/-- The words for a mean change: the size of the change, rounded to one place, has no sign, and the
direction is that of the mean. -/
theorem meanChange_words {mean : Float} (h : 0 ≤ mean) :
    ∃ number, meanChange mean = number ++ (if 1 < mean then "% slower" else "% faster") ∧
      IsFixed 1 (percentOfRatio mean).abs number ∧ '-' ∉ number.toList := by
  have hnum : (percentOfRatio mean).isNaN = false :=
    (Float.le_iff.1 (percentOfRatio_range h).2).1
  have habs : (percentOfRatio mean).abs.isNaN = false := (Float.isNaN_abs _).trans hnum
  unfold meanChange
  simp only [gt_iff_lt, percentOfRatio_pos_iff h]
  split_ifs with hslower
  · have hnonneg := Float.le_of_lt ((percentOfRatio_pos_iff h).2 hslower)
    refine ⟨fixed 1 (percentOfRatio mean), rfl, ?_, minus_not_mem_fixed hnonneg⟩
    refine (isFixed_fixed Nat.one_pos hnonneg).of_value_eq hnum habs ?_
    rw [Float.value_abs, abs_of_nonneg (Float.nonneg_iff.1 hnonneg).2]
  · -- the change is zero or below, and its opposite is printed
    have hnonpos : (percentOfRatio mean).value ≤ 0 := by
      rw [← percentOfRatio_pos_iff h, Float.pos_iff] at hslower
      exact not_lt.1 fun hpos => hslower ⟨hnum, hpos⟩
    have hneg : (-percentOfRatio mean).isNaN = false := (Float.isNaN_neg _).trans hnum
    have hnonneg : 0 ≤ -percentOfRatio mean :=
      Float.nonneg_iff.2 ⟨hneg, by rw [Float.value_neg]; exact neg_nonneg.2 hnonpos⟩
    refine ⟨fixed 1 (-percentOfRatio mean), rfl, ?_, minus_not_mem_fixed hnonneg⟩
    refine (isFixed_fixed Nat.one_pos hnonneg).of_value_eq hneg habs ?_
    rw [Float.value_neg, Float.value_abs, abs_of_nonpos hnonpos]

/-- An objection to the mean is that it reached the limit of the thresholds. -/
theorem Verdict.aggregate_mem_failures {t : Thresholds} {summary : Summary}
    {count mean limit : Float} (h : .aggregate mean limit ∈ (ofSummary t summary count).failures) :
    mean = summary.meanRatio ∧ limit = t.meanRatio ∧ limit ≤ mean := by
  unfold ofSummary at h
  rcases List.mem_append.1 h with hmem | hmem
  · split_ifs at hmem
    · exact nomatch List.mem_singleton.1 hmem
    · cases hmem
  · split_ifs at hmem with hreached
    · cases List.mem_singleton.1 hmem
      exact ⟨rfl, rfl, hreached⟩
    · cases hmem

namespace Summary

variable {document : Datum} {config : Config} {rows : List Comparison}

/-- For thresholds that were accepted and a comparison of times that were read, an objection to the
mean shows a mean that is not below its limit, the line of the ratios shows a least ratio that is
not above the greatest one, and the mean change is called slower exactly when the mean is above one,
with the rounded size of the change and no sign. -/
theorem printed_agrees (hconfig : Config.ofDatum document = .ok config) (hne : rows ≠ [])
    (hrows : ∀ c ∈ rows, c.IsMeasured) :
    ∃ s, ofComparisons rows = .ok s ∧
      (∀ count m l, .aggregate m l ∈ (Verdict.ofSummary config.thresholds s count).failures →
        ∃ mean limit, (Objection.aggregate m l).describe = "Mean relative duration " ++ mean ++
            "x reached the " ++ limit ++ "x limit (" ++ meanChange m ++ " on average)" ∧
          IsFixed 3 m mean ∧ IsFixed 3 l limit ∧ ShowsLE limit mean) ∧
      (∃ mean least greatest, s.ratioLine = "Average: " ++ mean ++ "x, Min: " ++ least ++
            "x, Max: " ++ greatest ++ "x" ∧
          IsFixed 3 s.minRatio least ∧ IsFixed 3 s.maxRatio greatest ∧ ShowsLE least greatest) ∧
      ∃ number, meanChange s.meanRatio =
            number ++ (if 1 < s.meanRatio then "% slower" else "% faster") ∧
          IsFixed 1 (percentOfRatio s.meanRatio).abs number ∧ '-' ∉ number.toList := by
  have hratios : ∀ c ∈ rows, 0 ≤ c.ratio := fun c hc => (hrows c hc).isSound.ratio_nonneg
  have hmean := meanRatio_nonneg hne hratios
  refine ⟨ofRows rows, ofComparisons_of_ne_nil hne, ?_, ?_, meanChange_words hmean⟩
  · intro count m l hmem
    obtain ⟨rfl, rfl, hle⟩ := Verdict.aggregate_mem_failures hmem
    have hlimit := isFixed_fixed (by decide : 0 < 3)
      (Float.le_of_lt (Config.ofDatum_isValid hconfig).meanRatio)
    have hfixed := isFixed_fixed (by decide : 0 < 3) hmean
    exact ⟨_, _, rfl, hfixed, hlimit, hlimit.showsLE hfixed hle⟩
  · obtain ⟨⟨first, hfirst, hmin⟩, ⟨last, hlast, hmax⟩, hbetween⟩ := isBounded_ofRows hne
      fun c hc => (Float.nonneg_iff.1 (hratios c hc)).1
    have hleast := isFixed_fixed (by decide : 0 < 3) (hmin ▸ hratios first hfirst)
    have hgreatest := isFixed_fixed (by decide : 0 < 3) (hmax ▸ hratios last hlast)
    obtain ⟨hlow, hhigh⟩ := hbetween last hlast
    exact ⟨_, _, _, rfl, hleast, hgreatest, hleast.showsLE hgreatest (Float.le_trans hlow hhigh)⟩

/-- One benchmark whose ratio is the limit of the mean. -/
def atLimit : List Comparison := [.ofTimes 0 1 1.06]

/-- The objection to it shows two numbers in order, and the change is one of six percent. -/
theorem printed_agrees_atLimit :
    ∃ s, ofComparisons atLimit = .ok s ∧
      (∃ mean limit, (Objection.aggregate s.meanRatio 1.06).describe =
          "Mean relative duration " ++ mean ++ "x reached the " ++ limit ++ "x limit (" ++
            meanChange s.meanRatio ++ " on average)" ∧ ShowsLE limit mean) ∧
      ∃ number, meanChange s.meanRatio = number ++ "% slower" ∧
        IsFixed 1 (percentOfRatio s.meanRatio).abs number := by
  have hdefault : Config.ofDatum .null = .ok {} := rfl
  have hmeasured : ∀ c ∈ atLimit, c.IsMeasured := fun c hc =>
    ⟨false, [1], [1.06], _, by decide +kernel, by decide +kernel, rfl, hc⟩
  obtain ⟨s, hs, hfailures, -, number, hchange, hnumber, -⟩ :=
    printed_agrees hdefault (by simp [atLimit]) hmeasured
  obtain rfl : ofRows atLimit = s := Except.ok.inj hs
  obtain ⟨mean, limit, hdescribe, -, -, hle⟩ := hfailures 0 (ofRows atLimit).meanRatio 1.06
    (Verdict.aggregate_mem_failures_iff.2 (by decide +kernel))
  rw [if_pos (by decide +kernel)] at hchange
  exact ⟨_, hs, ⟨mean, limit, hdescribe, hle⟩, number, hchange, hnumber⟩

end Summary

end BenchGate
