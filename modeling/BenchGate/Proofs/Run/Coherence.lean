import BenchGate.Proofs.Comparison.Printed
import BenchGate.Proofs.Decimal.Count
import BenchGate.Proofs.Report.Paragraphs
import BenchGate.Proofs.Run.Stages

/-!
# The parts of an outcome agree

An outcome says the same thing several times: in the rows, in the findings, in the report and in the
verdict. `Measurement.IsCoherent` lists how these parts hang together for some thresholds, and
`Outcome.IsCoherent` adds the comment. `Measurement.isCoherent_ofPairs` shows it part by part for
the times of two runs, and `Job.outcome_isCoherent` for every outcome of every job. The mean change
is one of times that were read, so that it is a number and goes in one direction
(`Report.saysMean_meanLine`).
-/

namespace BenchGate

/-- A classification says what the thresholds say of a row. -/
structure Classification.IsAbout (t : Thresholds) (x : Classification) (c : Comparison) :
    Prop where
  index : x.index = c.index
  kind : x.kind = t.kind c
  percent : x.percent = percentOfRatio c.ratio
  message : x.message = (t.kind c).line? c.index (percentOfRatio c.ratio)

/-- How many of some classifications are regressions. -/
def Classification.regressions (classifications : List Classification) : Nat :=
  classifications.countP (·.kind = .regression)

/-- A line says how many benchmarks were compared, by how much they changed on average and in which
direction: the change is in percent, rounded to one place, and has no sign. -/
def Report.SaysMean (count : ℕ) (mean : Float) (line : String) : Prop :=
  ∃ size, line = toString (min count (2 ^ 53 - 1)) ++ " benchmarks, " ++ size ++
      (if 1 < mean then "% slower" else "% faster") ++ " on average." ∧
    IsFixed 1 (100 * (mean - 1)).abs size ∧ '-' ∉ size.toList

/-- The parts of a measurement say the same, for some thresholds. -/
structure Measurement.IsCoherent (t : Thresholds) (m : Measurement) : Prop where
  /-- There is something to count, and the summary counts the rows. -/
  count_pos : 0 < m.summary.count
  count : m.summary.count = ofCount m.comparisons.length
  /-- The rows are numbered from zero. -/
  index : ∀ (i : ℕ) (c : Comparison), m.comparisons[i]? = some c → c.index = .ofNat i
  /-- There is one classification for each row, at the place of the row. -/
  classifications : List.Forall₂ (Classification.IsAbout t) m.findings.classifications m.comparisons
  /-- Noise has no message, and everything else has one. -/
  message_eq_none_iff : ∀ x ∈ m.findings.classifications,
    x.message = none ↔ x.kind = .withinNoise
  /-- The messages are those of the classifications, in their order. -/
  messages : m.findings.messages.map some =
    (m.findings.classifications.filter (·.kind ≠ .withinNoise)).map (·.message)
  /-- Without a message there is no report. -/
  report_eq_none_iff : m.report = none ↔ m.findings.messages = []
  /-- A report that is cut at its blank lines gives back the messages, the mean and the footer. -/
  paragraphs : ∀ text, m.report = some text → ∃ line,
    Report.SaysMean m.comparisons.length m.summary.meanRatio line ∧
      Report.paragraphs text = m.findings.messages ++ [line,
        "Deviations greater than " ++ numeral (roundHalfUp ((t.slowdownRatio - 1) * 100)) ++
          "% from the baseline are reported. See run output for more details."]
  /-- The findings and the verdict count the same regressions. -/
  regressionCount :
    m.findings.regressionCount = ofCount (Classification.regressions m.findings.classifications) ∧
      m.verdict.regressionCount = m.findings.regressionCount
  meanRatio : m.verdict.meanRatio = m.summary.meanRatio
  /-- The reasons to fail: regressions, if there are any, and then the mean, if it is too large. -/
  failures : m.verdict.failures =
    (if 0 < Classification.regressions m.findings.classifications then
      [.regression m.findings.regressionCount] else []) ++
    if t.meanRatio ≤ m.summary.meanRatio then
      [.aggregate m.summary.meanRatio t.meanRatio] else []
  /-- A run passes unless there is a reason to fail. -/
  passed_iff : m.verdict.passed = true ↔ m.verdict.failures = []

/-- The parts of an outcome say the same, and only a report is posted. -/
structure Outcome.IsCoherent (t : Thresholds) (o : Outcome) : Prop
    extends Measurement.IsCoherent t o.toMeasurement where
  commented : o.commented = true → o.report ≠ none

section
variable {t : Thresholds}

/-! ## Rows and findings -/

/-- The rows of pairs are numbered from zero. -/
theorem Comparison.index_ofPairs {pairs : List (Float × Float)} {i : ℕ} {c : Comparison}
    (h : (ofPairs pairs)[i]? = some c) : c.index = .ofNat i := by
  rw [ofPairs, List.getElem?_map, List.getElem?_zipIdx, Nat.zero_add] at h
  obtain ⟨⟨pair, j⟩, hpair, rfl⟩ := Option.map_eq_some_iff.1 h
  obtain ⟨pair', -, heq⟩ := Option.map_eq_some_iff.1 hpair
  cases heq
  rfl

/-- Only noise has no line. -/
theorem Kind.line?_eq_none_iff {kind : Kind} {index percent : Float} :
    kind.line? index percent = none ↔ kind = .withinNoise := by
  cases kind <;> simp [Kind.line?]

namespace Findings

variable {rows : List Comparison}

/-- Every row is classified at its place. -/
theorem forall₂_ofComparisons :
    List.Forall₂ (Classification.IsAbout t) (ofComparisons t rows).classifications rows := by
  rw [ofComparisons, List.forall₂_map_left_iff, List.forall₂_same]
  exact fun c _ => ⟨rfl, rfl, rfl, rfl⟩

theorem message_eq_none_iff :
    ∀ x ∈ (ofComparisons t rows).classifications, x.message = none ↔ x.kind = .withinNoise := by
  intro x hx
  obtain ⟨c, -, rfl⟩ := List.mem_map.1 hx
  exact Kind.line?_eq_none_iff

/-- Where noise has no message and everything else has one, the messages that are there are those
of what is not noise. -/
theorem filterMap_message {classifications : List Classification}
    (h : ∀ x ∈ classifications, x.message = none ↔ x.kind = .withinNoise) :
    (classifications.filterMap (·.message)).map some =
      (classifications.filter (·.kind ≠ .withinNoise)).map (·.message) := by
  induction classifications with
  | nil => rfl
  | cons x classifications ih =>
    obtain ⟨hx, hrest⟩ := List.forall_mem_cons.1 h
    cases hmessage : x.message with
    | none =>
      rw [List.filterMap_cons_none hmessage, List.filter_cons_of_neg (by simp [hx.1 hmessage]),
        ih hrest]
    | some message =>
      have hkind : x.kind ≠ .withinNoise := fun hkind => by
        cases hmessage.symm.trans (hx.2 hkind)
      rw [List.filterMap_cons_some hmessage, List.filter_cons_of_pos (by simpa using hkind),
        List.map_cons, List.map_cons, hmessage, ih hrest]

/-- What is reported of a row is one line. -/
theorem isLine_messages : ∀ message ∈ (ofComparisons t rows).messages, Text.IsLine message := by
  intro message hmessage
  obtain ⟨x, hx, hline⟩ := List.mem_filterMap.1 hmessage
  obtain ⟨c, -, rfl⟩ := List.mem_map.1 hx
  exact Kind.isLine_of_line? hline

end Findings

/-- There is a report exactly when there are messages. -/
theorem Report.build?_eq_none_iff {messages : List String} {s : Summary} :
    build? t messages s = none ↔ messages = [] := by
  unfold build?
  split_ifs with h
  · exact ⟨fun _ => List.isEmpty_iff.1 h, fun _ => rfl⟩
  · exact ⟨(nomatch ·), fun hnil => absurd (List.isEmpty_iff.2 hnil) h⟩

/-- The line of the mean of a comparison of times that were read. -/
theorem Report.saysMean_meanLine {rows : List Comparison} (hne : rows ≠ [])
    (hrows : ∀ c ∈ rows, c.IsSound) :
    SaysMean rows.length (Summary.ofRows rows).meanRatio (meanLine (.ofRows rows)) := by
  have hmean := Summary.meanRatio_nonneg hne fun c hc => (hrows c hc).ratio_nonneg
  obtain ⟨size, hchange, hsize, hminus⟩ := meanChange_words hmean
  have hcount : numeral (Summary.ofRows rows).count = toString (min rows.length (2 ^ 53 - 1)) :=
    numeral_ofCount rows.length
  refine ⟨size, ?_, hsize, hminus⟩
  rw [meanLine, hcount, hchange, ← String.append_assoc]

/-! ## Measurements and outcomes -/

section
variable {pairs : List (Float × Float)}
  (htimes : ∀ pair ∈ pairs, Timings.IsDuration pair.1 ∧ Timings.IsDuration pair.2)
  (hpos : ∀ pair ∈ pairs, ¬pair.1 ≤ 0) (hne : pairs ≠ [])
include htimes hpos hne

/-- What some pairs of times give is coherent. -/
theorem Measurement.isCoherent_ofPairs : (ofPairs t pairs).IsCoherent t where
  count_pos :=
    Float.ofCount_pos.2 (List.length_pos_iff.2 (mt Comparison.ofPairs_eq_nil_iff.1 hne))
  count := rfl
  index _ _ := Comparison.index_ofPairs
  classifications := Findings.forall₂_ofComparisons
  message_eq_none_iff := Findings.message_eq_none_iff
  messages := Findings.filterMap_message Findings.message_eq_none_iff
  report_eq_none_iff := Report.build?_eq_none_iff
  paragraphs _ htext := by
    have hmean := Report.saysMean_meanLine (mt Comparison.ofPairs_eq_nil_iff.1 hne)
      fun _ => Comparison.isSound_of_mem_ofPairs htimes hpos
    exact ⟨_, hmean, Report.paragraphs_of_build? Findings.isLine_messages htext⟩
  regressionCount := ⟨rfl, rfl⟩
  meanRatio := rfl
  failures := by
    simp only [ofPairs, ofSummary, Verdict.ofSummary, Findings.ofComparisons, gt_iff_lt,
      Float.ofCount_pos, ge_iff_le]
    rfl
  passed_iff := List.isEmpty_iff

end

/-- A measurement of samples that were read is coherent. -/
theorem Samples.isCoherent_measure {s : Samples} {allowLengthMismatch : Bool} {m : Measurement}
    (hread : s.IsRead) (h : s.measure t allowLengthMismatch = .ok m) : m.IsCoherent t := by
  obtain ⟨-, hpos, hne, rfl⟩ := measure_eq_ok_iff.1 h
  exact Measurement.isCoherent_ofPairs hread.isDuration_of_mem_pairs hpos hne

end

/-- The measurement of a plan is coherent. -/
theorem Plan.isCoherent_of_measure {p : Plan} {tree : Tree} {m : Measurement}
    (h : (p.measure tree).2 = .ok m) : m.IsCoherent p.thresholds := by
  obtain ⟨s, hholds, hs⟩ := measure_eq_ok_iff.1 h
  exact Samples.isCoherent_measure hholds.isRead hs

namespace Job

/-- Whatever a job compares and whatever it does with the result, the parts of its outcome agree
with each other. -/
theorem outcome_isCoherent {job : Job} {tree : Tree} {replies : List Reply} {outcome : Outcome}
    (h : (job.run tree (Reply.first replies)).result = .ok outcome) :
    outcome.IsCoherent job.plan.thresholds := by
  obtain ⟨m, hm, -, rfl, -⟩ := result_eq_ok_iff.1 h
  refine ⟨Plan.isCoherent_of_measure hm, fun hcommented hnone => ?_⟩
  have hposts : job.delivery.posts m.report = true := hcommented
  rw [show m.report = none from hnone] at hposts
  cases hposts

/-- What the report of the sample job says. -/
def sampleParagraphs : List String :=
  ["🚫 Benchmark #0 is too slow: +100.0%",
    "⚠️Potential non-blocking slowdown in benchmark #1: +50.0%",
    "2 benchmarks, 75.0% slower on average.",
    "Deviations greater than 10% from the baseline are reported. See run output for more details."]

/-- The sample job has an outcome with two messages in its report, and its parts agree. -/
theorem outcome_isCoherent_sample :
    ∃ outcome text, (sampleJob.run sampleTree (Reply.first [])).result = .ok outcome ∧
      outcome.report = some text ∧ Report.paragraphs text = sampleParagraphs ∧
      outcome.IsCoherent sampleJob.plan.thresholds := by
  have hparagraphs : ((sampleJob.run sampleTree (Reply.first [])).result.toOption.bind
      (·.report)).map Report.paragraphs = some sampleParagraphs := by decide +kernel
  cases hresult : (sampleJob.run sampleTree (Reply.first [])).result with
  | error e =>
    rw [hresult] at hparagraphs
    cases hparagraphs
  | ok outcome =>
    rw [hresult] at hparagraphs
    obtain ⟨text, hreport, htext⟩ := Option.map_eq_some_iff.1 hparagraphs
    exact ⟨outcome, text, rfl, hreport, htext, outcome_isCoherent hresult⟩

end Job

end BenchGate
