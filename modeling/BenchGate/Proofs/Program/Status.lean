import BenchGate.Program
import BenchGate.Proofs.Comparison.Verdict
import BenchGate.Proofs.Config.Thresholds
import BenchGate.Proofs.Run.Stages

/-!
# When a comparison exits with 0

`Program.Passes` lists everything that a comparison has to get through: the configuration, the
files, the lengths, the baselines, both limits, the delivery of the report and the writing of the
outcome. `Program.run_status_iff` shows that the exit status is 0 exactly then, and 1 otherwise.
-/

namespace BenchGate

open CommandLine

namespace Program

section
variable {env : Environment} {tree : Tree} {reply : Reply} {a : Arguments}

/-- The configuration of a comparison has thresholds that obey the rules. -/
theorem loadConfig_isValid {config : Config} (h : loadConfig a env tree = .ok config) :
    config.thresholds.IsValid := by
  unfold loadConfig at h
  split at h <;> exact Config.read_isValid h

/-- The status of a job is 0 if it has an outcome that passes, and 1 otherwise. -/
theorem conclude_status (explain : Explanations) (result : Except Failure Outcome) :
    ((conclude explain result).1 = 0 ↔
      ∃ outcome, result = .ok outcome ∧ outcome.verdict.passed = true) ∧
      ((conclude explain result).1 = 0 ∨ (conclude explain result).1 = 1) := by
  cases result with
  | error f => exact ⟨⟨(nomatch ·), fun ⟨_, h, _⟩ => nomatch h⟩, .inr rfl⟩
  | ok outcome =>
    simp only [conclude, Except.ok.injEq, exists_eq_left']
    split_ifs with hpassed
    · exact ⟨⟨fun _ => hpassed, fun _ => rfl⟩, .inl rfl⟩
    · exact ⟨⟨(nomatch ·), fun h => absurd h hpassed⟩, .inr rfl⟩

/-- What a comparison with a configuration and the samples of its files has to get through. -/
structure Passes (env : Environment) (tree : Tree) (reply : Reply) (a : Arguments)
    (config : Config) (s : Samples) : Prop where
  loaded : loadConfig a env tree = .ok config
  baseline : Timings.read tree a.baseline.1 = .ok s.baseline.1 ∧
    Timings.read tree a.baseline.2 = .ok s.baseline.2
  latest : Timings.read tree a.latest.1 = .ok s.latest.1 ∧
    Timings.read tree a.latest.2 = .ok s.latest.2
  lengths : a.allowLengthMismatch = true ∨ s.AgreeInLength
  compared : s.pairs ≠ []
  positive : ∀ pair ∈ s.pairs, 0 < pair.1
  noRegression : ∀ pair ∈ s.pairs, ¬config.thresholds.Regresses pair
  mean : meanRatioOf s.pairs < config.thresholds.meanRatio
  /-- There is no report, or it goes nowhere, or it arrives. -/
  delivered : ∀ report, (Measurement.ofPairs config.thresholds s.pairs).report = some report →
    a.pullRequest = "" ∨ ((job a config env).delivery.send tree reply report).2 = .ok ()
  /-- There is no path for the outcome, or it leads to a place that can be written; there the run
  leaves the document of the outcome, and nothing else is changed. -/
  saved : ∀ path, a.output = some path → path ≠ "" →
    let m := Measurement.ofPairs config.thresholds s.pairs
    let outcome : Outcome :=
      { m with commented := (job a config env).delivery.posts m.report }
    ∃ place, tree.target path = .ok place ∧
      ((job a config env).run tree reply).tree =
        tree.set place (.file (Utf8.encode (outcome.document .declared)))

/-- With a configuration, a job passes when the rest holds for the samples of its files. -/
theorem passes_iff {config : Config} (h : loadConfig a env tree = .ok config) :
    (∃ outcome, ((job a config env).run tree reply).result = .ok outcome ∧
      outcome.verdict.passed = true) ↔ ∃ s, Passes env tree reply a config s := by
  have ht := loadConfig_isValid h
  simp only [Job.passes_iff, Plan.measure_eq_ok_iff, Samples.measure_eq_ok_iff]
  constructor
  · rintro ⟨_, ⟨s, hholds, hlengths, hpositive, hcompared, rfl⟩, hpassed, hdelivered, hsaved⟩
    have htimes := hholds.isRead.isDuration_of_mem_pairs
    have hpositive' : ∀ pair ∈ s.pairs, 0 < pair.1 := fun pair hpair =>
      Timings.IsDuration.not_le_zero_iff (htimes pair hpair).1 |>.1 (hpositive pair hpair)
    obtain ⟨hnoRegression, hmean⟩ :=
      (Measurement.passed_iff ht htimes hpositive' hcompared).1 hpassed
    exact ⟨s, h, hholds.baseline, hholds.latest, hlengths, hcompared, hpositive', hnoRegression,
      hmean, hdelivered, hsaved⟩
  · rintro ⟨s, hpasses⟩
    have hholds : (job a config env).plan.Holds tree s := ⟨hpasses.baseline, hpasses.latest⟩
    have htimes := hholds.isRead.isDuration_of_mem_pairs
    have hpassed := (Measurement.passed_iff ht htimes hpasses.positive hpasses.compared).2
      ⟨hpasses.noRegression, hpasses.mean⟩
    refine ⟨_, ⟨s, hholds, hpasses.lengths, fun pair hpair => ?_, hpasses.compared, rfl⟩, hpassed,
      hpasses.delivered, hpasses.saved⟩
    exact (Timings.IsDuration.not_le_zero_iff (htimes pair hpair).1).2
      (hpasses.positive pair hpair)

/-- The exit status of a call that asks for a comparison: 0 if everything is got through, and 1 in
every other case. -/
theorem run_status_iff {args : List String} (h : Invocation.ofArgs args = .compare a)
    (env : Environment) (tree : Tree) (replies : List Reply) :
    ((run env tree (Reply.first replies) args).status = 0 ↔
      ∃ config s, Passes env tree (Reply.first replies) a config s) ∧
    ((run env tree (Reply.first replies) args).status = 0 ∨
      (run env tree (Reply.first replies) args).status = 1) := by
  simp only [run, h, compare]
  cases hconfig : loadConfig a env tree with
  | error e =>
    refine ⟨⟨(nomatch ·), fun ⟨config, s, hpasses⟩ => ?_⟩, .inr rfl⟩
    cases hconfig.symm.trans hpasses.loaded
  | ok config =>
    obtain ⟨hzero, hstatus⟩ :=
      conclude_status env.explain ((job a config env).run tree (Reply.first replies)).result
    refine ⟨hzero.trans ((passes_iff hconfig).trans ⟨fun ⟨s, hpasses⟩ => ⟨config, s, hpasses⟩,
      fun ⟨config', s, hpasses⟩ => ?_⟩), hstatus⟩
    cases hconfig.symm.trans hpasses.loaded
    exact ⟨s, hpasses⟩

end

/-- A call that compares the samples of `Job.sampleTree` the other way round, so that the latest run
is the faster one. -/
def sampleArgs : List String :=
  ["new.txt", "new.txt", "old.txt", "old.txt", "t", "7", "--event-path", "event.json",
    "--repository", "o/r", "--output", "report.json"]

/-- The arguments in this call. -/
def sampleArguments : Arguments where
  baseline := ("new.txt", "new.txt")
  latest := ("old.txt", "old.txt")
  token := "t"
  pullRequest := "7"
  eventPath := some "event.json"
  repository := some "o/r"
  output := some "report.json"

/-- The sample call gets through everything: it exits with 0 after its speedups were posted and its
outcome was saved. -/
theorem run_status_passes : Invocation.ofArgs sampleArgs = .compare sampleArguments ∧
    ∃ config s,
      Passes { directory := "/" } Job.sampleTree (Reply.first []) sampleArguments config s :=
  ⟨rfl, (run_status_iff rfl _ _ _).1.1 (by decide +kernel : (run { directory := "/" }
    Job.sampleTree (Reply.first []) sampleArgs).status = 0)⟩

end Program

end BenchGate
