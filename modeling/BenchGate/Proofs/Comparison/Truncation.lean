import BenchGate.Proofs.Run.Data

/-!
# Samples of different lengths

Where samples may differ in length, all that counts is how far the shortest of them goes. Cutting
all four there (`Samples.cut`) changes none of the pairs that are compared (`Samples.pairs_cut`),
and a measurement is a function of these pairs once no length is complained about
(`Samples.measure_allowing`, `Samples.measure_of_length`). `Samples.measure_allowing_eq_cut` draws
the conclusions, and `Plan.measure_of_holds` carries them over to the files of a plan.
-/

namespace BenchGate

namespace Measurement

/-- What some pairs of times give, or what is wrong with them. -/
def ofPairs? (t : Thresholds) (pairs : List (Float × Float)) :
    Except ComparisonError Measurement :=
  match pairs.zipIdx.find? fun pair => pair.1.1 ≤ 0 with
  | some ((time, _), index) => .error (.baselineNotPositive index time)
  | none => if pairs.isEmpty then .error .noBenchmarks else .ok (ofPairs t pairs)

variable {t : Thresholds} {baseline latest : Timings}

/-- Runs that may differ in length are compared by their pairs. -/
theorem ofRuns_allowing : ofRuns t true baseline latest = ofPairs? t (baseline.zip latest) := by
  rw [ofRuns_eq, if_neg (by simp)]
  rfl

/-- So are runs of one length. -/
theorem ofRuns_of_length (h : baseline.length = latest.length) :
    ofRuns t false baseline latest = ofPairs? t (baseline.zip latest) := by
  rw [ofRuns_eq, if_neg (by simp [h])]
  rfl

end Measurement

namespace Samples

variable {t : Thresholds} {s : Samples}

/-- The length of the shortest of four samples. -/
def shortest (s : Samples) : Nat :=
  min (min s.baseline.1.length s.baseline.2.length) (min s.latest.1.length s.latest.2.length)

/-- Four samples without what follows their first `n` times. -/
def take (n : Nat) (s : Samples) : Samples where
  baseline := (s.baseline.1.take n, s.baseline.2.take n)
  latest := (s.latest.1.take n, s.latest.2.take n)

/-- Four samples, each cut to the length of the shortest. -/
def cut (s : Samples) : Samples := s.take s.shortest

/-- All four samples have one length. -/
structure HasLength (s : Samples) (n : Nat) : Prop where
  baseline : s.baseline.1.length = n ∧ s.baseline.2.length = n
  latest : s.latest.1.length = n ∧ s.latest.2.length = n

theorem shortest_of_hasLength {n : Nat} (h : s.HasLength n) : s.shortest = n := by
  obtain ⟨⟨hb₁, hb₂⟩, hl₁, hl₂⟩ := h
  rw [shortest, hb₁, hb₂, hl₁, hl₂, min_self, min_self]

theorem hasLength_cut (s : Samples) : s.cut.HasLength s.shortest := by
  have hb₁ : s.shortest ≤ s.baseline.1.length := (min_le_left _ _).trans (min_le_left _ _)
  have hb₂ : s.shortest ≤ s.baseline.2.length := (min_le_left _ _).trans (min_le_right _ _)
  have hl₁ : s.shortest ≤ s.latest.1.length := (min_le_right _ _).trans (min_le_left _ _)
  have hl₂ : s.shortest ≤ s.latest.2.length := (min_le_right _ _).trans (min_le_right _ _)
  exact ⟨⟨List.length_take_of_le hb₁, List.length_take_of_le hb₂⟩,
    List.length_take_of_le hl₁, List.length_take_of_le hl₂⟩

/-- Samples of one length are cut nowhere. -/
theorem cut_of_hasLength {n : Nat} (h : s.HasLength n) : s.cut = s := by
  rw [cut, shortest_of_hasLength h]
  obtain ⟨⟨b₁, b₂⟩, l₁, l₂⟩ := s
  obtain ⟨⟨hb₁, hb₂⟩, hl₁, hl₂⟩ := h
  rw [take, List.take_of_length_le hb₁.le, List.take_of_length_le hb₂.le,
    List.take_of_length_le hl₁.le, List.take_of_length_le hl₂.le]

/-- As many pairs are compared as the shortest sample has times. -/
theorem length_pairs (s : Samples) : s.pairs.length = s.shortest := by
  simp only [pairs, fastestBaseline, fastestLatest, List.length_zip, List.length_zipWith, shortest]

/-- The pairs of the first times are the first pairs. -/
theorem pairs_take (n : Nat) (s : Samples) : (s.take n).pairs = s.pairs.take n := by
  simp only [pairs, fastestBaseline, fastestLatest, take, List.zip, List.take_zipWith]

/-- The cut leaves all pairs that are compared. -/
theorem pairs_cut (s : Samples) : s.cut.pairs = s.pairs := by
  rw [cut, pairs_take, List.take_of_length_le (length_pairs s).le]

/-- Samples that may differ in length are measured by their pairs. -/
theorem measure_allowing : s.measure t true = Measurement.ofPairs? t s.pairs := by
  have hfastest : ∀ first second : Timings,
      Timings.fastest true first second = .ok (List.zipWith least first second) := fun _ _ =>
    fastest_eq_ok_iff.2 ⟨.inr rfl, rfl⟩
  rw [measure, hfastest, hfastest]
  exact Measurement.ofRuns_allowing

/-- So are samples of one length. -/
theorem measure_of_length {n : Nat} (h : s.HasLength n) :
    s.measure t false = Measurement.ofPairs? t s.pairs := by
  obtain ⟨⟨hb₁, hb₂⟩, hl₁, hl₂⟩ := h
  have hbaseline : Timings.fastest false s.baseline.1 s.baseline.2 = .ok s.fastestBaseline :=
    fastest_eq_ok_iff.2 ⟨.inl (hb₁.trans hb₂.symm), rfl⟩
  have hlatest : Timings.fastest false s.latest.1 s.latest.2 = .ok s.fastestLatest :=
    fastest_eq_ok_iff.2 ⟨.inl (hl₁.trans hl₂.symm), rfl⟩
  rw [measure, hbaseline, hlatest]
  refine Measurement.ofRuns_of_length ?_
  simp only [fastestBaseline, fastestLatest, List.length_zipWith, hb₁, hb₂, hl₁, hl₂]

end Samples

/-- The data phase of a plan measures the samples in its files. -/
theorem Plan.measure_of_holds {p : Plan} {tree : Tree} {s : Samples} (h : p.Holds tree s) :
    (p.measure tree).2 = (s.measure p.thresholds p.allowLengthMismatch).mapError .comparison := by
  obtain ⟨⟨hb₁, hb₂⟩, hl₁, hl₂⟩ := h
  have hbaseline : (p.readRun tree p.baseline).2 =
      (Timings.fastest p.allowLengthMismatch s.baseline.1 s.baseline.2).mapError .comparison := by
    simp only [readRun, hb₁, hb₂]
  have hlatest : (p.readRun tree p.latest).2 =
      (Timings.fastest p.allowLengthMismatch s.latest.1 s.latest.2).mapError .comparison := by
    simp only [readRun, hl₁, hl₂]
  rw [measure_snd, hbaseline, hlatest, Samples.measure]
  cases Timings.fastest p.allowLengthMismatch s.baseline.1 s.baseline.2 with
  | error e => rfl
  | ok baseline =>
    cases Timings.fastest p.allowLengthMismatch s.latest.1 s.latest.2 with
    | error e => rfl
    | ok latest => rfl

namespace Samples

/-- To allow samples to differ in length is to cut all of them to the shortest: the measurement is
the same, and so is the failure. Samples of one length are measured alike with and without the
permission. What follows the length of the shortest sample has no influence, whatever it is, and
neither has it when the samples come from the files of a plan. -/
theorem measure_allowing_eq_cut (t : Thresholds) (s : Samples) :
    s.measure t true = s.cut.measure t false ∧
    (∀ n, s.HasLength n → s.measure t true = s.measure t false) ∧
    (∀ s' : Samples, s'.cut = s.cut → s'.measure t true = s.measure t true) ∧
    ∀ (p : Plan) (tree : Tree), p.Holds tree s → p.allowLengthMismatch = true →
      (p.measure tree).2 = (s.cut.measure p.thresholds false).mapError .comparison := by
  have hcut : ∀ (t : Thresholds) (s : Samples), s.measure t true = s.cut.measure t false := by
    intro t s
    rw [measure_allowing, measure_of_length (hasLength_cut s), pairs_cut]
  refine ⟨hcut t s, ?_, ?_, ?_⟩
  · intro n hlength
    rw [hcut, cut_of_hasLength hlength]
  · intro s' heq
    rw [hcut, hcut, heq]
  · intro p tree hholds hallow
    rw [Plan.measure_of_holds hholds, hallow, hcut]

/-- The samples in the files of `Job.zeroTree`: the baseline has one time more than the latest run,
and it is zero. -/
def zeroSamples : Samples where
  baseline := ([3, 0, 0], [3, 0, 0])
  latest := ([1, 2], [1, 2])

/-- The same up to the length of the shortest sample. -/
def otherZeroSamples : Samples where
  baseline := ([3, 0], [3, 0, 8, -1])
  latest := ([1, 2, 5], [1, 2])

/-- The plan of `Job.zeroJob` is measured as if its baseline ended where its latest run does, and
another end of the baseline would change nothing. -/
theorem measure_allowing_eq_cut_zero :
    (Job.zeroJob.plan.measure Job.zeroTree).2 =
      (zeroSamples.cut.measure Job.zeroJob.plan.thresholds false).mapError .comparison ∧
    otherZeroSamples.measure {} true = zeroSamples.measure {} true ∧
    zeroSamples.cut.measure {} true = zeroSamples.cut.measure {} false := by
  have hholds : Job.zeroJob.plan.Holds Job.zeroTree zeroSamples :=
    ⟨⟨by decide +kernel, by decide +kernel⟩, ⟨by decide +kernel, by decide +kernel⟩⟩
  have hcut : otherZeroSamples.cut = zeroSamples.cut := by
    simp [cut, take, shortest, otherZeroSamples, zeroSamples]
  obtain ⟨-, -, hend, hplan⟩ := measure_allowing_eq_cut {} zeroSamples
  obtain ⟨-, hlength, -⟩ := measure_allowing_eq_cut {} zeroSamples.cut
  exact ⟨hplan _ _ hholds rfl, hend _ hcut, hlength 2 (hasLength_cut zeroSamples)⟩

end Samples

end BenchGate
