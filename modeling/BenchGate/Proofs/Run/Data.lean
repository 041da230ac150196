import BenchGate.Proofs.Comparison.Range
import BenchGate.Proofs.Console.Line
import BenchGate.Run.Job

/-!
# The checks of the data phase

The data phase makes nine checks in a fixed order (`Check.inOrder`). `Plan.fault` says of each check
alone what it would complain about, and `Plan.firstFault` is the complaint of the first check that
has one. `Plan.measure_eq` shows that the data phase ends with exactly this complaint, after the
files of the checks up to it, and that there is a measurement when no check complains.
`Job.run_firstFault` says what this means for a whole job.
-/

namespace BenchGate

/-- One of the two runs that are compared. -/
inductive Side where
  | baseline
  | latest
deriving DecidableEq

/-- What the data phase checks: that a sample can be read, that samples and runs are equally long,
that the baselines compared are above zero, and that there is something to compare. -/
inductive Check where
  | firstSample (side : Side)
  | secondSample (side : Side)
  | sampleLengths (side : Side)
  | runLengths
  | baselinesPositive
  | anyBenchmark
deriving DecidableEq

namespace Check

/-- The checks of one run, in their order. -/
def ofSide (side : Side) : List Check := [firstSample side, secondSample side, sampleLengths side]

/-- The checks of two runs together, in their order. -/
def ofBoth : List Check := [runLengths, baselinesPositive, anyBenchmark]

/-- All checks in their order. -/
def inOrder : List Check := ofSide .baseline ++ ofSide .latest ++ ofBoth

/-- Of some checks, those up to one, this one included. -/
def upTo (checks : List Check) (check : Check) : List Check :=
  checks.take (checks.idxOf check + 1)

section
variable {check : Check}

theorem upTo_of_mem_baseline (h : check ∈ ofSide .baseline) :
    upTo inOrder check = upTo (ofSide .baseline) check := by
  revert check
  decide

theorem upTo_of_mem_latest (h : check ∈ ofSide .latest) :
    upTo inOrder check = ofSide .baseline ++ upTo (ofSide .latest) check := by
  revert check
  decide

theorem upTo_of_mem_both (h : check ∈ ofBoth) :
    upTo inOrder check = ofSide .baseline ++ ofSide .latest ++ upTo ofBoth check := by
  revert check
  decide

end

end Check

namespace Plan

section
variable (p : Plan) (tree : Tree)

/-- The files of a run. -/
def files : Side → String × String
  | .baseline => p.baseline
  | .latest => p.latest

/-- The times in a file; a file that cannot be read has none. -/
def times (path : String) : Timings := (Timings.read tree path).toOption.getD []

/-- The faster time of each benchmark of a run. -/
def reduced (side : Side) : Timings :=
  List.zipWith least (times tree (p.files side).1) (times tree (p.files side).2)

/-- The baselines that are compared: as many as both runs have. -/
def comparedBaselines : Timings :=
  (p.reduced tree .baseline).take (p.reduced tree .latest).length

/-- What reading a file complains about. -/
def readingFault (path : String) : Option DataError :=
  match Timings.read tree path with
  | .ok _ => none
  | .error cause => some (.timing cause)

/-- What comparing two lengths complains about. -/
def lengthFault (error : Nat → Nat → ComparisonError) (first second : Nat) : Option DataError :=
  if first ≠ second ∧ p.allowLengthMismatch = false then some (.comparison (error first second))
  else none

/-- What a check complains about. Of the baselines it is the first that is not above zero. -/
def fault : Check → Option DataError
  | .firstSample side => readingFault tree (p.files side).1
  | .secondSample side => readingFault tree (p.files side).2
  | .sampleLengths side =>
    p.lengthFault .sampleLengths (times tree (p.files side).1).length
      (times tree (p.files side).2).length
  | .runLengths =>
    p.lengthFault .runLengths (p.reduced tree .baseline).length (p.reduced tree .latest).length
  | .baselinesPositive =>
    (p.comparedBaselines tree).zipIdx.findSome? fun time =>
      if time.1 ≤ 0 then some (.comparison (.baselineNotPositive time.2 time.1)) else none
  | .anyBenchmark =>
    if (p.comparedBaselines tree).length = 0 then some (.comparison .noBenchmarks) else none

/-- The first of some checks that complains, and its complaint. -/
def firstFault (checks : List Check) : Option (Check × DataError) :=
  checks.findSome? fun check => (p.fault tree check).map fun e => (check, e)

/-- The file that a check tries to read. -/
def file? : Check → Option String
  | .firstSample side => some (p.files side).1
  | .secondSample side => some (p.files side).2
  | _ => none

/-- The files that some checks try to read. -/
def tried (checks : List Check) : List String := checks.filterMap p.file?

end

section
variable {p : Plan} {tree : Tree} {side : Side} {check : Check} {e : DataError}

/-! ## One run -/

/-- A complaint about a length, in the words of the program. -/
theorem lengthFault_eq (error : Nat → Nat → ComparisonError) (first second : Nat) :
    p.lengthFault error first second =
      if first ≠ second ∧ !p.allowLengthMismatch then some (.comparison (error first second))
      else none := by
  simp only [lengthFault, Bool.not_eq_true', Bool.eq_false_iff]

/-- The first complaint about one run, case by case. -/
theorem firstFault_ofSide : p.firstFault tree (Check.ofSide side) =
    match Timings.read tree (p.files side).1 with
    | .error cause => some (.firstSample side, .timing cause)
    | .ok first =>
      match Timings.read tree (p.files side).2 with
      | .error cause => some (.secondSample side, .timing cause)
      | .ok second =>
        (p.lengthFault .sampleLengths first.length second.length).map (.sampleLengths side, ·) := by
  simp only [firstFault, Check.ofSide, List.findSome?, fault, readingFault, times]
  cases hf : Timings.read tree (p.files side).1 with
  | error e => rfl
  | ok first =>
    cases hs : Timings.read tree (p.files side).2 with
    | error e => rfl
    | ok second =>
      simp only [Option.map_none, Except.toOption, Option.getD_some]
      cases p.lengthFault .sampleLengths first.length second.length <;> rfl

/-- The first complaint about a run ends its reading, after the files up to there. -/
theorem readRun_of_firstFault
    (h : p.firstFault tree (Check.ofSide side) = some (check, e)) :
    p.readRun tree (p.files side) =
      (p.tried (Check.upTo (Check.ofSide side) check), .error e) := by
  rw [firstFault_ofSide] at h
  unfold readRun
  cases hf : Timings.read tree (p.files side).1 with
  | error cause =>
    simp only [hf] at h
    cases h
    cases side <;> rfl
  | ok first =>
    cases hs : Timings.read tree (p.files side).2 with
    | error cause =>
      simp only [hf, hs] at h
      cases h
      cases side <;> rfl
    | ok second =>
      simp only [hf, hs, lengthFault_eq] at h
      simp only [Timings.fastest]
      split_ifs at h ⊢
      · cases h
        cases side <;> rfl
      · cases h

/-- A run without complaint has the faster times. -/
theorem readRun_of_noFault (h : p.firstFault tree (Check.ofSide side) = none) :
    p.readRun tree (p.files side) =
      (p.tried (Check.ofSide side), .ok (p.reduced tree side)) := by
  rw [firstFault_ofSide] at h
  unfold readRun reduced times
  cases hf : Timings.read tree (p.files side).1 with
  | error cause => simp [hf] at h
  | ok first =>
    cases hs : Timings.read tree (p.files side).2 with
    | error cause => simp [hf, hs] at h
    | ok second =>
      simp only [hf, hs, lengthFault_eq] at h
      simp only [Timings.fastest]
      split_ifs at h ⊢
      · cases h
      · rfl

/-! ## Two runs together -/

/-- The baselines compared are those of the pairs. -/
theorem map_fst_zip_eq_take (baseline latest : Timings) :
    (baseline.zip latest).map Prod.fst = baseline.take latest.length := by
  induction baseline generalizing latest with
  | nil => simp
  | cons time baseline ih =>
    cases latest with
    | nil => rfl
    | cons time' latest =>
      rw [List.zip_cons_cons, List.map_cons, ih]
      rfl

/-- The first baseline that is not above zero is that of the first such pair. -/
theorem fault_baselinesPositive : p.fault tree .baselinesPositive =
    (((p.reduced tree .baseline).zip (p.reduced tree .latest)).zipIdx.find? fun pair =>
      pair.1.1 ≤ 0).map fun pair => .comparison (.baselineNotPositive pair.2 pair.1.1) := by
  rw [fault, comparedBaselines, ← map_fst_zip_eq_take, List.zipIdx_map, List.findSome?_map,
    List.find?_eq_findSome?_guard, List.map_findSome?]
  congr 1
  funext pair
  obtain ⟨⟨baseline, latest⟩, index⟩ := pair
  by_cases hpos : baseline ≤ 0
  · simp [Option.guard, hpos]
  · simp [Option.guard, hpos]

/-- There is nothing to compare when there are no pairs. -/
theorem fault_anyBenchmark : p.fault tree .anyBenchmark =
    if ((p.reduced tree .baseline).zip (p.reduced tree .latest)).isEmpty then
      some (.comparison .noBenchmarks) else none := by
  simp only [fault, comparedBaselines, ← map_fst_zip_eq_take, List.length_map,
    List.isEmpty_iff_length_eq_zero]

/-- The first complaint about two runs together is the failure of their comparison, and without a
complaint there is none. -/
theorem ofRuns_eq : (Measurement.ofRuns p.thresholds p.allowLengthMismatch
      (p.reduced tree .baseline) (p.reduced tree .latest)).mapError .comparison =
    match p.firstFault tree Check.ofBoth with
    | some (_, e) => .error e
    | none => .ok (.ofPairs p.thresholds
        ((p.reduced tree .baseline).zip (p.reduced tree .latest))) := by
  rw [Measurement.ofRuns_eq]
  simp only [firstFault, Check.ofBoth, List.findSome?, fault_baselinesPositive, fault_anyBenchmark]
  simp only [fault, lengthFault_eq]
  generalize (p.reduced tree .baseline).zip (p.reduced tree .latest) = pairs
  by_cases hlen : (p.reduced tree .baseline).length ≠ (p.reduced tree .latest).length ∧
      !p.allowLengthMismatch
  · simp only [if_pos hlen]
    rfl
  · simp only [if_neg hlen]
    cases pairs.zipIdx.find? fun pair => decide (pair.1.1 ≤ 0) with
    | some pair => rfl
    | none => cases pairs <;> rfl

/-! ## The whole phase -/

/-- The checks of both runs together read nothing. -/
theorem tried_upTo_ofBoth (h : check ∈ Check.ofBoth) :
    p.tried (Check.upTo Check.ofBoth check) = [] := by
  simp only [Check.ofBoth, List.mem_cons, List.not_mem_nil, or_false] at h
  rcases h with rfl | rfl | rfl <;> rfl

theorem firstFault_inOrder : p.firstFault tree Check.inOrder =
    ((p.firstFault tree (Check.ofSide .baseline)).or
      (p.firstFault tree (Check.ofSide .latest))).or (p.firstFault tree Check.ofBoth) := by
  simp only [firstFault, Check.inOrder, List.findSome?_append]

/-- What complains is one of the checks. -/
theorem mem_of_firstFault {checks : List Check} (h : p.firstFault tree checks = some (check, e)) :
    check ∈ checks ∧ p.fault tree check = some e := by
  obtain ⟨c, hc, hfault⟩ := List.exists_of_findSome?_eq_some h
  simp only [Option.map_eq_some_iff, Prod.mk.injEq] at hfault
  obtain ⟨e', he', rfl, rfl⟩ := hfault
  exact ⟨hc, he'⟩

/-- The first complaint ends the data phase, after the files up to there. Without a complaint all
files are read and there is a measurement. -/
theorem measure_eq (p : Plan) (tree : Tree) : p.measure tree =
    match p.firstFault tree Check.inOrder with
    | some (check, e) => (p.tried (Check.upTo Check.inOrder check), .error e)
    | none => (p.tried Check.inOrder, .ok (.ofPairs p.thresholds
        ((p.reduced tree .baseline).zip (p.reduced tree .latest)))) := by
  have hbaseline : p.baseline = p.files .baseline := rfl
  have hlatest : p.latest = p.files .latest := rfl
  rw [firstFault_inOrder]
  unfold measure
  cases hb : p.firstFault tree (Check.ofSide .baseline) with
  | some fault =>
    rw [hbaseline, readRun_of_firstFault hb]
    simp only [Option.some_or, Check.upTo_of_mem_baseline (mem_of_firstFault hb).1]
  | none =>
    rw [hbaseline, readRun_of_noFault hb]
    cases hl : p.firstFault tree (Check.ofSide .latest) with
    | some fault =>
      rw [hlatest, readRun_of_firstFault hl]
      simp only [Option.none_or, Option.some_or, Check.upTo_of_mem_latest (mem_of_firstFault hl).1,
        tried, List.filterMap_append]
    | none =>
      rw [hlatest, readRun_of_noFault hl]
      simp only [Option.none_or, ofRuns_eq]
      cases hboth : p.firstFault tree Check.ofBoth with
      | some fault =>
        simp only [Check.upTo_of_mem_both (mem_of_firstFault hboth).1, tried,
          List.filterMap_append]
        rw [← tried, ← tried, ← tried, tried_upTo_ofBoth (mem_of_firstFault hboth).1,
          List.append_nil]
      | none => rfl

/-! ## Success -/

/-- When a run has times, and which. -/
theorem readRun_eq_ok_iff {files : String × String} {times : Timings} :
    (p.readRun tree files).2 = .ok times ↔
      ∃ first second, Timings.read tree files.1 = .ok first ∧
        Timings.read tree files.2 = .ok second ∧
          Timings.fastest p.allowLengthMismatch first second = .ok times := by
  unfold readRun
  cases hf : Timings.read tree files.1 with
  | error cause => simp only [reduceCtorEq, false_and, exists_false]
  | ok first =>
    cases hs : Timings.read tree files.2 with
    | error cause => simp only [reduceCtorEq, false_and, and_false, exists_false]
    | ok second =>
      simp only [Except.mapError_eq_ok_iff, Except.ok.injEq]
      constructor
      · intro h
        exact ⟨first, second, rfl, rfl, h⟩
      · rintro ⟨_, _, rfl, rfl, h⟩
        exact h

/-- Samples are what the files of a plan hold. -/
structure Holds (p : Plan) (tree : Tree) (s : Samples) : Prop where
  baseline : Timings.read tree p.baseline.1 = .ok s.baseline.1 ∧
    Timings.read tree p.baseline.2 = .ok s.baseline.2
  latest : Timings.read tree p.latest.1 = .ok s.latest.1 ∧
    Timings.read tree p.latest.2 = .ok s.latest.2

/-- What the files of a plan hold was read. -/
theorem Holds.isRead {s : Samples} (h : p.Holds tree s) : s.IsRead := by
  obtain ⟨⟨hb₁, hb₂⟩, ⟨hl₁, hl₂⟩⟩ := h
  exact ⟨⟨Timings.exists_parse_of_read hb₁, Timings.exists_parse_of_read hb₂⟩,
    ⟨Timings.exists_parse_of_read hl₁, Timings.exists_parse_of_read hl₂⟩⟩

/-- The data phase as steps that may fail. -/
theorem measure_snd : (p.measure tree).2 =
    (p.readRun tree p.baseline).2.bind fun baseline =>
      (p.readRun tree p.latest).2.bind fun latest =>
        (Measurement.ofRuns p.thresholds p.allowLengthMismatch baseline latest).mapError
          .comparison := by
  unfold measure
  obtain ⟨files, baseline⟩ := p.readRun tree p.baseline
  obtain ⟨files', latest⟩ := p.readRun tree p.latest
  cases baseline with
  | error e => rfl
  | ok baseline => cases latest <;> rfl

/-- When a plan has a measurement, and which. -/
theorem measure_eq_ok_iff {m : Measurement} : (p.measure tree).2 = .ok m ↔
    ∃ s : Samples, p.Holds tree s ∧ s.measure p.thresholds p.allowLengthMismatch = .ok m := by
  simp only [measure_snd, Except.bind_eq_ok_iff, Except.mapError_eq_ok_iff, readRun_eq_ok_iff]
  constructor
  · rintro ⟨baseline, ⟨b₁, b₂, hb₁, hb₂, hb⟩, latest, ⟨l₁, l₂, hl₁, hl₂, hl⟩, h⟩
    refine ⟨⟨(b₁, b₂), (l₁, l₂)⟩, ⟨⟨hb₁, hb₂⟩, ⟨hl₁, hl₂⟩⟩, ?_⟩
    exact Except.bind_eq_ok_iff.2 ⟨_, hb, Except.bind_eq_ok_iff.2 ⟨_, hl, h⟩⟩
  · rintro ⟨s, ⟨⟨hb₁, hb₂⟩, ⟨hl₁, hl₂⟩⟩, h⟩
    obtain ⟨baseline, hb, h⟩ := Except.bind_eq_ok_iff.1 h
    obtain ⟨latest, hl, h⟩ := Except.bind_eq_ok_iff.1 h
    exact ⟨_, ⟨_, _, hb₁, hb₂, hb⟩, _, ⟨_, _, hl₁, hl₂, hl⟩, h⟩

end

end Plan

/-- The baseline complained about is the first that is not above zero. -/
theorem Plan.fault_baselinesPositive_least {p : Plan} {tree : Tree} {index : Nat} {time : Float}
    (h : p.fault tree .baselinesPositive =
      some (.comparison (.baselineNotPositive index time))) :
    (p.comparedBaselines tree)[index]? = some time ∧ time ≤ 0 ∧
      ∀ i < index, ∀ earlier, (p.comparedBaselines tree)[i]? = some earlier → ¬earlier ≤ 0 := by
  rw [fault] at h
  obtain ⟨before, ⟨time', index'⟩, after, hsplit, hfound, hbefore⟩ := List.findSome?_eq_some_iff.1 h
  have hget : ∀ i, (before ++ (time', index') :: after)[i]? =
      (p.comparedBaselines tree)[i]?.map (·, i) := fun i => by
    rw [← hsplit, List.getElem?_zipIdx, Nat.zero_add]
  -- the pair that is found stands at its own index, after the pairs before it
  have hat := hget before.length
  rw [List.getElem?_append_right le_rfl, Nat.sub_self, List.getElem?_cons_zero, eq_comm,
    Option.map_eq_some_iff] at hat
  obtain ⟨time'', hat, hpair⟩ := hat
  cases hpair
  split_ifs at hfound with hpos
  cases hfound
  refine ⟨hat, hpos, fun i hi earlier hearlier => ?_⟩
  have hi' := hget i
  rw [List.getElem?_append_left hi, hearlier, Option.map_some] at hi'
  have hnone := hbefore _ (List.mem_of_getElem? hi')
  intro hle
  rw [if_pos hle] at hnone
  cases hnone

namespace Job

/-- Saving fails for no other reason than that a file cannot be written. -/
theorem save_error {job : Job} {tree : Tree} {outcome : Outcome} {e : Failure}
    (h : job.save tree outcome = .error e) : ∃ path cause, e = .output path cause := by
  unfold save at h
  cases hpath : Delivery.present job.outputPath with
  | none => simp [hpath] at h
  | some path =>
    simp only [hpath, Outcome.save] at h
    cases hwrite : tree.write path (Utf8.encode (outcome.document .declared)) with
    | ok tree' => simp [hwrite, Except.mapError] at h
    | error cause =>
      rw [hwrite] at h
      cases h
      exact ⟨path, cause, rfl⟩

/-- The data phase of a job. The first check that complains decides: the job prints a line for each
file that it tried up to there, fails with the complaint and does nothing else. If no check
complains, the job fails for no reason that lies in the data. The baseline complained about is the
first compared that is not above zero. -/
theorem run_firstFault (job : Job) (tree : Tree) (replies : List Reply) :
    (match job.plan.firstFault tree Check.inOrder with
    | some (check, e) =>
      job.run tree (Reply.first replies) =
        { lines := (job.plan.tried (Check.upTo Check.inOrder check)).map fun path =>
            .ofText ("Reading " ++ path)
          requests := []
          tree
          result := .error (.data e) } ∧
      ∀ colours, Line.print colours (job.run tree (Reply.first replies)).lines =
        String.join ((job.plan.tried (Check.upTo Check.inOrder check)).map fun path =>
          "Reading " ++ path ++ "\n")
    | none =>
      (∃ outcome, (job.run tree (Reply.first replies)).result = .ok outcome) ∨
        (∃ e, (job.run tree (Reply.first replies)).result = .error (.delivery e)) ∨
          ∃ path e, (job.run tree (Reply.first replies)).result = .error (.output path e)) ∧
    ∀ index time,
      job.plan.fault tree .baselinesPositive =
        some (.comparison (.baselineNotPositive index time)) →
      (job.plan.comparedBaselines tree)[index]? = some time ∧ time ≤ 0 ∧
        ∀ i < index, ∀ earlier,
          (job.plan.comparedBaselines tree)[i]? = some earlier → ¬earlier ≤ 0 := by
  refine ⟨?_, fun index time => Plan.fault_baselinesPositive_least⟩
  have hmeasure := Plan.measure_eq job.plan tree
  cases h : job.plan.firstFault tree Check.inOrder with
  | some fault =>
    rw [h] at hmeasure
    simp only [run, hmeasure]
    refine ⟨rfl, fun colours => ?_⟩
    have hprint := Line.print_map_ofText colours
      ((job.plan.tried (Check.upTo Check.inOrder fault.1)).map ("Reading " ++ ·))
    rwa [List.map_map, List.map_map] at hprint
  | none =>
    rw [h] at hmeasure
    simp only [run, hmeasure]
    split
    · exact .inr (.inl ⟨_, rfl⟩)
    · split
      · next e hsave =>
        obtain ⟨path, cause, rfl⟩ := save_error hsave
        exact .inr (.inr ⟨path, cause, rfl⟩)
      · exact .inl ⟨_, rfl⟩

/-- A baseline with benchmarks that take no time, and a latest run that is shorter. -/
def zeroTree : Tree :=
  (({} : Tree).addFile "old.txt" (Utf8.encode "3 0 0")).addFile "new.txt" (Utf8.encode "1 2")

/-- A job that compares these runs as far as both go. -/
def zeroJob : Job where
  plan :=
    { baseline := ("old.txt", "old.txt")
      latest := ("new.txt", "new.txt")
      allowLengthMismatch := true }
  delivery := { token := "t", pullRequest := "7" }
  outputPath := some "report.json"

/-- The first of the two benchmarks that take no time is complained about, after all files were
read and named. -/
theorem run_firstFault_zero :
    zeroJob.run zeroTree (Reply.first []) =
      { lines := [.ofText "Reading old.txt", .ofText "Reading old.txt", .ofText "Reading new.txt",
          .ofText "Reading new.txt"]
        requests := []
        tree := zeroTree
        result := .error (.data (.comparison (.baselineNotPositive 1 0))) } ∧
    Line.print false (zeroJob.run zeroTree (Reply.first [])).lines =
      "Reading old.txt\nReading old.txt\nReading new.txt\nReading new.txt\n" ∧
    ∀ i < 1, ∀ earlier,
      (zeroJob.plan.comparedBaselines zeroTree)[i]? = some earlier → ¬earlier ≤ 0 := by
  have hfault : zeroJob.plan.fault zeroTree .baselinesPositive =
      some (.comparison (.baselineNotPositive 1 0)) := by
    have hcompared : zeroJob.plan.comparedBaselines zeroTree = [3, 0] := by decide +kernel
    have hfirst : ¬(3 : Float) ≤ 0 := by decide +kernel
    have hsecond : (0 : Float) ≤ 0 := by decide +kernel
    simp [Plan.fault, hcompared, hfirst, hsecond]
  have hcheck : (zeroJob.plan.firstFault zeroTree Check.inOrder).map (·.1) =
      some .baselinesPositive := by decide +kernel
  obtain ⟨⟨check, e⟩, hfirst, rfl⟩ := Option.map_eq_some_iff.1 hcheck
  have hfault' := (Plan.mem_of_firstFault hfirst).2
  rw [hfault] at hfault'
  cases hfault'
  obtain ⟨hrun, hleast⟩ := run_firstFault zeroJob zeroTree []
  rw [hfirst] at hrun
  exact ⟨hrun.1, hrun.2 false, (hleast 1 0 hfault).2.2⟩

end Job

end BenchGate
