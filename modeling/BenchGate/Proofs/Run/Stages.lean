import BenchGate.Proofs.Run.Delivery

/-!
# The stages of a job

A job measures, delivers and saves (`Job.result_eq`). `Job.deliver_eq_ok_iff` and
`Job.save_eq_ok_iff` say when the later stages succeed, and `Job.result_eq_ok_iff` and
`Job.passes_iff` put them together with the measurement. `Job.run_ends` lists the four ways in which
a job ends, by what its data phase came to.
-/

namespace BenchGate

/-- A report is posted if it is there and has a pull request to go to. -/
def Delivery.posts (d : Delivery) (report : Option String) : Bool :=
  report.isSome && d.pullRequest != ""

namespace Job

section
variable {job : Job} {tree : Tree} {reply : Reply}

/-! ## The stages of a job -/

/-- When a delivery succeeds, and whether a comment was posted then. -/
theorem deliver_eq_ok_iff {d : Delivery} {report : Option String} {commented : Bool} :
    (deliver d tree reply report).2.2 = .ok commented ↔
      (∀ text, report = some text → d.pullRequest = "" ∨ (d.send tree reply text).2 = .ok ()) ∧
        commented = d.posts report := by
  cases report with
  | none =>
    simp only [deliver, Except.ok.injEq, reduceCtorEq, false_implies, implies_true, true_and]
    exact eq_comm
  | some text =>
    by_cases hpull : d.pullRequest = ""
    · simp only [deliver, hpull, if_true, Except.ok.injEq, true_or, implies_true, true_and,
        Delivery.posts, bne_self_eq_false, Bool.and_false]
      exact eq_comm
    · have hposts : d.posts (some text) = true := bne_iff_ne.2 hpull
      simp only [deliver, hpull, if_false, false_or, Option.some.injEq, forall_eq', hposts]
      cases (d.send tree reply text).2 with
      | error e =>
        constructor
        · intro h
          cases h
        · rintro ⟨h, -⟩
          cases h
      | ok _ =>
        constructor
        · intro h
          cases h
          exact ⟨rfl, rfl⟩
        · rintro ⟨-, rfl⟩
          rfl

/-- When an outcome is saved: wherever it has to go, it can be written. -/
theorem save_eq_ok_iff {outcome : Outcome} : (∃ after, job.save tree outcome = .ok after) ↔
    ∀ path, job.outputPath = some path → path ≠ "" → ∃ place, tree.target path = .ok place := by
  cases hpath : Delivery.present job.outputPath with
  | none =>
    refine ⟨fun _ path h h' => ?_, fun _ => ⟨tree, by simp only [save, hpath]⟩⟩
    rw [Delivery.present_eq_some_iff.2 ⟨h, h'⟩] at hpath
    cases hpath
  | some path =>
    obtain ⟨hpath, hpath'⟩ := Delivery.present_eq_some_iff.1 hpath
    constructor
    · rintro ⟨after, hsave⟩ path' h h'
      cases htarget : tree.target path' with
      | ok place => exact ⟨place, rfl⟩
      | error cause =>
        rw [save_of_no_target h h' htarget] at hsave
        cases hsave
    · intro h
      obtain ⟨place, hplace⟩ := h path hpath hpath'
      exact ⟨_, save_of_target hpath hpath' hplace⟩

/-! ## The whole job -/

/-- A job as steps that may fail. -/
theorem result_eq : (job.run tree reply).result =
    ((job.plan.measure tree).2.mapError .data).bind fun m =>
      ((deliver job.delivery tree reply m.report).2.2.mapError .delivery).bind fun commented =>
        (job.save tree { m with commented }).map fun _ => { m with commented } := by
  unfold run
  obtain ⟨files, measured⟩ := job.plan.measure tree
  cases measured with
  | error e => rfl
  | ok m =>
    simp only [Except.mapError, Except.bind]
    cases (deliver job.delivery tree reply m.report).2.2 with
    | error e => rfl
    | ok commented =>
      simp only
      cases job.save tree { m with commented } <;> rfl

/-- When a job has an outcome, and which: the measurement of its plan, with whether its report was
posted. -/
theorem result_eq_ok_iff {outcome : Outcome} : (job.run tree reply).result = .ok outcome ↔
    ∃ m, (job.plan.measure tree).2 = .ok m ∧
      (∀ text, m.report = some text →
        job.delivery.pullRequest = "" ∨ (job.delivery.send tree reply text).2 = .ok ()) ∧
      outcome = { m with commented := job.delivery.posts m.report } ∧
      ∃ after, job.save tree outcome = .ok after := by
  simp only [result_eq, Except.bind_eq_ok_iff, Except.mapError_eq_ok_iff, Except.map_eq_ok_iff,
    deliver_eq_ok_iff]
  constructor
  · rintro ⟨m, hm, _, ⟨hsent, rfl⟩, after, hsave, rfl⟩
    exact ⟨m, hm, hsent, rfl, after, hsave⟩
  · rintro ⟨m, hm, hsent, rfl, after, hsave⟩
    exact ⟨m, hm, _, ⟨hsent, rfl⟩, after, hsave, rfl⟩

/-- The outcome of a job is saved in the tree that the job leaves behind. -/
theorem save_of_result {outcome : Outcome} (h : (job.run tree reply).result = .ok outcome) :
    job.save tree outcome = .ok (job.run tree reply).tree := by
  unfold run at h ⊢
  cases hmeasured : job.plan.measure tree with
  | mk files measured =>
  cases measured with
  | error e =>
    rw [hmeasured] at h
    cases h
  | ok m =>
    simp only [hmeasured] at h ⊢
    cases hcommented : (deliver job.delivery tree reply m.report).2.2 with
    | error e =>
      rw [hcommented] at h
      cases h
    | ok commented =>
      simp only [hcommented] at h ⊢
      cases hsave : job.save tree { m with commented } with
      | error e =>
        rw [hsave] at h
        cases h
      | ok after =>
        rw [hsave] at h
        cases h
        exact hsave

/-- A job passes when its measurement does, the report arrives and the outcome can be written where
it has to go; the tree that the job leaves behind has its file there. -/
theorem passes_iff : (∃ outcome, (job.run tree reply).result = .ok outcome ∧
      outcome.verdict.passed = true) ↔
    ∃ m, (job.plan.measure tree).2 = .ok m ∧ m.verdict.passed = true ∧
      (∀ text, m.report = some text →
        job.delivery.pullRequest = "" ∨ (job.delivery.send tree reply text).2 = .ok ()) ∧
      ∀ path, job.outputPath = some path → path ≠ "" →
        ∃ place, tree.target path = .ok place ∧
          (job.run tree reply).tree = tree.set place (.file (Utf8.encode (Outcome.document .declared
            { m with commented := job.delivery.posts m.report }))) := by
  constructor
  · rintro ⟨_, hresult, hpassed⟩
    have hsave := save_of_result hresult
    obtain ⟨m, hm, hsent, rfl, hsaved⟩ := result_eq_ok_iff.1 hresult
    refine ⟨m, hm, hpassed, hsent, fun path hpath hpath' => ?_⟩
    obtain ⟨place, hplace⟩ := save_eq_ok_iff.1 hsaved path hpath hpath'
    rw [save_of_target hpath hpath' hplace] at hsave
    exact ⟨place, hplace, (Except.ok.inj hsave).symm⟩
  · rintro ⟨m, hm, hpassed, hsent, hsaved⟩
    refine ⟨_, result_eq_ok_iff.2 ⟨m, hm, hsent, rfl, save_eq_ok_iff.2 ?_⟩, hpassed⟩
    intro path hpath hpath'
    obtain ⟨place, hplace, -⟩ := hsaved path hpath hpath'
    exact ⟨place, hplace⟩

/-! ## The ends of a job -/

/-- How a job may end whose data phase ended like this: with the failure of the data phase, with a
failure of the delivery or of the file, or with the measurement as it is. -/
inductive Ends : Except DataError Measurement → Except Failure Outcome → Prop where
  | data (e : DataError) : Ends (.error e) (.error (.data e))
  | delivery (m : Measurement) (e : DeliveryError) : Ends (.ok m) (.error (.delivery e))
  | output (m : Measurement) (path : String) (e : FileError) :
    Ends (.ok m) (.error (.output path e))
  | outcome (m : Measurement) (commented : Bool) : Ends (.ok m) (.ok { m with commented })

/-- Every job ends in one of these ways. -/
theorem run_ends (job : Job) (tree : Tree) (reply : Reply) :
    Ends (job.plan.measure tree).2 (job.run tree reply).result := by
  rw [result_eq]
  cases (job.plan.measure tree).2 with
  | error e => exact .data e
  | ok m =>
    simp only [Except.mapError, Except.bind]
    cases (deliver job.delivery tree reply m.report).2.2 with
    | error e => exact .delivery m e
    | ok commented =>
      simp only
      cases hsave : job.save tree { m with commented } with
      | error e =>
        obtain ⟨path, cause, rfl⟩ := save_error hsave
        exact .output m path cause
      | ok after => exact .outcome m commented

namespace Ends

variable {measured : Except DataError Measurement} {result : Except Failure Outcome}

/-- A job complains about the data exactly when the data phase does. -/
theorem data_iff {e : DataError} (h : Ends measured result) :
    result = .error (.data e) ↔ measured = .error e := by
  cases h with
  | data e' =>
    constructor
    · intro h
      cases h
      rfl
    · intro h
      cases h
      rfl
  | delivery _ _ | output _ _ _ | outcome _ _ =>
    constructor
    · intro h
      cases h
    · intro h
      cases h

/-- An outcome says what was measured. -/
theorem measured_eq {outcome : Outcome} (h : Ends measured (.ok outcome)) :
    measured = .ok outcome.toMeasurement := by
  cases h with
  | outcome m commented => rfl

end Ends

end

end Job

end BenchGate
