import BenchGate.Proofs.Binary64.Extremes
import BenchGate.Proofs.Run.Stages

/-!
# The samples of a run change places

The faster times of two samples do not depend on which sample comes first, since the smaller of two
doubles does not (`Timings.fastest_comm`); among sequences of numbers they are the greatest lower
bound of the samples (`Timings.isMeet_fastest`). Reading the two files of a run in the other order
may change which file is complained about first, but not whether both are read, nor what their
faster times are (`Plan.readRun_swap`). So a job whose files change places has the same outcome
(`Job.samples_interchangeable`).
-/

namespace BenchGate

/-! ## Two samples -/

namespace Timings

/-- A sequence of times is no longer than another one, and at no position larger. -/
structure IsBelow (xs ys : Timings) : Prop where
  length : xs.length ≤ ys.length
  le : ∀ i (hx : i < xs.length) (hy : i < ys.length), xs[i] ≤ ys[i]

/-- A sequence is the greatest of those below two others; it goes as far as both do. -/
structure IsMeet (zs xs ys : Timings) : Prop where
  length : zs.length = min xs.length ys.length
  left : zs.IsBelow xs
  right : zs.IsBelow ys
  greatest : ∀ ws : Timings, ws.IsBelow xs → ws.IsBelow ys → ws.IsBelow zs

variable {allowLengthMismatch : Bool} {xs ys : Timings}

/-- The faster times of two samples do not depend on their order. -/
theorem fastest_comm {zs : Timings} : fastest allowLengthMismatch xs ys = .ok zs ↔
    fastest allowLengthMismatch ys xs = .ok zs := by
  rw [Samples.fastest_eq_ok_iff, Samples.fastest_eq_ok_iff, eq_comm (a := xs.length),
    List.zipWith_comm_of_comm Float.ranksBy_least.comm]

/-- A sample is its own faster times. -/
theorem fastest_self (allowLengthMismatch : Bool) (xs : Timings) :
    fastest allowLengthMismatch xs xs = .ok xs := by
  have hself : List.zipWith least xs xs = xs := by
    simp [List.zipWith_self]
  rw [fastest, if_neg (fun h => h.1 rfl), hself]

/-- The faster times of two samples are their greatest lower bound. -/
theorem isMeet_fastest (hxs : ∀ x ∈ xs, x.isNaN = false) (hys : ∀ y ∈ ys, y.isNaN = false) :
    IsMeet (List.zipWith least xs ys) xs ys where
  length := List.length_zipWith
  left := by
    refine ⟨by simp, fun i hi hx => ?_⟩
    rw [List.getElem_zipWith]
    exact Float.least_le_left (hxs _ (List.getElem_mem _)) (hys _ (List.getElem_mem _))
  right := by
    refine ⟨by simp, fun i hi hy => ?_⟩
    rw [List.getElem_zipWith]
    exact Float.least_le_right (hxs _ (List.getElem_mem _)) (hys _ (List.getElem_mem _))
  greatest := by
    intro ws hleft hright
    refine ⟨by simp [hleft.length, hright.length], fun i hw hi => ?_⟩
    rw [List.getElem_zipWith]
    exact Float.le_least (hleft.le i hw _) (hright.le i hw _)

end Timings

/-! ## Two files -/

namespace Plan

/-- A plan with the two files of the baseline exchanged, or those of the latest run, or both. -/
def exchanged (baseline latest : Bool) (p : Plan) : Plan :=
  { p with
    baseline := if baseline then p.baseline.swap else p.baseline
    latest := if latest then p.latest.swap else p.latest }

variable {p : Plan} {tree : Tree} {baseline latest : Bool}

/-- A run whose files are read in the other order has the same times. -/
theorem readRun_swap {files : String × String} {times : Timings} :
    (p.readRun tree files.swap).2 = .ok times ↔ (p.readRun tree files).2 = .ok times := by
  simp only [readRun_eq_ok_iff, Prod.fst_swap, Prod.snd_swap]
  constructor
  · rintro ⟨second, first, hsecond, hfirst, htimes⟩
    exact ⟨first, second, hfirst, hsecond, Timings.fastest_comm.1 htimes⟩
  · rintro ⟨first, second, hfirst, hsecond, htimes⟩
    exact ⟨second, first, hsecond, hfirst, Timings.fastest_comm.1 htimes⟩

/-- A plan whose files change places measures the same. -/
theorem measure_exchanged {m : Measurement} :
    ((p.exchanged baseline latest).measure tree).2 = .ok m ↔ (p.measure tree).2 = .ok m := by
  have hrun : ∀ (swapped : Bool) (files : String × String) (times : Timings),
      ((p.exchanged baseline latest).readRun tree (if swapped then files.swap else files)).2 =
        .ok times ↔ (p.readRun tree files).2 = .ok times := by
    intro swapped files times
    cases swapped with
    | false => rfl
    | true => exact readRun_swap
  have hbaseline := hrun baseline p.baseline
  have hlatest := hrun latest p.latest
  simp only [measure_snd, Except.bind_eq_ok_iff]
  exact exists_congr fun _ => and_congr (hbaseline _) (exists_congr fun _ =>
    and_congr (hlatest _) Iff.rfl)

end Plan

namespace Job

/-- A job that measures by such a plan. -/
def exchanged (baseline latest : Bool) (job : Job) : Job :=
  { job with plan := job.plan.exchanged baseline latest }

/-- The two samples of a run are interchangeable. Their faster times are the same in both orders, or
there are none in both orders; a sample is faster than itself nowhere; and the faster times of
samples without undefined numbers are their greatest lower bound. So a job in which the files of one
run or of both change places has the same outcome, or none as before. -/
theorem samples_interchangeable :
    (∀ (allowLengthMismatch : Bool) (xs ys : Timings),
      (Timings.fastest allowLengthMismatch xs ys).toOption =
        (Timings.fastest allowLengthMismatch ys xs).toOption ∧
      Timings.fastest allowLengthMismatch xs xs = .ok xs ∧
      ∀ zs, Timings.fastest allowLengthMismatch xs ys = .ok zs → (∀ x ∈ xs, x.isNaN = false) →
        (∀ y ∈ ys, y.isNaN = false) → zs.IsMeet xs ys) ∧
    ∀ (job : Job) (tree : Tree) (replies : List Reply) (baseline latest : Bool),
      ((job.exchanged baseline latest).run tree (Reply.first replies)).result.toOption =
        (job.run tree (Reply.first replies)).result.toOption := by
  refine ⟨fun allowLengthMismatch xs ys => ⟨?_, Timings.fastest_self _ xs, ?_⟩, ?_⟩
  · exact Except.toOption_eq_of_ok_iff fun zs => Timings.fastest_comm
  · intro zs hzs hxs hys
    obtain ⟨-, rfl⟩ := Samples.fastest_eq_ok_iff.1 hzs
    exact Timings.isMeet_fastest hxs hys
  · intro job tree replies baseline latest
    refine Except.toOption_eq_of_ok_iff fun outcome => ?_
    rw [result_eq_ok_iff, result_eq_ok_iff]
    -- delivery and output are those of the job itself
    exact exists_congr fun m => and_congr Plan.measure_exchanged Iff.rfl

/-- Two samples of each run, which differ in length and in which of them is the faster one. -/
def noisyTree : Tree :=
  (((({} : Tree).addFile "old1.txt" (Utf8.encode "10 3 7")).addFile "old2.txt"
    (Utf8.encode "12 2")).addFile "new1.txt" (Utf8.encode "11 2")).addFile "new2.txt"
      (Utf8.encode "9 4 1 1")

/-- A job that compares them as far as all go. -/
def noisyJob : Job where
  plan :=
    { baseline := ("old1.txt", "old2.txt")
      latest := ("new1.txt", "new2.txt")
      allowLengthMismatch := true }
  delivery := { token := "t", pullRequest := "" }

/-- The noisy job passes, whichever of its files change places; and `-0` comes before `0`. -/
theorem samples_interchangeable_noisy :
    Timings.IsMeet [-0.0, 2] [0, 2, 5] [-0.0, 3] ∧
      ∀ baseline latest : Bool,
        ((noisyJob.exchanged baseline latest).run noisyTree (Reply.first [])).result.toOption.map
          (·.verdict.passed) = some true := by
  obtain ⟨hsamples, hjobs⟩ := samples_interchangeable
  constructor
  · refine (hsamples true [0, 2, 5] [-0.0, 3]).2.2 _ ?_ (by decide +kernel) (by decide +kernel)
    exact Samples.fastest_eq_ok_iff.2 ⟨.inr rfl, by decide +kernel⟩
  · intro baseline latest
    rw [hjobs noisyJob noisyTree [] baseline latest]
    decide +kernel

end Job

end BenchGate
