import BenchGate.Proofs.Files.Frame
import BenchGate.Proofs.Run.Delivery

/-!
# The files that a job touches

`Job.touched` lists the paths that a job reads or writes on a tree: the timings up to the first that
is at fault, the event only if a comment is due, and the file of the outcome only if the job comes
to it. Nothing else in a tree has an influence on the job: on trees that agree along these paths it
does the same, and changes the same file or none (`Job.run_congr`).
-/

namespace BenchGate

/-- The paths of a delivery: that of the event, if there is a report that is to be posted and a
repository to post it to. -/
def Delivery.touched (d : Delivery) (report : Option String) : List String :=
  if report = none ∨ d.pullRequest = "" ∨ present d.repository = none then []
  else (present d.eventPath).toList

/-- What is in two parts stays in two wider parts. -/
theorem append_subset_append {front back front' back' : List String} (h : front ⊆ front')
    (h' : back ⊆ back') : front ++ back ⊆ front' ++ back' :=
  List.append_subset.2 ⟨List.subset_append_of_subset_left _ h,
    List.subset_append_of_subset_right _ h'⟩

/-- A text that counts as present is the text that was given. -/
theorem Delivery.present_toList_subset {text : Option String} :
    (present text).toList ⊆ text.toList := by
  intro value hvalue
  rw [Option.mem_toList, present_eq_some_iff] at hvalue
  exact Option.mem_toList.2 hvalue.1

namespace Job

/-- The path to which a job writes its outcome. -/
def output? (job : Job) : Option String := Delivery.present job.outputPath

/-- The paths that a job touches when it has a measurement. -/
def touchedAfter (job : Job) (tree : Tree) (reply : Reply) (m : Measurement) : List String :=
  job.delivery.touched m.report ++
    match (deliver job.delivery tree reply m.report).2.2 with
    | .error _ => []
    | .ok _ => job.output?.toList

/-- The paths that a job touches on a tree. -/
def touched (job : Job) (tree : Tree) (reply : Reply) : List String :=
  (job.plan.measure tree).1 ++
    match (job.plan.measure tree).2 with
    | .error _ => []
    | .ok m => job.touchedAfter tree reply m

end Job

/-- Two trees change alike: not at all, or by one file at the place of a path along which they
agreed. -/
inductive Tree.ChangeAlike (path? : Option String) (tree tree' : Tree) : Tree → Tree → Prop where
  | unchanged : ChangeAlike path? tree tree' tree tree'
  | written (path : String) (content : Bytes) (hpath : path? = some path)
    (hagree : tree.AgreeAlong tree' path) :
    ChangeAlike path? tree tree' (tree.set (destination path) (.file content))
      (tree'.set (destination path) (.file content))

/-- Two runs on two trees do the same. -/
structure Run.SameOn (path? : Option String) (tree tree' : Tree) (run run' : Run) : Prop where
  lines : run'.lines = run.lines
  requests : run'.requests = run.requests
  result : run'.result = run.result
  change : tree.ChangeAlike path? tree' run.tree run'.tree

section
variable {tree tree' : Tree}

/-! ## The timings -/

/-- Reading timings looks along the path. -/
theorem Timings.read_congr {path : String} (h : tree.AgreeAlong tree' path) :
    Timings.read tree path = Timings.read tree' path := by
  rw [Timings.read, Timings.read, h.read_eq]

namespace Plan

variable {p : Plan}

/-- Reading a run looks along the paths of the files tried. -/
theorem readRun_congr {files : String × String}
    (h : ∀ path ∈ (p.readRun tree files).1, tree.AgreeAlong tree' path) :
    p.readRun tree files = p.readRun tree' files := by
  unfold readRun at h ⊢
  cases hfirst : Timings.read tree files.1 with
  | error e =>
    simp only [hfirst, List.forall_mem_singleton] at h
    rw [← Timings.read_congr h, hfirst]
  | ok first =>
    simp only [hfirst, List.forall_mem_cons] at h
    obtain ⟨hagree, hagree', -⟩ := h
    rw [← Timings.read_congr hagree, ← Timings.read_congr hagree', hfirst]

/-- No other files are tried than those of the run. -/
theorem readRun_fst_subset {files : String × String} :
    (p.readRun tree files).1 ⊆ [files.1, files.2] := by
  unfold readRun
  cases Timings.read tree files.1 with
  | error e => exact List.cons_subset_cons _ (List.nil_subset _)
  | ok first => exact List.Subset.refl _

/-- No other files are tried than the four of the plan. -/
theorem measure_fst_subset : (p.measure tree).1 ⊆
    [p.baseline.1, p.baseline.2] ++ [p.latest.1, p.latest.2] := by
  have hbaseline : (p.readRun tree p.baseline).1 ⊆ _ := readRun_fst_subset
  have hlatest : (p.readRun tree p.latest).1 ⊆ _ := readRun_fst_subset
  unfold measure
  cases hrun : p.readRun tree p.baseline with
  | mk files baseline =>
    rw [hrun] at hbaseline
    cases baseline with
    | error e => exact List.subset_append_of_subset_left _ hbaseline
    | ok baseline =>
      cases hrun' : p.readRun tree p.latest with
      | mk more latest =>
        rw [hrun'] at hlatest
        cases latest <;> exact append_subset_append hbaseline hlatest

/-- The files of the baseline are tried in any case. -/
theorem mem_measure_of_baseline {path : String} (h : path ∈ (p.readRun tree p.baseline).1) :
    path ∈ (p.measure tree).1 := by
  unfold measure
  cases hbaseline : p.readRun tree p.baseline with
  | mk files baseline =>
    rw [hbaseline] at h
    cases baseline with
    | error e => exact h
    | ok baseline =>
      cases hlatest : p.readRun tree p.latest with
      | mk more latest => cases latest <;> exact List.mem_append_left _ h

/-- The files of the latest run are tried once the baseline is there. -/
theorem mem_measure_of_latest {path : String} {baseline : Timings}
    (hbaseline : (p.readRun tree p.baseline).2 = .ok baseline)
    (h : path ∈ (p.readRun tree p.latest).1) : path ∈ (p.measure tree).1 := by
  unfold measure
  cases hrun : p.readRun tree p.baseline with
  | mk files measured =>
    rw [hrun] at hbaseline
    cases hbaseline
    cases hlatest : p.readRun tree p.latest with
    | mk more latest =>
      rw [hlatest] at h
      cases latest <;> exact List.mem_append_right _ h

/-- The data phase looks along the paths of the files tried. -/
theorem measure_congr (h : ∀ path ∈ (p.measure tree).1, tree.AgreeAlong tree' path) :
    p.measure tree = p.measure tree' := by
  have hbaseline : p.readRun tree p.baseline = p.readRun tree' p.baseline :=
    readRun_congr fun path hpath => h path (mem_measure_of_baseline hpath)
  have hlatest : ∀ baseline, (p.readRun tree p.baseline).2 = .ok baseline →
      p.readRun tree p.latest = p.readRun tree' p.latest := fun baseline hok =>
    readRun_congr fun path hpath => h path (mem_measure_of_latest hok hpath)
  rw [measure, measure, ← hbaseline]
  cases hrun : p.readRun tree p.baseline with
  | mk files baseline =>
    cases baseline with
    | error e => rfl
    | ok baseline => rw [← hlatest baseline (congrArg Prod.snd hrun)]

end Plan

/-! ## The event -/

/-- A delivery looks along the path of the event, if it needs the event. -/
theorem Job.deliver_congr {d : Delivery} {report : Option String}
    (h : ∀ path ∈ d.touched report, tree.AgreeAlong tree' path) (reply : Reply) :
    deliver d tree reply report = deliver d tree' reply report := by
  cases report with
  | none => rfl
  | some text =>
    by_cases hpull : d.pullRequest = ""
    · simp only [deliver, hpull, if_true]
    have hrequest : d.request tree text = d.request tree' text := by
      unfold Delivery.request
      cases hevent : Delivery.present d.eventPath with
      | none => rfl
      | some path =>
        cases hrepository : Delivery.present d.repository with
        | none => rfl
        | some repository =>
          have hagree : tree.AgreeAlong tree' path := h path (by
            simp [Delivery.touched, hpull, hrepository, hevent])
          have hread : Event.read tree path = Event.read tree' path := by
            rw [Event.read, Event.read, hagree.read_eq]
          simp only [hread]
    simp only [deliver, hpull, if_false, Delivery.send, hrequest]

/-! ## The outcome -/

/-- An outcome is written where its path leads, if something can be written there. -/
theorem Outcome.save_eq (o : Outcome) (order : MemberOrder) (tree : Tree) (path : String) :
    o.save order tree path = ((tree.target path).mapError (Failure.output path)).map fun _ =>
      tree.set (Tree.destination path) (.file (Utf8.encode (o.document order))) := by
  rw [save, Tree.write_eq]
  cases tree.target path <;> rfl

namespace Job

variable {job : Job}

/-- Saving an outcome looks along the path of its file, fails alike, and changes this file. -/
theorem save_congr (h : ∀ path, job.output? = some path → tree.AgreeAlong tree' path)
    (outcome : Outcome) :
    (∃ e, job.save tree outcome = .error e ∧ job.save tree' outcome = .error e) ∨
      ∃ after after', job.save tree outcome = .ok after ∧ job.save tree' outcome = .ok after' ∧
        tree.ChangeAlike job.output? tree' after after' := by
  unfold save
  rw [← output?]
  cases hpath : job.output? with
  | none => exact .inr ⟨tree, tree', rfl, rfl, .unchanged⟩
  | some path =>
    have hagree := h path hpath
    simp only [Outcome.save_eq, ← hagree.target_eq]
    cases tree.target path with
    | error e => exact .inl ⟨_, rfl, rfl⟩
    | ok place => exact .inr ⟨_, _, rfl, rfl, .written path _ rfl hagree⟩

/-! ## The whole job -/

variable {reply : Reply}

/-- A job touches no other paths than those of its plan, of the event and of its outcome. -/
theorem touched_subset : job.touched tree reply ⊆
    [job.plan.baseline.1, job.plan.baseline.2] ++ [job.plan.latest.1, job.plan.latest.2] ++
      (job.delivery.eventPath.toList ++ job.outputPath.toList) := by
  have hevent : ∀ report, job.delivery.touched report ⊆ job.delivery.eventPath.toList := by
    intro report
    unfold Delivery.touched
    split_ifs
    · exact List.nil_subset _
    · exact Delivery.present_toList_subset
  refine append_subset_append Plan.measure_fst_subset ?_
  cases (job.plan.measure tree).2 with
  | error e => exact List.nil_subset _
  | ok m =>
    refine append_subset_append (hevent _) ?_
    cases (deliver job.delivery tree reply m.report).2.2 with
    | error e => exact List.nil_subset _
    | ok commented => exact Delivery.present_toList_subset

/-- A job looks along the paths that it touches, and nowhere else. -/
theorem run_congr (h : ∀ path ∈ job.touched tree reply, tree.AgreeAlong tree' path) :
    Run.SameOn job.output? tree tree' (job.run tree reply) (job.run tree' reply) := by
  have hmeasure : job.plan.measure tree = job.plan.measure tree' :=
    Plan.measure_congr fun path hpath => h path (List.mem_append_left _ hpath)
  rw [run, run, ← hmeasure]
  cases hmeasured : job.plan.measure tree with
  | mk files measured =>
  cases measured with
  | error e => exact ⟨rfl, rfl, rfl, .unchanged⟩
  | ok m =>
    have hafter : ∀ path ∈ job.touchedAfter tree reply m, tree.AgreeAlong tree' path := by
      intro path hpath
      refine h path (List.mem_append_right _ ?_)
      rwa [hmeasured]
    have hdeliver : deliver job.delivery tree reply m.report =
        deliver job.delivery tree' reply m.report :=
      deliver_congr (fun path hpath => hafter path (List.mem_append_left _ hpath)) reply
    simp only [← hdeliver]
    cases hcommented : (deliver job.delivery tree reply m.report).2.2 with
    | error e => exact ⟨rfl, rfl, rfl, .unchanged⟩
    | ok commented =>
      have hout : ∀ path, job.output? = some path → tree.AgreeAlong tree' path := by
        intro path hpath
        refine hafter path (List.mem_append_right _ ?_)
        rw [hcommented, hpath]
        exact List.mem_singleton_self path
      rcases save_congr hout { m with commented } with
        ⟨e, hsave, hsave'⟩ | ⟨after, after', hsave, hsave', hchange⟩
      · simp only [hsave, hsave']
        exact ⟨rfl, rfl, rfl, .unchanged⟩
      · simp only [hsave, hsave']
        exact ⟨rfl, rfl, rfl, hchange⟩

/-- A job without an outcome changes nothing. -/
theorem tree_of_failure {f : Failure} (h : (job.run tree reply).result = .error f) :
    (job.run tree reply).tree = tree := by
  unfold run at h ⊢
  cases hmeasured : job.plan.measure tree with
  | mk files measured =>
  cases measured with
  | error e => rfl
  | ok m =>
    simp only [hmeasured] at h ⊢
    cases hcommented : (deliver job.delivery tree reply m.report).2.2 with
    | error e => rfl
    | ok commented =>
      simp only [hcommented] at h ⊢
      cases hsave : job.save tree { m with commented } with
      | error e => rfl
      | ok after =>
        rw [hsave] at h
        cases h

end Job

end

end BenchGate
