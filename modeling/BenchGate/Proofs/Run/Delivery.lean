import BenchGate.Proofs.Run.Data

/-!
# The one request of a job, and its file

A job that has a measurement makes one request exactly when a report is due
(`Delivery.IsDue`): there is one, there is a pull request, and everything a request needs is there.
`Delivery.request_of_ready` and `Delivery.request_of_not_ready` say which request there is,
`Job.Delivered` lists the four ways in which a delivery ends, and `Job.run_delivers` puts together
what follows for the requests, the result and the files of a whole job.
-/

namespace BenchGate

/-- The reply says that the comment arrived. -/
def Reply.IsAccepted (reply : Reply) : Prop :=
  ∃ code reason, reply = .status code reason ∧ 200 ≤ code ∧ code ≤ 299

/-- The reply is a status, and one that says that the comment did not arrive. -/
def Reply.Refuses (reply : Reply) (code : Nat) : Prop :=
  ∃ reason, reply = .status code reason ∧ ¬(200 ≤ code ∧ code ≤ 299)

namespace Delivery

/-- Everything is there that a request needs. -/
structure IsReady (d : Delivery) (tree : Tree) : Prop where
  event : ∃ path commit, d.eventPath = some path ∧ path ≠ "" ∧ Event.read tree path = .ok commit
  repository : ∃ name, d.repository = some name ∧ name ≠ "" ∧ Repository.isName name = true
  token : d.token ≠ ""

/-- A report has to be posted. -/
structure IsDue (d : Delivery) (tree : Tree) (report : Option String) : Prop where
  report : report ≠ none
  pullRequest : d.pullRequest ≠ ""
  ready : d.IsReady tree

/-! ## Sending -/

section
variable {d : Delivery} {tree : Tree}

theorem present_eq_some_iff {text : Option String} {value : String} :
    present text = some value ↔ text = some value ∧ value ≠ "" := by
  simp [present, Option.filter_eq_some_iff]

/-- When everything is there, there is a request. -/
theorem request_of_ready (report : String) (h : d.IsReady tree) :
    ∃ request, d.request tree report = .ok request ∧ request.method = "POST" := by
  obtain ⟨⟨path, commit, hpath, hpath', hread⟩, ⟨name, hname, hname', hisName⟩, htoken⟩ := h
  have hevent : present d.eventPath = some path := present_eq_some_iff.2 ⟨hpath, hpath'⟩
  have hrepository : present d.repository = some name := present_eq_some_iff.2 ⟨hname, hname'⟩
  simp only [request, hevent, hrepository, hread, Channel.create, htoken, hisName, if_false,
    Bool.not_true, Bool.false_eq_true]
  exact ⟨_, rfl, rfl⟩

/-- When something is missing, there is none, and the failure has no status. -/
theorem request_of_not_ready (report : String) (h : ¬d.IsReady tree) :
    ∃ e, d.request tree report = .error e ∧ e.status? = none := by
  unfold request
  cases hevent : present d.eventPath with
  | none => exact ⟨_, rfl, rfl⟩
  | some path =>
    cases hrepository : present d.repository with
    | none => exact ⟨_, rfl, rfl⟩
    | some name =>
      cases hread : Event.read tree path with
      | error cause => exact ⟨.event cause, by simp only [hread], rfl⟩
      | ok commit =>
        simp only [hread, Channel.create]
        rw [present_eq_some_iff] at hevent hrepository
        split_ifs with htoken hname
        · exact ⟨_, rfl, rfl⟩
        · exact ⟨_, rfl, rfl⟩
        · refine absurd ⟨⟨path, commit, hevent.1, hevent.2, hread⟩,
            ⟨name, hrepository.1, hrepository.2, ?_⟩, htoken⟩ h
          simpa using hname

end

end Delivery

/-- What a reply says about the comment. -/
theorem Reply.result_cases (reply : Reply) :
    (reply.IsAccepted ∧ reply.result = .ok ()) ∨
      (¬reply.IsAccepted ∧ ∃ e, reply.result = .error e ∧
        ∀ code, e.status? = some code ↔ reply.Refuses code) := by
  cases reply with
  | status code reason =>
    by_cases hcode : 200 ≤ code ∧ code ≤ 299
    · exact .inl ⟨⟨code, reason, rfl, hcode⟩, if_pos hcode⟩
    · refine .inr ⟨?_, .refused code reason, if_neg hcode, fun code' => ?_⟩
      · rintro ⟨code', reason', h, hcode'⟩
        cases h
        exact hcode hcode'
      · constructor
        · intro h
          cases h
          exact ⟨reason, rfl, hcode⟩
        · rintro ⟨reason', h, -⟩
          cases h
          rfl
  | failure reason =>
    refine .inr ⟨?_, _, rfl, fun code => ?_⟩
    · rintro ⟨code, reason', h, -⟩
      cases h
    · constructor
      · intro h
        cases h
      · rintro ⟨reason', h, -⟩
        cases h

namespace Job

/-! ## The four ends of a delivery -/

/-- How a delivery may end: the requests made, and whether a comment was posted. -/
inductive Delivered (d : Delivery) (tree : Tree) (reply : Reply) (report : Option String) :
    List Request → Except DeliveryError Bool → Prop where
  | notAsked (h : report = none ∨ d.pullRequest = "") :
    Delivered d tree reply report [] (.ok false)
  | notReady (e : DeliveryError) (hreport : report ≠ none) (hpull : d.pullRequest ≠ "")
      (h : ¬d.IsReady tree) (hstatus : e.status? = none) :
    Delivered d tree reply report [] (.error e)
  | notAccepted (request : Request) (e : DeliveryError) (hdue : d.IsDue tree report)
      (hmethod : request.method = "POST") (h : ¬reply.IsAccepted)
      (hstatus : ∀ code, e.status? = some code ↔ reply.Refuses code) :
    Delivered d tree reply report [request] (.error e)
  | posted (request : Request) (hdue : d.IsDue tree report)
      (hmethod : request.method = "POST") (h : reply.IsAccepted) :
    Delivered d tree reply report [request] (.ok true)

/-- Every delivery ends in one of these ways. -/
theorem deliver_delivered (d : Delivery) (tree : Tree) (reply : Reply) (report : Option String) :
    Delivered d tree reply report (deliver d tree reply report).2.1
      (deliver d tree reply report).2.2 := by
  cases report with
  | none => exact .notAsked (.inl rfl)
  | some text =>
    by_cases hpull : d.pullRequest = ""
    · simp only [deliver, if_pos hpull]
      exact .notAsked (.inr hpull)
    simp only [deliver, if_neg hpull, Delivery.send]
    by_cases hready : d.IsReady tree
    · have hdue : d.IsDue tree (some text) := ⟨Option.some_ne_none text, hpull, hready⟩
      obtain ⟨request, hrequest, hmethod⟩ := Delivery.request_of_ready text hready
      rw [hrequest]
      rcases reply.result_cases with ⟨hyes, hok⟩ | ⟨hno, e, he, hstatus⟩
      · simp only [hok]
        exact .posted request hdue hmethod hyes
      · simp only [he]
        exact .notAccepted request e hdue hmethod hno hstatus
    · obtain ⟨e, he, hstatus⟩ := Delivery.request_of_not_ready text hready
      rw [he]
      exact .notReady e (Option.some_ne_none text) hpull hready hstatus

/-! ## The file -/

section
variable {job : Job} {tree : Tree} {outcome : Outcome} {path : String}

/-- Without a path nothing is saved. -/
theorem save_of_no_path (h : job.outputPath = none ∨ job.outputPath = some "") :
    job.save tree outcome = .ok tree := by
  have habsent : Delivery.present job.outputPath = none := by
    rcases h with h | h <;> rw [h] <;> rfl
  simp only [save, habsent]

/-- At a path that can be written the outcome is saved. -/
theorem save_of_target {place : Location} (h : job.outputPath = some path) (h' : path ≠ "")
    (hplace : tree.target path = .ok place) :
    job.save tree outcome =
      .ok (tree.set place (.file (Utf8.encode (outcome.document .declared)))) := by
  simp only [save, Delivery.present_eq_some_iff.2 ⟨h, h'⟩, Outcome.save, Tree.write, hplace]
  rfl

/-- At a path that cannot be written saving fails. -/
theorem save_of_no_target {cause : FileError} (h : job.outputPath = some path) (h' : path ≠ "")
    (hcause : tree.target path = .error cause) :
    job.save tree outcome = .error (.output path cause) := by
  simp only [save, Delivery.present_eq_some_iff.2 ⟨h, h'⟩, Outcome.save, Tree.write, hcause]
  rfl

end

/-! ## The whole job -/

/-- What a job with a measurement does about its report and its file. -/
structure Delivers (job : Job) (tree : Tree) (m : Measurement) (reply : Reply) (run : Run) :
    Prop where
  /-- A report that is due is posted with one request. -/
  request_of_due : job.delivery.IsDue tree m.report →
    ∃ request, run.requests = [request] ∧ request.method = "POST"
  /-- There is no other request. -/
  no_request : ¬job.delivery.IsDue tree m.report → run.requests = []
  /-- The delivery fails exactly when a report was to be posted and something was missing or the
  comment did not arrive. -/
  fails_iff : (∃ e, run.result = .error (.delivery e)) ↔
    m.report ≠ none ∧ job.delivery.pullRequest ≠ "" ∧
      (¬job.delivery.IsReady tree ∨ ¬reply.IsAccepted)
  /-- The failure has a status exactly when the request was answered with it. -/
  status_iff : ∀ e, run.result = .error (.delivery e) → ∀ code,
    e.status? = some code ↔ job.delivery.IsDue tree m.report ∧ reply.Refuses code
  /-- A delivery that failed changes no file. -/
  tree_of_failure : ∀ e, run.result = .error (.delivery e) → run.tree = tree
  /-- The data are not complained about. -/
  no_dataError : ∀ e, run.result ≠ .error (.data e)
  /-- An outcome says that a comment was posted exactly when there was a request; then the reply
  was that the comment arrived. -/
  commented_iff : ∀ outcome, run.result = .ok outcome →
    (outcome.commented = true ↔ run.requests ≠ []) ∧
      (outcome.commented = true → reply.IsAccepted)
  /-- Without a path no file is written. -/
  unwritten : (∀ e, run.result ≠ .error (.delivery e)) →
    job.outputPath = none ∨ job.outputPath = some "" →
      ∃ outcome, run.result = .ok outcome ∧ run.tree = tree
  /-- At a path that can be written the outcome is written, and nothing else. -/
  written : (∀ e, run.result ≠ .error (.delivery e)) →
    ∀ path place, job.outputPath = some path → path ≠ "" → tree.target path = .ok place →
      ∃ outcome, run.result = .ok outcome ∧
        run.tree = tree.set place (.file (Utf8.encode (outcome.document .declared)))
  /-- At a path that cannot be written the job fails, and all files stay as they are. -/
  unwritable : (∀ e, run.result ≠ .error (.delivery e)) →
    ∀ path cause, job.outputPath = some path → path ≠ "" → tree.target path = .error cause →
      run.result = .error (.output path cause) ∧ run.tree = tree

section
variable {job : Job} {tree : Tree} {files : List String} {m : Measurement} {reply : Reply}

/-- A job whose delivery failed. -/
theorem delivers_of_failure {run : Run} {requests : List Request} {e : DeliveryError}
    (hdelivered : Delivered job.delivery tree reply m.report requests (.error e))
    (hrequests : run.requests = requests) (hresult : run.result = .error (.delivery e))
    (htree : run.tree = tree) : Delivers job tree m reply run where
  request_of_due hdue := by
    cases hdelivered with
    | notReady _ _ _ h _ => exact absurd hdue.ready h
    | notAccepted request _ _ hmethod _ _ => exact ⟨request, hrequests, hmethod⟩
  no_request hdue := by
    cases hdelivered with
    | notReady _ _ _ _ _ => exact hrequests
    | notAccepted _ _ hdue' _ _ _ => exact absurd hdue' hdue
  fails_iff := by
    refine ⟨fun _ => ?_, fun _ => ⟨e, hresult⟩⟩
    cases hdelivered with
    | notReady _ hreport hpull h _ => exact ⟨hreport, hpull, .inl h⟩
    | notAccepted _ _ hdue _ h _ => exact ⟨hdue.report, hdue.pullRequest, .inr h⟩
  status_iff e' he' code := by
    rw [hresult] at he'
    cases he'
    cases hdelivered with
    | notReady _ _ _ h hstatus =>
      rw [hstatus]
      exact ⟨(nomatch ·), fun hdue => absurd hdue.1.ready h⟩
    | notAccepted _ _ hdue _ _ hstatus =>
      exact ⟨fun h => ⟨hdue, (hstatus code).1 h⟩, fun h => (hstatus code).2 h.2⟩
  tree_of_failure _ _ := htree
  no_dataError e' he' := by
    rw [hresult] at he'
    cases he'
  commented_iff outcome houtcome := by
    rw [hresult] at houtcome
    cases houtcome
  unwritten h := absurd hresult (h e)
  written h := absurd hresult (h e)
  unwritable h := absurd hresult (h e)

/-- A job that goes on to its file. -/
theorem delivers_of_success {run : Run} {requests : List Request} {commented : Bool}
    (hdelivered : Delivered job.delivery tree reply m.report requests (.ok commented))
    (hrequests : run.requests = requests)
    (hrun : (run.result, run.tree) =
      match job.save tree { m with commented } with
      | .error e => (.error e, tree)
      | .ok tree => (.ok { m with commented }, tree)) :
    Delivers job tree m reply run := by
  have hresult : run.result = .ok { m with commented } ∨
      ∃ path cause, run.result = .error (.output path cause) := by
    cases hsave : job.save tree { m with commented } with
    | ok tree' =>
      rw [hsave] at hrun
      exact .inl (congrArg Prod.fst hrun)
    | error e =>
      obtain ⟨path, cause, rfl⟩ := save_error hsave
      rw [hsave] at hrun
      exact .inr ⟨path, cause, congrArg Prod.fst hrun⟩
  have hsent : ∀ e, run.result ≠ .error (.delivery e) := fun e he => by
    rcases hresult with h | ⟨path, cause, h⟩ <;> rw [h] at he <;> cases he
  constructor
  case request_of_due =>
    intro hdue
    cases hdelivered with
    | notAsked h => exact absurd h (not_or.2 ⟨hdue.report, hdue.pullRequest⟩)
    | posted request _ hmethod _ => exact ⟨request, hrequests, hmethod⟩
  case no_request =>
    intro hdue
    cases hdelivered with
    | notAsked _ => exact hrequests
    | posted _ hdue' _ _ => exact absurd hdue' hdue
  case fails_iff =>
    refine ⟨fun ⟨e, he⟩ => absurd he (hsent e), fun ⟨hreport, hpull, hfault⟩ => ?_⟩
    cases hdelivered with
    | notAsked h => exact absurd h (not_or.2 ⟨hreport, hpull⟩)
    | posted _ hdue _ h => exact absurd hfault (not_or.2 ⟨not_not.2 hdue.ready, not_not.2 h⟩)
  case status_iff => exact fun e he => absurd he (hsent e)
  case tree_of_failure => exact fun e he => absurd he (hsent e)
  case no_dataError =>
    intro e he
    rcases hresult with h | ⟨path, cause, h⟩ <;> rw [h] at he <;> cases he
  case commented_iff =>
    intro outcome houtcome
    have hcommented : outcome.commented = commented := by
      rcases hresult with h | ⟨path, cause, h⟩ <;> rw [h] at houtcome <;> cases houtcome
      rfl
    rw [hcommented, hrequests]
    cases hdelivered with
    | notAsked _ => exact ⟨by simp, fun h => nomatch h⟩
    | posted _ _ _ h => exact ⟨by simp, fun _ => h⟩
  case unwritten =>
    intro _ hpath
    rw [save_of_no_path hpath] at hrun
    exact ⟨_, congrArg Prod.fst hrun, congrArg Prod.snd hrun⟩
  case written =>
    intro _ path place hpath hpath' hplace
    rw [save_of_target hpath hpath' hplace] at hrun
    exact ⟨_, congrArg Prod.fst hrun, congrArg Prod.snd hrun⟩
  case unwritable =>
    intro _ path cause hpath hpath' hcause
    rw [save_of_no_target hpath hpath' hcause] at hrun
    exact ⟨congrArg Prod.fst hrun, congrArg Prod.snd hrun⟩

/-- The delivery phase of a job. -/
theorem run_delivers (replies : List Reply) (h : job.plan.measure tree = (files, .ok m)) :
    Delivers job tree m (Reply.first replies) (job.run tree (Reply.first replies)) := by
  have hdelivered := deliver_delivered job.delivery tree (Reply.first replies) m.report
  unfold run
  simp only [h]
  cases hsent : (deliver job.delivery tree (Reply.first replies) m.report).2.2 with
  | error e =>
    rw [hsent] at hdelivered
    exact delivers_of_failure hdelivered rfl rfl rfl
  | ok commented =>
    rw [hsent] at hdelivered
    cases hsave : job.save tree { m with commented } with
    | error e =>
      simp only [hsave]
      exact delivers_of_success hdelivered rfl (by simp only [hsave])
    | ok tree' =>
      simp only [hsave]
      exact delivers_of_success hdelivered rfl (by simp only [hsave])

end

/-- Timings of two runs, the second twice as slow, and an event. -/
def sampleTree : Tree :=
  ((({} : Tree).addFile "old.txt" (Utf8.encode "10 1")).addFile "new.txt"
    (Utf8.encode "20 1.5")).addFile "event.json"
      (Utf8.encode "\x7b\"pull_request\": \x7b\"head\": \x7b\"sha\": \"c0ffee\"\x7d\x7d\x7d")

/-- A job that compares these runs, posts what it finds and saves it. -/
def sampleJob : Job where
  plan := { baseline := ("old.txt", "old.txt"), latest := ("new.txt", "new.txt") }
  delivery :=
    { token := "t", pullRequest := "7", eventPath := some "event.json", repository := some "o/r" }
  outputPath := some "report.json"

/-- The comment of the sample is refused: one request is made and no file is written. -/
theorem run_delivers_refused :
    ∃ m, sampleJob.plan.measure sampleTree = (sampleJob.plan.tried Check.inOrder, .ok m) ∧
      sampleJob.delivery.IsDue sampleTree m.report ∧
      Delivers sampleJob sampleTree m (Reply.first [.status 422 "Unprocessable Entity"])
        (sampleJob.run sampleTree (Reply.first [.status 422 "Unprocessable Entity"])) := by
  have hnone : sampleJob.plan.firstFault sampleTree Check.inOrder = none := by decide +kernel
  have hmeasure := Plan.measure_eq sampleJob.plan sampleTree
  rw [hnone] at hmeasure
  have hready : sampleJob.delivery.IsReady sampleTree :=
    ⟨⟨"event.json", Utf16.units "c0ffee", rfl, by decide, by decide +kernel⟩,
      ⟨"o/r", rfl, by decide, by decide +kernel⟩, by decide⟩
  exact ⟨_, hmeasure, ⟨by decide +kernel, by decide, hready⟩, run_delivers _ hmeasure⟩

end Job

end BenchGate
