import BenchGate.Proofs.Run.Stages

/-!
# What the result of a job does not depend on

Two runs of jobs with the same plan on the same files come to the same comparison, wherever the
report and the outcome go and whatever the replies are: `Job.run_samePlan` says so of their results,
by the ways in which both may end (`Job.Ends`). Two runs that differ in their tokens do the same
altogether, up to the authorization of a request (`Job.run_sameButToken`), since every stage with
another token makes the same requests with another authorization (`Channel.create_withToken`,
`Delivery.request_withToken`, `Delivery.send_withToken`, `Job.deliver_withToken`).
-/

namespace BenchGate

/-! ## Two jobs with one plan -/

/-- Two results of one comparison. They may differ in what became of the report and of the outcome,
and in nothing else. -/
structure SameComparison (result result' : Except Failure Outcome) : Prop where
  /-- Both fail with the same complaint about the data, or none does. -/
  data_iff : ∀ e, result = .error (.data e) ↔ result' = .error (.data e)
  /-- Two outcomes differ at most in whether a comment was posted. -/
  outcome : ∀ o o', result = .ok o → result' = .ok o' → o' = { o with commented := o'.commented }
  /-- If one comparison fails, the other one fails for the same reasons, or its report or its
  outcome did not arrive. -/
  failing : ∀ o, result = .ok o → o.verdict.passed = false →
    (∃ o', result' = .ok o' ∧ o'.verdict = o.verdict) ∨ (∃ e, result' = .error (.delivery e)) ∨
      ∃ path e, result' = .error (.output path e)
  /-- So the other one does not pass. -/
  not_passing : ∀ o, result = .ok o → o.verdict.passed = false →
    ¬∃ o', result' = .ok o' ∧ o'.verdict.passed = true

namespace Job

section
variable {job job' : Job} {tree : Tree}

/-- What follows for two results when both come from one data phase. -/
theorem Ends.sameComparison {measured : Except DataError Measurement}
    {result result' : Except Failure Outcome} (h : Ends measured result)
    (h' : Ends measured result') : SameComparison result result' := by
  have houtcome : ∀ o o', result = .ok o → result' = .ok o' →
      o'.toMeasurement = o.toMeasurement := by
    rintro o o' rfl rfl
    exact Except.ok.inj (h'.measured_eq.symm.trans h.measured_eq)
  constructor
  case data_iff => exact fun e => h.data_iff.trans h'.data_iff.symm
  case outcome =>
    intro o o' ho ho'
    rw [← houtcome o o' ho ho']
  case failing =>
    rintro o rfl -
    rw [h.measured_eq] at h'
    cases h' with
    | delivery _ e => exact .inr (.inl ⟨e, rfl⟩)
    | output _ path e => exact .inr (.inr ⟨path, e, rfl⟩)
    | outcome _ commented => exact .inl ⟨_, rfl, rfl⟩
  case not_passing =>
    rintro o ho hfails ⟨o', ho', hpasses⟩
    rw [houtcome o o' ho ho', hfails] at hpasses
    cases hpasses

/-- Jobs with the same plan come to the same comparison, whatever they do with it and whatever is
replied. -/
theorem run_samePlan (h : job.plan = job'.plan) (replies replies' : List Reply) :
    SameComparison (job.run tree (Reply.first replies)).result
      (job'.run tree (Reply.first replies')).result := by
  have hends' := run_ends job' tree (Reply.first replies')
  rw [← h] at hends'
  exact (run_ends job tree (Reply.first replies)).sameComparison hends'

/-- A job with the plan of the sample job that posts nothing and saves nothing. -/
def silentJob : Job where
  plan := sampleJob.plan
  delivery := { token := "", pullRequest := "" }

/-- The silent job fails its run, and so the sample job, whose comment is refused, does not pass. -/
theorem run_samePlan_silent : sampleJob.plan = silentJob.plan ∧
    (silentJob.run sampleTree (Reply.first [])).result.toOption.map (·.verdict.passed) =
      some false ∧
    SameComparison (silentJob.run sampleTree (Reply.first [])).result
      (sampleJob.run sampleTree (Reply.first [.status 422 "Unprocessable Entity"])).result := by
  have hplan : silentJob.plan = sampleJob.plan := rfl
  exact ⟨hplan.symm, by decide +kernel, run_samePlan hplan _ _⟩

end

end Job

/-! ## Two tokens -/

/-- A request with another authorization. -/
def Request.withAuthorization (authorization : String) (request : Request) : Request :=
  { request with authorization }

/-- A delivery with another token. -/
def Delivery.withToken (token : String) (d : Delivery) : Delivery := { d with token }

/-- A job with another token. -/
def Job.withToken (token : String) (job : Job) : Job :=
  { job with delivery := job.delivery.withToken token }

/-- The requests of two runs with two tokens: they are the same up to their authorization, which is
that of the tokens. -/
structure Request.SameButToken (token token' : String) (request request' : Request) : Prop where
  url : request'.url = request.url
  method : request'.method = request.method
  accept : request'.accept = request.accept
  contentType : request'.contentType = request.contentType
  body : request'.body = request.body
  authorization : request.authorization = "Token " ++ token
  authorization' : request'.authorization = "Token " ++ token'

/-- Two runs with two tokens print the same, leave the same files, have the same result and make the
same requests up to their authorization. -/
structure Run.SameButToken (token token' : String) (run run' : Run) : Prop where
  lines : run'.lines = run.lines
  tree : run'.tree = run.tree
  result : run'.result = run.result
  requests : List.Forall₂ (Request.SameButToken token token') run.requests run'.requests

section
variable {token : String} (htoken : token ≠ "")
include htoken

/-- With another token, settings make the same channel with that token, or fail as before. -/
theorem Channel.create_withToken {s : Settings} (h : s.token ≠ "") :
    create { s with token } = (create s).map fun c => { c with token } := by
  unfold create
  simp only [if_neg h, if_neg htoken]
  split_ifs <;> rfl

namespace Delivery

variable {d : Delivery} (h : d.token ≠ "") (tree : Tree)
include h

/-- With another token, a delivery makes the same request with another authorization. -/
theorem request_withToken (report : String) : (d.withToken token).request tree report =
    (d.request tree report).map (Request.withAuthorization ("Token " ++ token)) := by
  unfold request
  simp only [withToken]
  cases present d.eventPath with
  | none => rfl
  | some path =>
    cases present d.repository with
    | none => rfl
    | some repository =>
      simp only
      cases Event.read tree path with
      | error cause => rfl
      | ok commit =>
        simp only
        rw [Channel.create_withToken (s := ⟨d.token, repository,
          some (d.apiUrl.getD d.github.apiUrl), some d.github.accept⟩) htoken h]
        cases Channel.create _ <;> rfl

theorem send_withToken (reply : Reply) (report : String) :
    (d.withToken token).send tree reply report =
      ((d.send tree reply report).1.map (Request.withAuthorization ("Token " ++ token)),
        (d.send tree reply report).2) := by
  unfold send
  rw [request_withToken htoken h]
  cases d.request tree report <;> rfl

end Delivery

namespace Job

variable (tree : Tree) (reply : Reply)

theorem deliver_withToken {d : Delivery} (h : d.token ≠ "") (report : Option String) :
    deliver (d.withToken token) tree reply report =
      ((deliver d tree reply report).1,
        (deliver d tree reply report).2.1.map (Request.withAuthorization ("Token " ++ token)),
        (deliver d tree reply report).2.2) := by
  cases report with
  | none => rfl
  | some text =>
    simp only [deliver, Delivery.send_withToken htoken h]
    by_cases hpull : d.pullRequest = ""
    · simp only [Delivery.withToken, hpull, if_true, List.map_nil]
    · simp only [Delivery.withToken, hpull, if_false]

/-- With another token, a job does the same, but for the authorization of its requests. -/
theorem run_withToken {job : Job} (h : job.delivery.token ≠ "") :
    (job.withToken token).run tree reply =
      { job.run tree reply with
        requests := (job.run tree reply).requests.map
          (Request.withAuthorization ("Token " ++ token)) } := by
  have hplan : (job.withToken token).plan = job.plan := rfl
  have hdelivery : (job.withToken token).delivery = job.delivery.withToken token := rfl
  have hsave : ∀ outcome, (job.withToken token).save tree outcome = job.save tree outcome :=
    fun _ => rfl
  unfold run
  simp only [hplan, hdelivery, hsave, deliver_withToken htoken tree reply h]
  obtain ⟨files, measured⟩ := job.plan.measure tree
  cases measured with
  | error e => rfl
  | ok m =>
    simp only
    cases (deliver job.delivery tree reply m.report).2.2 with
    | error e => rfl
    | ok commented =>
      simp only
      cases job.save tree { m with commented } <;> rfl

end Job

end

namespace Job

/-- A token shows in the authorization of a request and nowhere else. -/
theorem run_sameButToken {job : Job} {token : String} (h : job.delivery.token ≠ "")
    (htoken : token ≠ "") (tree : Tree) (replies : List Reply) :
    Run.SameButToken job.delivery.token token (job.run tree (Reply.first replies))
      ((job.withToken token).run tree (Reply.first replies)) := by
  rw [run_withToken htoken tree _ h]
  refine ⟨rfl, rfl, rfl, ?_⟩
  rw [List.forall₂_map_right_iff, List.forall₂_same]
  intro request hrequest
  refine ⟨rfl, rfl, rfl, rfl, rfl, ?_, rfl⟩
  -- with its own token the job makes its own requests
  have hown := congrArg Run.requests (run_withToken h tree (Reply.first replies) h)
  rw [show job.withToken job.delivery.token = job from rfl] at hown
  obtain ⟨request', -, rfl⟩ := List.mem_map.1 (hown ▸ hrequest)
  rfl

/-- The sample job with two tokens: both times one request is made. -/
theorem run_sameButToken_sample :
    (sampleJob.delivery.token ≠ "" ∧ "another" ≠ "") ∧
      (sampleJob.run sampleTree (Reply.first [])).requests.length = 1 ∧
      Run.SameButToken "t" "another" (sampleJob.run sampleTree (Reply.first []))
        ((sampleJob.withToken "another").run sampleTree (Reply.first [])) := by
  have htoken : sampleJob.delivery.token ≠ "" := by decide
  have hanother : "another" ≠ "" := by decide
  exact ⟨⟨htoken, hanother⟩, by decide +kernel, run_sameButToken htoken hanother sampleTree []⟩

end Job

end BenchGate
