import BenchGate.Proofs.Delivery.Address
import BenchGate.Proofs.Delivery.Event
import BenchGate.Proofs.Program.Status

/-!
# What the request of a call carries, and where to

Three choices meet in a request: the service comes from its variable before the configuration, the
repository from the arguments, then the configuration, then its variable, and the event from the
arguments before its variable. `Program.Carries` says what they come to, and
`Program.run_request_carries` shows it for every request of every call, together with what the call
prints: the report in the request is the one on the console.
-/

namespace BenchGate

open CommandLine

/-! ## The requests and lines of a job -/

namespace Job

section
variable {job : Job} {d : Delivery} {tree : Tree} {reply : Reply} {files : List String}
  {m : Measurement} {request : Request}

/-- What a delivery requests is a request for the report. -/
theorem mem_deliver_iff {report : Option String} : request ∈ (deliver d tree reply report).2.1 ↔
    ∃ text, report = some text ∧ d.pullRequest ≠ "" ∧ d.request tree text = .ok request := by
  cases report with
  | none => simp [deliver]
  | some text =>
    by_cases hpull : d.pullRequest = ""
    · simp [deliver, hpull]
    · simp only [deliver, hpull, if_false, Delivery.send, Option.some.injEq, exists_eq_left', ne_eq,
        not_false_eq_true, true_and]
      cases d.request tree text with
      | error e => simp
      | ok request' => simp [eq_comm]

section
variable (hpull : d.pullRequest ≠ "")
include hpull

/-- A report that goes somewhere is all that a delivery prints. -/
theorem deliver_lines (report : String) :
    (deliver d tree reply (some report)).1 = [reportLine report] := by
  simp only [deliver, if_neg hpull]

/-- The request for it is all that a delivery requests. -/
theorem deliver_requests {report : String} (h : d.request tree report = .ok request) :
    (deliver d tree reply (some report)).2.1 = [request] := by
  simp only [deliver, if_neg hpull, Delivery.send, h]

end

/-- A job with a measurement requests what its delivery does, and prints the files it reads, the
measurement and what its delivery prints. -/
theorem run_of_measure (h : job.plan.measure tree = (files, .ok m)) :
    (job.run tree reply).requests = (deliver job.delivery tree reply m.report).2.1 ∧
      (job.run tree reply).lines = files.map readingLine ++ m.lines.map (Line.ofText ·) ++
        (deliver job.delivery tree reply m.report).1 := by
  unfold run
  simp only [h]
  split
  · exact ⟨rfl, rfl⟩
  · split <;> exact ⟨rfl, rfl⟩

/-- A job that makes a request has a measurement with a report, and prints that report. -/
theorem of_mem_requests (h : request ∈ (job.run tree reply).requests) :
    ∃ files m report, job.plan.measure tree = (files, .ok m) ∧ m.report = some report ∧
      job.delivery.request tree report = .ok request ∧
      (job.run tree reply).lines =
        files.map readingLine ++ m.lines.map (Line.ofText ·) ++ [reportLine report] := by
  rcases hmeasure : job.plan.measure tree with ⟨files, e | m⟩
  · simp only [run, hmeasure] at h
    cases h
  · obtain ⟨hrequests, hlines⟩ := run_of_measure hmeasure
    rw [hrequests] at h
    obtain ⟨report, hreport, hpull, hrequest⟩ := mem_deliver_iff.1 h
    rw [hreport, deliver_lines hpull] at hlines
    exact ⟨files, m, report, rfl, hreport, hrequest, hlines⟩

/-- A job with a report that is due makes one request. -/
theorem requests_of_due (h : job.plan.measure tree = (files, .ok m))
    (hdue : job.delivery.IsDue tree m.report) :
    ∃ request, (job.run tree reply).requests = [request] := by
  obtain ⟨report, hreport⟩ := Option.ne_none_iff_exists'.1 hdue.report
  obtain ⟨request, hrequest, -⟩ := Delivery.request_of_ready report hdue.ready
  refine ⟨request, ?_⟩
  rw [(run_of_measure h).1, hreport, deliver_requests hdue.pullRequest hrequest]

end

end Job

/-! ## The request of a call -/

namespace Program

/-- A request carries a report and what the arguments, the configuration and the variables say. -/
structure Carries (env : Environment) (tree : Tree) (a : Arguments) (config : Config)
    (report : String) (request : Request) : Prop where
  method : request.method = "POST"
  /-- The address has the parts for the service of the variable, even if that is empty, or else of
  the configuration, for the first repository that is given and for the pull request. -/
  url : ∃ repository address,
    (a.repository.or config.github.repository).or env.repository = some repository ∧
    request.url = Address.url address ∧
    address.IsFor (env.apiUrl.getD config.github.apiUrl) repository a.pullRequest
  authorization : request.authorization = "Token " ++ a.token
  accept : request.accept = config.github.accept
  /-- The body is a text of a document with two members: the report, and the commit that stands in
  the document of the first event that is given, unit by unit. -/
  body : ∃ path content document commit, a.eventPath.or env.eventPath = some path ∧
    tree.read path = .ok content ∧
    Json.Spells (Utf8.decode content).toList (.element document) ∧
    Datum.At document ["pull_request", "head", "sha"] (.text commit) ∧
    Json.Spells request.body.toList (.element (.record
      [("body", .text (Utf16.units report)), ("commit_id", .text commit)]))

/-- The request of a delivery that the arguments, the configuration and the variables ask for. -/
theorem carries_of_request {env : Environment} {tree : Tree} {a : Arguments} {config : Config}
    {report : String} {request : Request}
    (h : (job a config env).delivery.request tree report = .ok request) :
    Carries env tree a config report request := by
  obtain ⟨path, hpath, repository, hrepository, commit, hcommit, htoken, hname, rfl⟩ :=
    Delivery.request_eq_ok_iff.1 h
  obtain ⟨content, hcontent, hparse⟩ := Event.read_eq_ok_iff.1 hcommit
  obtain ⟨document, hdocument, hnames, -⟩ := Event.parse_eq_ok_iff.1 hparse
  have hposts := Channel.request_posts ((job a config env).delivery.channel repository)
    a.pullRequest { body := report, commit }
  constructor
  case method => exact hposts.method
  case url =>
    let settings : Channel.Settings :=
      { token := a.token
        repository
        apiUrl := some (env.apiUrl.getD config.github.apiUrl)
        accept := some config.github.accept }
    have hcreate : Channel.create settings =
        .ok ((job a config env).delivery.channel repository) :=
      Channel.create_eq_ok_iff.2 ⟨htoken, hname, rfl⟩
    obtain ⟨address, haddress, hparts⟩ := Channel.exists_isFor hcreate a.pullRequest
    exact ⟨repository, address, (Delivery.present_eq_some_iff.1 hrepository).1,
      hposts.url.trans haddress, hparts⟩
  case authorization => exact hposts.authorization
  case accept => exact hposts.accept
  case body =>
    exact ⟨path, content, document, commit, (Delivery.present_eq_some_iff.1 hpath).1, hcontent,
      Json.read?_eq_some_iff.1 hdocument, Event.names_iff.1 hnames, hposts.body⟩

/-- Every comment reaches the receiver of its request as it is, whatever characters it is made of.
A call makes a request only for a comparison with a measurement that has a report; the request
carries this report, and the call prints it between the measurement and its last lines. When such a
report is due, there is one request. -/
theorem run_request_carries (env : Environment) (tree : Tree) (replies : List Reply)
    (args : List String) :
    (∀ (c : Channel) (pullRequest : String) (comment : Comment),
      (c.request pullRequest comment).Posts c pullRequest comment) ∧
    (∀ request ∈ (run env tree (Reply.first replies) args).requests,
      ∃ a config files m report last,
        Invocation.ofArgs args = .compare a ∧ loadConfig a env tree = .ok config ∧
        (job a config env).plan.measure tree = (files, .ok m) ∧ m.report = some report ∧
        Carries env tree a config report request ∧
        last = (conclude env.explain ((job a config env).run tree (Reply.first replies)).result).2 ∧
        (run env tree (Reply.first replies) args).out =
          Line.print env.colours
              (files.map (fun path => .ofText ("Reading " ++ path)) ++
                m.lines.map (Line.ofText ·)) ++
            "Sending warnings and errors as a PR comment:\n" ++ report ++ "\n" ++
            Line.print env.colours last) ∧
    ∀ a config files m, Invocation.ofArgs args = .compare a → loadConfig a env tree = .ok config →
      (job a config env).plan.measure tree = (files, .ok m) →
      (job a config env).delivery.IsDue tree m.report →
      ∃ request, (run env tree (Reply.first replies) args).requests = [request] := by
  refine ⟨Channel.request_posts, fun request hmem => ?_,
    fun a config files m hargs hconfig h hdue => ?_⟩
  · unfold run at hmem ⊢
    cases hargs : Invocation.ofArgs args with
    | compare a =>
      simp only [hargs, compare] at hmem ⊢
      cases hconfig : loadConfig a env tree with
      | error e =>
        simp only [hconfig] at hmem
        cases hmem
      | ok config =>
        simp only [hconfig] at hmem ⊢
        obtain ⟨files, m, report, hmeasure, hreport, hrequest, hlines⟩ := Job.of_mem_requests hmem
        refine ⟨a, config, files, m, report, _, rfl, hconfig, hmeasure, hreport,
          carries_of_request hrequest, rfl, ?_⟩
        simp only [hlines, Line.print_append, Job.reportLine, Line.print_ofText,
          String.append_assoc]
        rfl
    | version | help | noSuchCommand | refused =>
      simp only [hargs, say] at hmem
      cases hmem
  · simp only [run, hargs, compare, hconfig]
    exact Job.requests_of_due h hdue

/-- The variables of a call that names its repository: an address, and another repository. -/
def sampleEnvironment : Environment where
  directory := "/"
  apiUrl := some "https://h/v3/"
  repository := some "x/y"

/-- The sample call makes one request there. The address of the variable stands before the one of
the configuration, and the repository of the call before that of the variable. -/
theorem run_request_carries_sample :
    ∃ config report request, Invocation.ofArgs sampleArgs = .compare sampleArguments ∧
      (run sampleEnvironment Job.sampleTree (Reply.first []) sampleArgs).requests = [request] ∧
      Carries sampleEnvironment Job.sampleTree sampleArguments config report request ∧
      request.url = "https://h/v3/repos/o/r/issues/7/comments" := by
  have hurls : (run sampleEnvironment Job.sampleTree (Reply.first []) sampleArgs).requests.map
      Request.url = ["https://h/v3/repos/o/r/issues/7/comments"] := by decide +kernel
  obtain ⟨request, hmem, hurl⟩ := List.mem_map.1 (hurls ▸ List.mem_singleton.2 rfl)
  obtain ⟨-, hcarries, hone⟩ :=
    run_request_carries sampleEnvironment Job.sampleTree [] sampleArgs
  obtain ⟨a, config, files, m, report, _, hargs, hconfig, hmeasure, hreport, hcarries, -, -⟩ :=
    hcarries request hmem
  obtain rfl : sampleArguments = a := Invocation.compare.inj hargs
  have hready : (job sampleArguments config sampleEnvironment).delivery.IsReady Job.sampleTree :=
    ⟨⟨"event.json", Utf16.units "c0ffee", rfl, by decide, by decide +kernel⟩,
      ⟨"o/r", rfl, by decide, by decide +kernel⟩, (by decide : sampleArguments.token ≠ "")⟩
  obtain ⟨request', hrequest'⟩ := hone _ _ _ _ hargs hconfig hmeasure
    ⟨hreport ▸ Option.some_ne_none report, (by decide : sampleArguments.pullRequest ≠ ""), hready⟩
  obtain rfl : request = request' := List.mem_singleton.1 (hrequest' ▸ hmem)
  exact ⟨config, report, request, hargs, hrequest', hcarries, hurl⟩

end Program

end BenchGate
