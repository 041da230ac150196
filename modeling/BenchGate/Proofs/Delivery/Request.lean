import BenchGate.Proofs.Json.Document
import BenchGate.Proofs.Run.Delivery

/-!
# Requests, read by who receives them

A request of a channel says what it should when its receiver finds the comment in it:
`Request.Posts` says which document its body is a text of, and `Channel.request_posts` shows that
every comment arrives so, whatever it is made of. `Delivery.request_eq_ok_iff` says which
channel and which comment the request of a delivery has; the commit is the one that the event names
(`Event.Names`, `Event.read_eq_ok_iff`).
-/

namespace BenchGate

/-! ## The commit of an event -/

namespace Datum

variable {τ : Type} {path : List String} {d : Option (Datum τ)}

theorem expectRecord_eq_ok_iff {members : List (String × Datum τ)} :
    expectRecord path d = .ok members ↔ d = some (.record members) := by
  unfold expectRecord
  split
  · simp
  · next h => exact ⟨nofun, fun hd => absurd hd (h members)⟩

theorem expectText_eq_ok_iff {value : τ} :
    expectText path d = .ok value ↔ d = some (.text value) := by
  unfold expectText
  split
  · simp
  · next h => exact ⟨nofun, fun hd => absurd hd (h value)⟩

end Datum

namespace Event

/-- A document has this text at `pull_request.head.sha`. -/
def Names (document : Json.Document) (commit : List UInt16) : Prop :=
  ∃ event request head, document = .record event ∧
    Datum.lookup event "pull_request" = some (.record request) ∧
    Datum.lookup request "head" = some (.record head) ∧
    Datum.lookup head "sha" = some (.text commit)

/-- The commit of a document is the text there, if it is not empty. -/
theorem headCommit_eq_ok_iff {document : Json.Document} {commit : List UInt16} :
    headCommit document = .ok commit ↔ Names document commit ∧ commit ≠ [] := by
  have hcommit : ∀ value : List UInt16,
      (if value = [] then
        Except.error (⟨["pull_request", "head", "sha"], .brokenRule
          "Head commit SHA must not be empty"⟩ : Issue)
      else .ok value) = .ok commit ↔ value = commit ∧ commit ≠ [] := by
    intro value
    split_ifs with h
    · exact ⟨nofun, fun ⟨h', hne⟩ => absurd (h'.symm.trans h) hne⟩
    · simp only [Except.ok.injEq]
      exact ⟨fun h' => ⟨h', h' ▸ h⟩, And.left⟩
  simp only [headCommit, bind, Except.bind_eq_ok_iff, Datum.expectRecord_eq_ok_iff,
    Datum.expectText_eq_ok_iff, hcommit, Option.some.injEq, Names]
  constructor
  · rintro ⟨event, hevent, request, hrequest, head, hhead, _, hsha, rfl, hne⟩
    exact ⟨⟨event, request, head, hevent, hrequest, hhead, hsha⟩, hne⟩
  · rintro ⟨⟨event, request, head, hevent, hrequest, hhead, hsha⟩, hne⟩
    exact ⟨event, hevent, request, hrequest, head, hhead, commit, hsha, rfl, hne⟩

/-- The commit of a text is that of the document it holds. -/
theorem parse_eq_ok_iff {text : String} {commit : List UInt16} : parse text = .ok commit ↔
    ∃ document, Json.read? text = some document ∧ Names document commit ∧ commit ≠ [] := by
  unfold parse
  cases hread : Json.read? text with
  | none => simp
  | some document =>
    simp only [Option.some.injEq, exists_eq_left', ← headCommit_eq_ok_iff]
    cases headCommit document <;> simp

/-- The commit of a file is that of its text. -/
theorem read_eq_ok_iff {tree : Tree} {path : String} {commit : List UInt16} :
    read tree path = .ok commit ↔
    ∃ content, tree.read path = .ok content ∧ parse (Utf8.decode content) = .ok commit := by
  unfold read
  cases tree.read path <;> simp

end Event

/-! ## The parts of a request -/

/-- A request brings a comment to a pull request over a channel. Its body is a text of the JSON
grammar with two members, in which the comment and its commit stand unit by unit. -/
structure Request.Posts (request : Request) (c : Channel) (pullRequest : String)
    (comment : Comment) : Prop where
  method : request.method = "POST"
  url : request.url = c.commentsUrl pullRequest
  authorization : request.authorization = "Token " ++ c.token
  accept : request.accept = c.accept
  contentType : request.contentType = "application/json"
  body : Json.Spells request.body.toList (.element (.record
    [("body", .text (Utf16.units comment.body)), ("commit_id", .text comment.commit)]))

/-- Whatever a comment says, its request brings it. -/
theorem Channel.request_posts (c : Channel) (pullRequest : String) (comment : Comment) :
    (c.request pullRequest comment).Posts c pullRequest comment where
  method := rfl
  url := rfl
  authorization := rfl
  accept := rfl
  contentType := rfl
  body := Json.read?_eq_some_iff.1 (Json.read?_write .compact _)

/-- When settings make a channel, and which one. -/
theorem Channel.create_eq_ok_iff {s : Settings} {c : Channel} : create s = .ok c ↔
    s.token ≠ "" ∧ Repository.isName s.repository = true ∧
      c = { token := s.token
            repository := s.repository
            apiUrl := s.apiUrl.getD ({} : GitHub).apiUrl
            accept := s.accept.getD ({} : GitHub).accept } := by
  unfold create
  split_ifs with htoken hname
  · exact ⟨nofun, fun h => absurd htoken h.1⟩
  · rw [Bool.not_eq_true'] at hname
    exact ⟨nofun, fun h => absurd h.2.1 (hname ▸ Bool.false_ne_true)⟩
  · rw [Bool.not_eq_true', Bool.not_eq_false] at hname
    simp only [Except.ok.injEq, ne_eq, htoken, not_false_eq_true, hname, true_and]
    exact eq_comm

namespace Delivery

/-- The channel that a delivery uses for a repository. An address of its own comes before the one of
the configuration, even an empty one. -/
def channel (d : Delivery) (repository : String) : Channel where
  token := d.token
  repository := repository
  apiUrl := d.apiUrl.getD d.github.apiUrl
  accept := d.github.accept

/-- Which request a delivery makes for a report. -/
theorem request_eq_ok_iff {d : Delivery} {tree : Tree} {report : String} {request : Request} :
    d.request tree report = .ok request ↔
      ∃ path, present d.eventPath = some path ∧ ∃ repository,
        present d.repository = some repository ∧ ∃ commit, Event.read tree path = .ok commit ∧
          d.token ≠ "" ∧ Repository.isName repository = true ∧
          request = (d.channel repository).request d.pullRequest { body := report, commit } := by
  unfold Delivery.request
  cases present d.eventPath with
  | none => simp
  | some path =>
    cases present d.repository with
    | none => simp
    | some repository =>
      simp only [Option.some.injEq, exists_eq_left']
      cases Event.read tree path with
      | error cause => simp
      | ok commit =>
        simp only [Except.ok.injEq, exists_eq_left']
        have hcreate := @Channel.create_eq_ok_iff
          { token := d.token
            repository
            apiUrl := some (d.apiUrl.getD d.github.apiUrl)
            accept := some d.github.accept }
        split
        · next e he =>
          refine ⟨nofun, fun ⟨htoken, hname, _⟩ => ?_⟩
          cases he.symm.trans (hcreate.2 ⟨htoken, hname, rfl⟩)
        · next c hc =>
          obtain ⟨htoken, hname, rfl⟩ := hcreate.1 hc
          simp only [Except.ok.injEq, ne_eq, htoken, not_false_eq_true, hname, true_and]
          exact eq_comm

end Delivery

end BenchGate
