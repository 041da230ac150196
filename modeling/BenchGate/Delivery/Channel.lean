import BenchGate.Config.Basic
import BenchGate.Delivery.Event
import BenchGate.Json.Writer

/-!
# Posting comments

A channel posts comments to the pull requests of one repository. `Channel.request` is the whole
of what is sent, so that it can be read off without sending it; the token stands in the
authorization of a request and nowhere else. A reply is good exactly when its status is from 200
to 299.
-/

namespace BenchGate

/-- Why a comment was not posted. -/
inductive DeliveryError where
  | noEventPath
  | noRepository
  | event (cause : EventError)
  | emptyToken
  | badRepository (given : String)
  | unreachable (reason : String)
  | refused (status : Nat) (reason : String)
deriving DecidableEq, Repr

namespace DeliveryError

/-- The text of a failure. -/
def message (explain : Explanations) : DeliveryError → String
  | noEventPath => "No event payload path given: set GITHUB_EVENT_PATH or pass --event-path"
  | noRepository =>
    "No repository given: set GITHUB_REPOSITORY, github.repository or --repository"
  | event cause => cause.message explain
  | emptyToken => "GitHub token must not be empty"
  | badRepository given => "Repository must look like \"owner/repo\", got \"" ++ given ++ "\""
  | unreachable reason => "GitHub comment request failed: " ++ reason
  | refused status reason =>
    "GitHub comment request failed: " ++ toString status ++ " " ++ reason

/-- The status of the reply, if there was one. -/
def status? : DeliveryError → Option Nat
  | refused status _ => some status
  | _ => none

end DeliveryError

/-- A comment on a commit of a pull request. -/
structure Comment where
  body : String
  commit : List UInt16
deriving DecidableEq

/-- The text of a comment as it is sent. -/
def Comment.payload (c : Comment) : String :=
  Json.write .compact (.record [("body", Json.ofText c.body), ("commit_id", .text c.commit)])

/-- What is sent over the network. -/
structure Request where
  url : String
  method : String
  authorization : String
  accept : String
  contentType : String
  body : String
deriving DecidableEq

/-- What comes back: a status, or a failure, which may come without a reason. -/
inductive Reply where
  | status (code : Nat) (reason : String)
  | failure (reason : Option String)
deriving DecidableEq

namespace Reply

/-- The reply of a service that accepts a comment. -/
def created : Reply := .status 201 "Created"

/-- The reply to the first request of a run. A service that nothing more is known of accepts. -/
def first (replies : List Reply) : Reply := replies.headD created

/-- Whether a comment arrived. -/
def result : Reply → Except DeliveryError Unit
  | status code reason =>
    if 200 ≤ code ∧ code ≤ 299 then .ok () else .error (.refused code reason)
  | failure reason => .error (.unreachable (reason.getD "Unknown error"))

end Reply

/-- What a channel is made from; what is absent has the default. -/
structure Channel.Settings where
  token : String
  repository : String
  apiUrl : Option String := none
  accept : Option String := none
deriving DecidableEq

/-- A way to post comments to a repository. -/
structure Channel where
  token : String
  repository : String
  apiUrl : String
  accept : String
deriving DecidableEq

namespace Channel

/-- What messages call this kind of channel. -/
def name : String := "github"

/-- The channel of some settings. The token is looked at first. -/
def create (s : Settings) : Except DeliveryError Channel :=
  let standard : GitHub := {}
  if s.token = "" then .error .emptyToken
  else if !Repository.isName s.repository then .error (.badRepository s.repository)
  else
    .ok {
      token := s.token
      repository := s.repository
      apiUrl := s.apiUrl.getD standard.apiUrl
      accept := s.accept.getD standard.accept }

/-- An address without the slashes at its end. -/
def baseUrl (apiUrl : String) : String :=
  .ofList ((apiUrl.toList.reverse.dropWhile (· = '/')).reverse)

/-- Where the comments of a pull request are posted. -/
def commentsUrl (c : Channel) (pullRequest : String) : String :=
  baseUrl c.apiUrl ++ "/repos/" ++ c.repository ++ "/issues/" ++ Percent.encode pullRequest ++
    "/comments"

/-- What is sent to post a comment. -/
def request (c : Channel) (pullRequest : String) (comment : Comment) : Request where
  url := c.commentsUrl pullRequest
  method := "POST"
  authorization := "Token " ++ c.token
  accept := c.accept
  contentType := "application/json"
  body := comment.payload

end Channel

end BenchGate
