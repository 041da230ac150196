import BenchGate.Delivery.Channel

/-!
# Sending the report

A report goes to a pull request as a comment on the commit that the event names. What is missing
is looked for in a fixed order, and nothing is sent unless everything is there; then exactly one
request is.
-/

namespace BenchGate

/-- Where a report goes. An empty pull request means nowhere; an empty path or repository counts
as none. -/
structure Delivery where
  token : String
  pullRequest : String
  eventPath : Option String := none
  repository : Option String := none
  apiUrl : Option String := none
  github : GitHub := {}
deriving DecidableEq

namespace Delivery

/-- A text that is there and not empty. -/
def present (text : Option String) : Option String := text.filter (· ≠ "")

/-- The request that posts a report, if everything it needs is there. -/
def request (d : Delivery) (tree : Tree) (report : String) : Except DeliveryError Request :=
  match present d.eventPath with
  | none => .error .noEventPath
  | some eventPath =>
    match present d.repository with
    | none => .error .noRepository
    | some repository =>
      match Event.read tree eventPath with
      | .error cause => .error (.event cause)
      | .ok commit =>
        match Channel.create {
          token := d.token
          repository
          apiUrl := some (d.apiUrl.getD d.github.apiUrl)
          accept := some d.github.accept } with
        | .error e => .error e
        | .ok channel => .ok (channel.request d.pullRequest { body := report, commit })

/-- The requests made for a report, and whether the comment arrived. -/
def send (d : Delivery) (tree : Tree) (reply : Reply) (report : String) :
    List Request × Except DeliveryError Unit :=
  match d.request tree report with
  | .error e => ([], .error e)
  | .ok request => ([request], reply.result)

end Delivery

end BenchGate
