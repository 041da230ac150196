import BenchGate.Files.Error
import BenchGate.Issue
import BenchGate.Repository
import BenchGate.Thresholds
import BenchGate.Url.Basic

/-!
# Configuration

A configuration has a section of thresholds and a section for the service that receives
comments. `Config.ofDatum` lays a document over the defaults and checks every value; it reports
all values that are wrong, in the order of the sections and their members. A section that is not
a record counts as empty.
-/

namespace BenchGate

/-- Where and how comments are posted. -/
structure GitHub where
  apiUrl : String := "https://api.github.com"
  repository : Option String := none
  accept : String := "application/vnd.github.comfort-fade-preview+json"
deriving Inhabited, DecidableEq

/-- The settings of a run that come from a file. -/
structure Config where
  thresholds : Thresholds := {}
  github : GitHub := {}
deriving Inhabited

/-- Why there is no configuration. -/
inductive ConfigError where
  | unreadable (path : String) (cause : FileError)
  | malformed (text : String)
  | notRecord
  | invalid (issues : List Issue)
deriving DecidableEq, Repr

/-- The text of a failure. -/
def ConfigError.message (explain : Explanations) : ConfigError → String
  | unreadable path cause => "Failed to read config file " ++ path ++ ": " ++ cause.message path
  | malformed text => "Invalid YAML in config file: " ++ explain.yaml text
  | notRecord => "Config file is not a valid YAML object"
  | invalid issues => "Config validation failed: " ++ Issue.summary issues

/-- The members of a section; what is not a record has none. -/
def Config.sectionMembers : Option Datum → List (String × Datum)
  | some (.record members) => members
  | _ => []

namespace Thresholds

/-- The path of a member. -/
def path (name : String) : List String := ["thresholds", name]

/-- A limit that is a number, laid over its default, and the rule it breaks, if any. -/
def limit (members : List (String × Datum)) (name rule : String) (standard : Float)
    (isAllowed : Float → Bool) : Option Float × List Issue :=
  match Datum.expectNumber (path name) ((Datum.lookup members name).or (some (.number standard)))
    with
  | .error issue => (none, [issue])
  | .ok value =>
    (some value, if isAllowed value then [] else [⟨path name, .brokenRule (name ++ rule)⟩])

/-- A factor, which has to be above zero. -/
def ratio (members : List (String × Datum)) (name : String) (standard : Float) :
    Option Float × List Issue :=
  limit members name " must be positive" standard fun value => !(value ≤ 0)

/-- A time, which may be zero. -/
def seconds (members : List (String × Datum)) (name : String) (standard : Float) :
    Option Float × List Issue :=
  limit members name " must not be negative" standard fun value => !(value < 0)

/-- Speedups have to begin at or below the ratio at which slowdowns do. The rule is looked at
only when all five limits are numbers. -/
def orderIssues (t : Thresholds) : List Issue :=
  if t.speedupRatio ≤ t.slowdownRatio then []
  else [⟨path "speedupRatio", .brokenRule "speedupRatio must not exceed slowdownRatio"⟩]

/-- The thresholds of a section. -/
def ofMembers (members : List (String × Datum)) : Except (List Issue) Thresholds :=
  let standard : Thresholds := {}
  let (regressionRatio, a) := ratio members "regressionRatio" standard.regressionRatio
  let (regressionAbsolute, b) := seconds members "regressionAbsolute" standard.regressionAbsolute
  let (slowdownRatio, c) := ratio members "slowdownRatio" standard.slowdownRatio
  let (speedupRatio, d) := ratio members "speedupRatio" standard.speedupRatio
  let (meanRatio, e) := ratio members "meanRatio" standard.meanRatio
  let issues := a ++ b ++ c ++ d ++ e
  match regressionRatio, regressionAbsolute, slowdownRatio, speedupRatio, meanRatio with
  | some regressionRatio, some regressionAbsolute, some slowdownRatio, some speedupRatio,
    some meanRatio =>
    let t : Thresholds :=
      { regressionRatio, regressionAbsolute, slowdownRatio, speedupRatio, meanRatio }
    let issues := issues ++ t.orderIssues
    if issues.isEmpty then .ok t else .error issues
  | _, _, _, _, _ => .error issues

end Thresholds

namespace GitHub

/-- The path of a member. -/
def path (name : String) : List String := ["github", name]

/-- A text, laid over its default, that has to obey a rule. -/
def member (members : List (String × Datum)) (name rule standard : String)
    (isAllowed : String → Bool) : Except Issue String := do
  let value ← Datum.expectText (path name)
    ((Datum.lookup members name).or (some (.text standard)))
  if isAllowed value then .ok value else .error ⟨path name, .brokenRule rule⟩

/-- The repository, which may be absent. -/
def repositoryMember (members : List (String × Datum)) : Except Issue (Option String) := do
  match Datum.lookup members "repository" with
  | none => .ok none
  | some d =>
    let value ← Datum.expectText (path "repository") (some d)
    if Repository.isName value then .ok (some value)
    else .error ⟨path "repository", .brokenRule "repository must look like \"owner/repo\""⟩

/-- The issue of a member that could not be read. -/
def issues {α : Type} : Except Issue α → List Issue
  | .ok _ => []
  | .error issue => [issue]

/-- The service of a section. -/
def ofMembers (members : List (String × Datum)) : Except (List Issue) GitHub :=
  let standard : GitHub := {}
  let apiUrl := member members "apiUrl" "apiUrl must be a URL" standard.apiUrl Url.isValid
  let repository := repositoryMember members
  let accept := member members "accept" "accept must not be empty" standard.accept (· ≠ "")
  match apiUrl, repository, accept with
  | .ok apiUrl, .ok repository, .ok accept => .ok { apiUrl, repository, accept }
  | _, _, _ => .error (issues apiUrl ++ issues repository ++ issues accept)

end GitHub

namespace Config

/-- The configuration of the members of a document. -/
def ofMembers (members : List (String × Datum)) : Except ConfigError Config :=
  let thresholds := Thresholds.ofMembers (sectionMembers (Datum.lookup members "thresholds"))
  let github := GitHub.ofMembers (sectionMembers (Datum.lookup members "github"))
  match thresholds, github with
  | .ok thresholds, .ok github => .ok { thresholds, github }
  | .error a, .error b => .error (.invalid (a ++ b))
  | .error issues, .ok _ | .ok _, .error issues => .error (.invalid issues)

/-- The configuration of a document; an empty document is the default configuration. -/
def ofDatum : Datum → Except ConfigError Config
  | .null => .ok {}
  | .record members => ofMembers members
  | .other _ => ofMembers []
  | _ => .error .notRecord

end Config

end BenchGate
