import BenchGate.Proofs.Config.Thresholds
import BenchGate.Proofs.Result
import BenchGate.Proofs.Text.Words

/-!
# The schema of a configuration

A document is a configuration exactly when its two sections, laid over the defaults, obey the rules
for their eight members and speedups begin at or below slowdowns. `GitHub.ofMembers_eq_ok_iff` and
`GitHub.ofMembers_eq_error_iff` say for the service what the lemmas of the same names say for the
thresholds. `Config.ofDatum_follows_rules` puts both sections together: which configuration a
document gives, that it gives itself when it is read again, and which issues are reported.
-/

namespace BenchGate

namespace Repository

/-- Two names with a slash between them, of ASCII letters, digits, `_`, `.` and `-`. -/
def HasName (text : String) : Prop :=
  ∃ owner name, text.toList = owner ++ '/' :: name ∧ owner ≠ [] ∧ name ≠ [] ∧
    ∀ c ∈ owner ++ name, c.isAlphanum = true ∨ c ∈ ['_', '.', '-']

theorem isNameChar_iff {c : Char} :
    isNameChar c = true ↔ c.isAlphanum = true ∨ c ∈ ['_', '.', '-'] := by
  simp [isNameChar, or_assoc]

theorem isName_iff {text : String} : isName text = true ↔ HasName text := by
  unfold HasName
  simp only [← isNameChar_iff]
  unfold isName
  constructor
  · intro h
    split at h
    next owner rest hspan =>
    split at h
    · next name =>
      rw [List.span_eq_takeWhile_dropWhile, Prod.mk.injEq] at hspan
      obtain ⟨rfl, hdrop⟩ := hspan
      simp only [Bool.and_eq_true, decide_eq_true_eq, List.all_eq_true] at h
      obtain ⟨⟨howner, hname⟩, hall⟩ := h
      refine ⟨_, name, ?_, howner, hname, ?_⟩
      · rw [← hdrop, List.takeWhile_append_dropWhile]
      · exact List.forall_mem_append.2 ⟨fun c hc => List.mem_takeWhile_imp hc, hall⟩
    · cases h
  · rintro ⟨owner, name, htext, howner, hname, hall⟩
    obtain ⟨hall, hall'⟩ := List.forall_mem_append.1 hall
    have hslash : ∀ c ∈ ('/' :: name).head?, isNameChar c = false := by
      rintro c ⟨⟩
      decide
    rw [htext, List.span_append_of_head hall hslash]
    simpa [howner, hname] using hall'

end Repository

namespace GitHub

/-- The rules that a service has to obey. -/
structure IsValid (g : GitHub) : Prop where
  apiUrl : Url.isValid g.apiUrl = true
  repository : ∀ name, g.repository = some name → Repository.HasName name
  accept : g.accept ≠ ""

/-! ## The members of the section -/

/-- The names of the members, in their order. -/
def names : List String := ["apiUrl", "repository", "accept"]

/-- A service as the members of a section. -/
def members (g : GitHub) : List (String × Datum) :=
  Datum.present [("apiUrl", some (.text g.apiUrl)), ("repository", g.repository.map .text),
    ("accept", some (.text g.accept))]

/-- The members of a section, laid over the defaults. -/
def overlay (given : List (String × Datum)) : List (String × Datum) :=
  ({} : GitHub).members ++ given

/-- The values of a section are this service. -/
def AreIn (g : GitHub) (values : List (String × Datum)) : Prop :=
  Datum.restrict names values = g.members

/-- A rule for a text. -/
def textRule (name text : String) (holds : String → Bool) : Rule where
  group := "github"
  name := name
  demand := .text holds
  text := text

/-- The rule for the repository, which may be absent. -/
def repositoryRule : Rule :=
  { textRule "repository" "repository must look like \"owner/repo\"" Repository.isName with
    isOptional := true }

/-- The rules for the members, in their order. -/
def rules : List Rule :=
  [textRule "apiUrl" "apiUrl must be a URL" Url.isValid, repositoryRule,
    textRule "accept" "accept must not be empty" (· ≠ "")]

section
variable {g : GitHub} {given values : List (String × Datum)} {name : String}

theorem areIn_iff : g.AreIn values ↔
    Datum.lookup values "apiUrl" = some (.text g.apiUrl) ∧
      Datum.lookup values "repository" = g.repository.map .text ∧
        Datum.lookup values "accept" = some (.text g.accept) := by
  have hnodup : names.Nodup := by decide
  have hiff := @Datum.restrict_eq_present_iff values
    [("apiUrl", some (.text g.apiUrl)), ("repository", g.repository.map .text),
      ("accept", some (.text g.accept))] hnodup
  simp only [List.forall_mem_cons, List.not_mem_nil, false_implies, implies_true, and_true] at hiff
  exact hiff

/-! ## Reading the section -/

/-- A text is read when it obeys its rule, and otherwise the rule has an issue. -/
theorem member_cases {text standard : String} {holds : String → Bool}
    (hdefault : Datum.lookup ({} : GitHub).members name = some (.text standard)) :
    (∃ value, Datum.lookup (overlay given) name = some (.text value) ∧ holds value = true ∧
      member given name text standard holds = .ok value ∧
      (textRule name text holds).issue? (overlay given) = none) ∨
    (∀ value, Datum.lookup (overlay given) name = some (.text value) → holds value = false) ∧
      ∃ issue, member given name text standard holds = .error issue ∧
        (textRule name text holds).issue? (overlay given) = some issue := by
  have hoverlay : Datum.lookup (overlay given) name =
      (Datum.lookup given name).or (some (.text standard)) := by
    rw [overlay, Datum.lookup_append, hdefault]
  obtain ⟨d, hd⟩ : ∃ d, Datum.lookup (overlay given) name = some d := by
    rw [hoverlay]
    cases Datum.lookup given name <;> simp
  simp only [member, ← hoverlay, Rule.issue?, textRule, hd, Rule.complaint?, Demand.holds?]
  cases d with
  | text value =>
    simp only [Datum.expectText, Datum.text?, Option.map_some]
    cases hholds : holds value with
    | true => exact .inl ⟨value, rfl, hholds, by simp [bind, Except.bind, hholds], rfl⟩
    | false =>
      refine .inr ⟨?_, _, by simp [bind, Except.bind, hholds]; rfl, rfl⟩
      rintro _ ⟨⟩
      exact hholds
  | _ =>
    refine .inr ⟨?_, _, rfl, rfl⟩
    rintro _ ⟨⟩

/-- So is the repository, which may be absent. -/
theorem repositoryMember_cases :
    (∃ repository, Datum.lookup (overlay given) "repository" = repository.map .text ∧
      (∀ name, repository = some name → Repository.HasName name) ∧
      repositoryMember given = .ok repository ∧
      repositoryRule.issue? (overlay given) = none) ∨
    (∀ repository : Option String,
        Datum.lookup (overlay given) "repository" = repository.map .text →
        ∃ name, repository = some name ∧ ¬Repository.HasName name) ∧
      ∃ issue, repositoryMember given = .error issue ∧
        repositoryRule.issue? (overlay given) = some issue := by
  have hoverlay : Datum.lookup (overlay given) "repository" = Datum.lookup given "repository" := by
    rw [overlay, Datum.lookup_append]
    exact Option.or_none
  simp only [repositoryMember, ← hoverlay, Rule.issue?, repositoryRule, textRule,
    Rule.complaint?, Demand.holds?]
  cases Datum.lookup (overlay given) "repository" with
  | none =>
    refine .inl ⟨none, rfl, ?_, rfl, rfl⟩
    rintro _ ⟨⟩
  | some d =>
    cases d with
    | text value =>
      simp only [Datum.expectText, Datum.text?, Option.map_some]
      cases hname : Repository.isName value with
      | true =>
        refine .inl ⟨some value, rfl, ?_, by simp [bind, Except.bind, hname], rfl⟩
        rintro _ ⟨⟩
        exact Repository.isName_iff.1 hname
      | false =>
        refine .inr ⟨?_, _, by simp [bind, Except.bind, hname]; rfl, rfl⟩
        intro repository hrepository
        obtain ⟨value', rfl, hvalue⟩ := Option.map_eq_some_iff.1 hrepository.symm
        cases hvalue
        exact ⟨value, rfl, by rw [← Repository.isName_iff, hname]; exact Bool.false_ne_true⟩
    | _ =>
      refine .inr ⟨?_, _, rfl, rfl⟩
      intro repository hrepository
      obtain ⟨_, -, hvalue⟩ := Option.map_eq_some_iff.1 hrepository.symm
      cases hvalue

section
variable {text standard : String} {holds : String → Bool}
  (hdefault : Datum.lookup ({} : GitHub).members name = some (.text standard))
include hdefault

theorem member_eq_ok_iff {value : String} : member given name text standard holds = .ok value ↔
    Datum.lookup (overlay given) name = some (.text value) ∧ holds value = true := by
  rcases @member_cases given name text standard holds hdefault with
    ⟨value', hvalue, hholds, hmember, -⟩ | ⟨hnone, issue, hmember, -⟩
  · rw [hmember, hvalue, Except.ok.injEq, Option.some.injEq, Datum.text.injEq]
    exact ⟨fun h => ⟨h, h ▸ hholds⟩, And.left⟩
  · rw [hmember]
    exact iff_of_false nofun fun ⟨hvalue, hholds⟩ => by cases (hnone value hvalue).symm.trans hholds

theorem issues_member : issues (member given name text standard holds) =
    ((textRule name text holds).issue? (overlay given)).toList := by
  rcases @member_cases given name text standard holds hdefault with
    ⟨_, -, -, hmember, hissue⟩ | ⟨-, _, hmember, hissue⟩ <;> rw [hmember, hissue] <;> rfl

end

theorem repositoryMember_eq_ok_iff {repository : Option String} :
    repositoryMember given = .ok repository ↔
      Datum.lookup (overlay given) "repository" = repository.map .text ∧
        ∀ name, repository = some name → Repository.HasName name := by
  rcases @repositoryMember_cases given with
    ⟨repository', hvalue, hname, hmember, -⟩ | ⟨hnone, issue, hmember, -⟩
  · have hinj : repository'.map Datum.text = repository.map .text ↔ repository' = repository :=
      (Option.map_injective fun _ _ h => Datum.text.inj h).eq_iff
    rw [hmember, hvalue, Except.ok.injEq, hinj]
    exact ⟨fun h => ⟨h, h ▸ hname⟩, And.left⟩
  · rw [hmember]
    refine iff_of_false nofun fun ⟨hvalue, hname⟩ => ?_
    obtain ⟨name, hsome, hnot⟩ := hnone repository hvalue
    exact hnot (hname name hsome)

theorem issues_repositoryMember : issues (repositoryMember given) =
    (repositoryRule.issue? (overlay given)).toList := by
  rcases @repositoryMember_cases given with
    ⟨_, -, -, hmember, hissue⟩ | ⟨-, _, hmember, hissue⟩ <;> rw [hmember, hissue] <;> rfl

/-- The issues of the three rules, one after the other. -/
theorem issues_rules : Rule.issues rules (overlay given) =
    issues (member given "apiUrl" "apiUrl must be a URL" ({} : GitHub).apiUrl Url.isValid) ++
      issues (repositoryMember given) ++
      issues (member given "accept" "accept must not be empty" ({} : GitHub).accept (· ≠ "")) := by
  rw [issues_member rfl, issues_repositoryMember, issues_member rfl]
  simp [Rule.issues, rules, List.filterMap_eq_flatMap_toList]

/-- Which service a section gives. -/
theorem ofMembers_eq_ok_iff : ofMembers given = .ok g ↔ g.AreIn (overlay given) ∧ g.IsValid := by
  have hmembers : ofMembers given = .ok g ↔
      member given "apiUrl" "apiUrl must be a URL" ({} : GitHub).apiUrl Url.isValid =
          .ok g.apiUrl ∧
        repositoryMember given = .ok g.repository ∧
        member given "accept" "accept must not be empty" ({} : GitHub).accept (· ≠ "") =
          .ok g.accept := by
    obtain ⟨apiUrl, repository, accept⟩ := g
    simp only [ofMembers]
    generalize member given "apiUrl" _ _ _ = first
    generalize repositoryMember given = second
    generalize member given "accept" _ _ _ = third
    cases first <;> cases second <;> cases third <;> simp
  rw [hmembers, member_eq_ok_iff rfl, repositoryMember_eq_ok_iff, member_eq_ok_iff rfl, areIn_iff,
    decide_eq_true_eq]
  constructor
  · rintro ⟨⟨hurl, hurl'⟩, ⟨hrepository, hrepository'⟩, haccept, haccept'⟩
    exact ⟨⟨hurl, hrepository, haccept⟩, hurl', hrepository', haccept'⟩
  · rintro ⟨⟨hurl, hrepository, haccept⟩, hurl', hrepository', haccept'⟩
    exact ⟨⟨hurl, hurl'⟩, ⟨hrepository, hrepository'⟩, haccept, haccept'⟩

/-- Which issues a section has. -/
theorem ofMembers_eq_error_iff {found : List Issue} : ofMembers given = .error found ↔
    found = Rule.issues rules (overlay given) ∧ found ≠ [] := by
  simp only [issues_rules, ofMembers]
  generalize member given "apiUrl" _ _ _ = first
  generalize repositoryMember given = second
  generalize member given "accept" _ _ _ = third
  cases first <;> cases second <;> cases third <;> simp only [issues] <;>
    grind

end

end GitHub

/-! ## Both sections -/

namespace Config

/-- What a document says in a section: nothing, or the members of a record. -/
inductive IsSection : Option Datum → List (String × Datum) → Prop where
  | absent : IsSection none []
  | null : IsSection (some .null) []
  | record (members : List (String × Datum)) : IsSection (some (.record members)) members

/-- The values of two sections, laid over the defaults, are this configuration. -/
structure AreIn (c : Config) (given given' : List (String × Datum)) : Prop where
  thresholds : c.thresholds.AreIn (Thresholds.overlay given)
  github : c.github.AreIn (GitHub.overlay given')

/-- The rules that a configuration has to obey. -/
structure IsValid (c : Config) : Prop where
  thresholds : c.thresholds.IsValid
  github : c.github.IsValid

/-- The issues of two sections, those of the thresholds first. -/
noncomputable def issues (given given' : List (String × Datum)) : List Issue :=
  Thresholds.issues (Thresholds.overlay given) ++ Rule.issues GitHub.rules (GitHub.overlay given')

/-- A configuration as a document. -/
def toDatum (c : Config) : Datum :=
  .record [("thresholds", .record c.thresholds.members), ("github", .record c.github.members)]

section
variable {c : Config} {members given given' : List (String × Datum)}
  (h : IsSection (Datum.lookup members "thresholds") given)
  (h' : IsSection (Datum.lookup members "github") given')

theorem IsSection.sectionMembers_eq {d : Option Datum} (h : IsSection d given) :
    sectionMembers d = given := by
  cases h <;> rfl

include h h'

/-- Which configuration a document gives. -/
theorem ofMembers_eq_ok_iff : ofMembers members = .ok c ↔ c.AreIn given given' ∧ c.IsValid := by
  rw [ofMembers_eq_ok_iff_sections, h.sectionMembers_eq, h'.sectionMembers_eq,
    Thresholds.ofMembers_eq_ok_iff, GitHub.ofMembers_eq_ok_iff]
  constructor
  · rintro ⟨⟨ht, ht'⟩, hg, hg'⟩
    exact ⟨⟨ht, hg⟩, ht', hg'⟩
  · rintro ⟨⟨ht, hg⟩, ht', hg'⟩
    exact ⟨⟨ht, ht'⟩, hg, hg'⟩

/-- Why a document gives none. -/
theorem ofMembers_eq_error_iff {e : ConfigError} : ofMembers members = .error e ↔
    e = .invalid (issues given given') ∧ issues given given' ≠ [] := by
  have ht := Except.ok_or_error (@Thresholds.ofMembers_eq_error_iff given)
  have hg := Except.ok_or_error (@GitHub.ofMembers_eq_error_iff given')
  rw [ofMembers, h.sectionMembers_eq, h'.sectionMembers_eq, issues]
  generalize Thresholds.issues (Thresholds.overlay given) = found at ht ⊢
  generalize Rule.issues GitHub.rules (GitHub.overlay given') = found' at hg ⊢
  rcases ht with ⟨⟨t, ht⟩, rfl⟩ | ⟨ht, hne⟩ <;> rcases hg with ⟨⟨g, hg⟩, rfl⟩ | ⟨hg, hne'⟩ <;>
    simp [*, eq_comm]

end

/-! ## A configuration read again -/

/-- Thresholds that were read are read again from their own members. -/
theorem areIn_overlay_thresholds {t : Thresholds} {values : List (String × Datum)}
    (h : t.AreIn values) : t.AreIn (Thresholds.overlay t.members) := by
  refine Thresholds.areIn_iff.2 fun limit hlimit => ?_
  have hlookup : ∀ limit ∈ t.limits,
      Datum.lookup t.members limit.1 = some (.number limit.2) := by
    simp [Thresholds.limits, Thresholds.members, Datum.lookup]
  rw [Thresholds.overlay, Datum.lookup_append, hlookup limit hlimit, Option.some_or,
    Option.bind_some, Datum.number?_eq_some_iff]
  exact ⟨rfl, h.numbers limit hlimit⟩

/-- A service is read again from its own members. -/
theorem areIn_overlay_github (g : GitHub) : g.AreIn (GitHub.overlay g.members) := by
  obtain ⟨apiUrl, repository, accept⟩ := g
  rw [GitHub.areIn_iff]
  cases repository <;>
    simp [GitHub.overlay, GitHub.members, Datum.present, Datum.lookup]

/-- The text of an issue inside a document: its path, and its complaint in words. -/
def Reads (i : Issue) (text : String) : Prop :=
  ∃ words, i.complaint.Says words ∧ text = ".".intercalate i.path ++ ": " ++ words

/-- The message about issues inside a document has one text for each of them. -/
theorem message_invalid {found : List Issue} (h : ∀ i ∈ found, i.path ≠ []) :
    ∃ texts, List.Forall₂ Reads found texts ∧ ∀ explain,
      (ConfigError.invalid found).message explain =
        "Config validation failed: " ++ "; ".intercalate texts := by
  refine ⟨found.map Issue.message, ?_, fun _ => rfl⟩
  rw [List.forall₂_map_right_iff, List.forall₂_same]
  intro i hi
  refine ⟨_, i.complaint.says_message, ?_⟩
  rw [Issue.message, Issue.place, if_neg (by simpa using h i hi)]

/-- All issues of a configuration are inside the document. -/
theorem path_ne_nil {given given' : List (String × Datum)} :
    ∀ i ∈ issues given given', i.path ≠ [] := by
  have hrules : ∀ (rules : List Rule) (values : List (String × Datum)),
      ∀ i ∈ Rule.issues rules values, i.path ≠ [] := by
    intro rules values i hi
    obtain ⟨r, -, hr⟩ := List.mem_filterMap.1 hi
    obtain ⟨complaint, -, rfl⟩ := Option.map_eq_some_iff.1 hr
    exact List.cons_ne_nil _ _
  intro i hi
  rcases List.mem_append.1 hi with hi | hi
  · rcases List.mem_append.1 hi with hi | hi
    · exact hrules _ _ i hi
    · split_ifs at hi with horder
      · obtain rfl := List.mem_singleton.1 hi
        exact List.cons_ne_nil _ _
      · cases hi
  · exact hrules _ _ i hi

/-- An empty document is the default configuration, and a document that is no record is none. The
sections of a record are laid over the defaults. The record gives a configuration exactly when the
values are one that obeys all rules; written as a document, this configuration gives itself.
Otherwise the issues are reported, one for each rule that is broken and in the order of the rules,
and that speedups begin above slowdowns exactly when all five limits are numbers and they do. -/
theorem ofDatum_follows_rules :
    ofDatum .null = .ok {} ∧
    (∀ value, ofDatum (.bool value) = .error .notRecord) ∧
    (∀ value, ofDatum (.number value) = .error .notRecord) ∧
    (∀ value, ofDatum (.text value) = .error .notRecord) ∧
    (∀ items, ofDatum (.list items) = .error .notRecord) ∧
    (∀ explain, ConfigError.notRecord.message explain = "Config file is not a valid YAML object") ∧
    ∀ members given given', IsSection (Datum.lookup members "thresholds") given →
      IsSection (Datum.lookup members "github") given' →
      (∀ c, ofDatum (.record members) = .ok c ↔ c.AreIn given given' ∧ c.IsValid) ∧
      (∀ c, ofDatum (.record members) = .ok c → ofDatum c.toDatum = .ok c) ∧
      ∀ e, ofDatum (.record members) = .error e ↔
        issues given given' ≠ [] ∧ e = .invalid (issues given given') ∧
          ∃ texts, List.Forall₂ Reads (issues given given') texts ∧ ∀ explain,
            e.message explain = "Config validation failed: " ++ "; ".intercalate texts := by
  refine ⟨rfl, fun _ => rfl, fun _ => rfl, fun _ => rfl, fun _ => rfl, fun _ => rfl,
    fun members given given' h h' => ⟨fun c => ofMembers_eq_ok_iff h h', fun c hc => ?_,
      fun e => ?_⟩⟩
  · obtain ⟨hvalues, hvalid⟩ := (ofMembers_eq_ok_iff h h').1 hc
    have hagain : c.AreIn c.thresholds.members c.github.members :=
      ⟨areIn_overlay_thresholds hvalues.thresholds, areIn_overlay_github c.github⟩
    have hthresholds : IsSection (Datum.lookup [("thresholds", .record c.thresholds.members),
        ("github", .record c.github.members)] "thresholds") c.thresholds.members := .record _
    have hgithub : IsSection (Datum.lookup [("thresholds", .record c.thresholds.members),
        ("github", .record c.github.members)] "github") c.github.members := .record _
    exact (ofMembers_eq_ok_iff hthresholds hgithub).2 ⟨hagain, hvalid⟩
  · rw [show ofDatum (.record members) = ofMembers members from rfl, ofMembers_eq_error_iff h h']
    constructor
    · rintro ⟨rfl, hne⟩
      exact ⟨hne, rfl, message_invalid path_ne_nil⟩
    · rintro ⟨hne, rfl, -⟩
      exact ⟨rfl, hne⟩

/-- Thresholds of which one is not positive and two are in disorder. -/
def faultyThresholds : List (String × Datum) :=
  [("slowdownRatio", .number 1.5), ("speedupRatio", .number 2), ("meanRatio", .number (-1))]

/-- A service at no address, with a repository that is none and without a text for a member. -/
def faultyGitHub : List (String × Datum) :=
  [("apiUrl", .text "api.github.com"), ("repository", .text "acme"), ("accept", .null)]

/-- A service at another address. -/
def hostedGitHub : List (String × Datum) := [("apiUrl", .text "https://h/v3")]

/-- All five faults are reported, and nothing else. Another address is taken and keeps the other
defaults. -/
theorem ofDatum_follows_rules_faulty :
    (∃ e, ofDatum (.record [("thresholds", .record faultyThresholds),
        ("github", .record faultyGitHub)]) = .error e ∧
      e = .invalid (issues faultyThresholds faultyGitHub) ∧
      ∀ explain, e.message explain =
        "Config validation failed: thresholds.meanRatio: meanRatio must be positive; " ++
        "thresholds.speedupRatio: speedupRatio must not exceed slowdownRatio; " ++
        "github.apiUrl: apiUrl must be a URL; " ++
        "github.repository: repository must look like \"owner/repo\"; " ++
        "github.accept: Expected string, received null") ∧
    ∃ c, ofDatum (.record [("github", .record hostedGitHub)]) = .ok c ∧
      c.github = { apiUrl := "https://h/v3" } ∧ c.AreIn [] hostedGitHub ∧ c.IsValid := by
  obtain ⟨-, -, -, -, -, -, hrecord⟩ := ofDatum_follows_rules
  constructor
  · obtain ⟨-, -, herror⟩ := hrecord [("thresholds", .record faultyThresholds),
      ("github", .record faultyGitHub)] faultyThresholds faultyGitHub (.record _) (.record _)
    have hfaulty : ofDatum (.record [("thresholds", .record faultyThresholds),
        ("github", .record faultyGitHub)]) = .error (.invalid
          [⟨["thresholds", "meanRatio"], .brokenRule "meanRatio must be positive"⟩,
            ⟨["thresholds", "speedupRatio"],
              .brokenRule "speedupRatio must not exceed slowdownRatio"⟩,
            ⟨["github", "apiUrl"], .brokenRule "apiUrl must be a URL"⟩,
            ⟨["github", "repository"], .brokenRule "repository must look like \"owner/repo\""⟩,
            ⟨["github", "accept"], .wrongKind "string" "null"⟩]) := by
      rfl
    have hmessage : ∀ found : List Issue, ∀ explain, (ConfigError.invalid found).message explain =
        (ConfigError.invalid found).message {} := fun _ _ => rfl
    exact ⟨_, hfaulty, ((herror _).1 hfaulty).2.1, fun explain =>
      (hmessage _ explain).trans (by decide +kernel)⟩
  · obtain ⟨hok, -, -⟩ := hrecord [("github", .record hostedGitHub)] [] hostedGitHub .absent
      (.record _)
    have hhosted : ofDatum (.record [("github", .record hostedGitHub)]) =
        .ok { github := { apiUrl := "https://h/v3" } } := by
      rfl
    exact ⟨_, hhosted, rfl, (hok _).1 hhosted⟩

end Config

end BenchGate
