import BenchGate.Proofs.Config.Schema

/-!
# Sections that are no records

A section may hold something that is no record, a list for instance that was meant to be one. Such a
section counts as left out: `Config.ofDatum_skipsMalformed` says that the document is read as it is
without the section, so that the defaults stand in for it and no issue names it. A document that as
a whole is no record is refused, and `Config.ofDatum_malformedIsDefault` shows the difference.
-/

namespace BenchGate

namespace Datum

/-- What stands at a name and is neither null nor a record. -/
def IsMalformed : Option Datum → Prop
  | none | some .null | some (.record _) => False
  | some _ => True

/-- The members of other names. -/
def without (name : String) (members : List (String × Datum)) : List (String × Datum) :=
  members.filter (·.1 ≠ name)

/-- A name that was left out is absent, and the others keep their values. -/
theorem lookup_without {members : List (String × Datum)} {name name' : String} :
    lookup (without name members) name' = if name' = name then none else lookup members name' := by
  rw [lookup, without, ← List.filter_reverse, List.find?_filter]
  split_ifs with h
  · rw [Option.map_eq_none_iff, List.find?_eq_none]
    simp [h]
  · rw [lookup]
    congr 2
    funext m
    by_cases hm : m.1 = name' <;> simp [hm, h]

end Datum

/-! ## Issues and their sections -/

/-- The issues of rules of one group are inside the section of this group. -/
theorem Rule.head?_path_of_mem_issues {rules : List Rule} {group : String}
    {members : List (String × Datum)} (h : ∀ r ∈ rules, r.group = group) :
    ∀ i ∈ issues rules members, i.path.head? = some group := by
  intro i hi
  obtain ⟨r, hr, hissue⟩ := List.mem_filterMap.1 hi
  obtain ⟨complaint, -, rfl⟩ := Option.map_eq_some_iff.1 hissue
  exact congrArg some (h r hr)

section
variable {given : List (String × Datum)} {found : List Issue}

/-- The issues of the thresholds are inside their section. -/
theorem Thresholds.head?_path_of_ofMembers (h : ofMembers given = .error found) :
    ∀ i ∈ found, i.path.head? = some "thresholds" := by
  obtain ⟨rfl, -⟩ := ofMembers_eq_error_iff.1 h
  refine List.forall_mem_append.2 ⟨Rule.head?_path_of_mem_issues (by simp [rules, factorRule,
    timeRule, limitRule]), fun i hi => ?_⟩
  split_ifs at hi
  · rw [List.mem_singleton.1 hi]
    rfl
  · cases hi

/-- The issues of the service are inside its section. -/
theorem GitHub.head?_path_of_ofMembers (h : ofMembers given = .error found) :
    ∀ i ∈ found, i.path.head? = some "github" := by
  obtain ⟨rfl, -⟩ := ofMembers_eq_error_iff.1 h
  exact Rule.head?_path_of_mem_issues (by simp [rules, textRule, repositoryRule])

end

namespace Config

/-- The names of the sections. -/
def sectionNames : List String := ["thresholds", "github"]

/-- A section of a configuration is the one that applies by default. -/
structure HasDefault (c : Config) (name : String) : Prop where
  thresholds : name = "thresholds" → c.thresholds = {}
  github : name = "github" → c.github = {}

section
variable {members : List (String × Datum)} {name : String}

/-- A section that is malformed has no members. -/
theorem sectionMembers_of_isMalformed {d : Option Datum} (h : Datum.IsMalformed d) :
    sectionMembers d = [] := by
  unfold sectionMembers
  split
  · cases h
  · rfl

theorem thresholds_ofMembers_nil : Thresholds.ofMembers [] = .ok {} := rfl

theorem github_ofMembers_nil : GitHub.ofMembers [] = .ok {} := rfl

/-- A section with issues is not malformed, since the defaults have none. -/
theorem not_isMalformed_of_error {α : Type} {read : List (String × Datum) → Except (List Issue) α}
    {standard : α} {d : Option Datum} {found : List Issue} (hnil : read [] = .ok standard)
    (h : read (sectionMembers d) = .error found) : ¬Datum.IsMalformed d := by
  intro hmalformed
  rw [sectionMembers_of_isMalformed hmalformed, hnil] at h
  cases h

/-- A malformed section counts as one that was left out. -/
theorem ofMembers_without (h : Datum.IsMalformed (Datum.lookup members name)) :
    ofMembers members = ofMembers (Datum.without name members) := by
  have hsection : ∀ name', sectionMembers (Datum.lookup (Datum.without name members) name') =
      sectionMembers (Datum.lookup members name') := by
    intro name'
    rw [Datum.lookup_without]
    split_ifs with hname
    · rw [hname, sectionMembers_of_isMalformed h]
      rfl
    · rfl
  simp only [ofMembers, hsection]

/-- The defaults stand in for a malformed section. -/
theorem hasDefault_of_ofMembers {c : Config}
    (h : Datum.IsMalformed (Datum.lookup members name)) (hc : ofMembers members = .ok c) :
    c.HasDefault name := by
  obtain ⟨hthresholds, hgithub⟩ := ofMembers_eq_ok_iff_sections.1 hc
  constructor
  case thresholds =>
    rintro rfl
    rw [sectionMembers_of_isMalformed h, thresholds_ofMembers_nil] at hthresholds
    exact (Except.ok.inj hthresholds).symm
  case github =>
    rintro rfl
    rw [sectionMembers_of_isMalformed h, github_ofMembers_nil] at hgithub
    exact (Except.ok.inj hgithub).symm

/-- Issues are inside a section that is not malformed. -/
theorem head?_path_of_ofMembers {e : ConfigError} (he : ofMembers members = .error e) :
    ∃ found, e = .invalid found ∧ ∀ i ∈ found, ∃ name ∈ sectionNames,
      i.path.head? = some name ∧ ¬Datum.IsMalformed (Datum.lookup members name) := by
  have hthresholds : ∀ found, Thresholds.ofMembers (sectionMembers
      (Datum.lookup members "thresholds")) = .error found → ∀ i ∈ found, ∃ name ∈ sectionNames,
        i.path.head? = some name ∧ ¬Datum.IsMalformed (Datum.lookup members name) :=
    fun found hfound i hi => ⟨"thresholds", by simp [sectionNames],
      Thresholds.head?_path_of_ofMembers hfound i hi,
      not_isMalformed_of_error thresholds_ofMembers_nil hfound⟩
  have hgithub : ∀ found, GitHub.ofMembers (sectionMembers
      (Datum.lookup members "github")) = .error found → ∀ i ∈ found, ∃ name ∈ sectionNames,
        i.path.head? = some name ∧ ¬Datum.IsMalformed (Datum.lookup members name) :=
    fun found hfound i hi => ⟨"github", by simp [sectionNames],
      GitHub.head?_path_of_ofMembers hfound i hi,
      not_isMalformed_of_error github_ofMembers_nil hfound⟩
  unfold ofMembers at he
  dsimp only at he
  split at he
  · cases he
  · next a b ha hb =>
    cases he
    exact ⟨_, rfl, List.forall_mem_append.2 ⟨hthresholds _ ha, hgithub _ hb⟩⟩
  · next found _ hfound _ =>
    cases he
    exact ⟨_, rfl, hthresholds _ hfound⟩
  · next found _ _ hfound =>
    cases he
    exact ⟨_, rfl, hgithub _ hfound⟩

/-- A section that holds neither null nor a record is never reported. The document is read as it is
without the section: the configuration that it gives has the defaults there, the issues that it has
are elsewhere, and if the other section is malformed too or says nothing, it is the default
configuration. -/
theorem ofDatum_skipsMalformed (h : Datum.IsMalformed (Datum.lookup members name)) :
    ofDatum (.record members) = ofDatum (.record (Datum.without name members)) ∧
    (∀ c, ofDatum (.record members) = .ok c → c.HasDefault name) ∧
    (∀ e, ofDatum (.record members) = .error e → ∃ found, e = .invalid found ∧
      ∀ i ∈ found, ∃ other ∈ sectionNames, other ≠ name ∧ i.path.head? = some other) ∧
    ((∀ other ∈ sectionNames, other ≠ name → IsSection (Datum.lookup members other) [] ∨
        Datum.IsMalformed (Datum.lookup members other)) →
      ofDatum (.record members) = .ok {}) := by
  refine ⟨ofMembers_without h, fun c hc => hasDefault_of_ofMembers h hc, fun e he => ?_,
    fun hother => ?_⟩
  · obtain ⟨found, rfl, hfound⟩ := head?_path_of_ofMembers he
    refine ⟨found, rfl, fun i hi => ?_⟩
    obtain ⟨other, hmem, hpath, hwell⟩ := hfound i hi
    refine ⟨other, hmem, ?_, hpath⟩
    rintro rfl
    exact hwell h
  · have hempty : ∀ other ∈ sectionNames,
        sectionMembers (Datum.lookup members other) = [] := by
      intro other hmem
      by_cases heq : other = name
      · rw [heq, sectionMembers_of_isMalformed h]
      · exact (hother other hmem heq).elim IsSection.sectionMembers_eq
          sectionMembers_of_isMalformed
    change ofMembers members = .ok {}
    rw [ofMembers_eq_ok_iff_sections, hempty "thresholds" (by simp [sectionNames]),
      hempty "github" (by simp [sectionNames])]
    exact ⟨thresholds_ofMembers_nil, github_ofMembers_nil⟩

end

/-- A limit that was written as an element of a list. -/
def listedThresholds : Datum := .list [.record [("meanRatio", .number 1.01)]]

/-- Next to it a service that has no text for a member is reported alone, and one that is malformed
too is not reported either. -/
theorem ofDatum_skipsMalformed_listed :
    (∃ e found, ofDatum (.record [("thresholds", listedThresholds),
        ("github", .record [("accept", .null)])]) = .error e ∧ e = .invalid found ∧
      (∀ i ∈ found, ∃ other ∈ sectionNames, other ≠ "thresholds" ∧ i.path.head? = some other) ∧
      ∀ explain, e.message explain =
        "Config validation failed: github.accept: Expected string, received null") ∧
    ofDatum (.record [("thresholds", listedThresholds), ("github", .text "acme/bench")]) =
      .ok {} := by
  have hmalformed : ∀ d, Datum.IsMalformed
      (Datum.lookup [("thresholds", listedThresholds), ("github", d)] "thresholds") :=
    fun _ => trivial
  constructor
  · obtain ⟨-, -, herror, -⟩ := ofDatum_skipsMalformed (hmalformed (.record [("accept", .null)]))
    have hgithub : ofDatum (.record [("thresholds", listedThresholds),
        ("github", .record [("accept", .null)])]) = .error (.invalid
          [⟨["github", "accept"], .wrongKind "string" "null"⟩]) := by
      rfl
    obtain ⟨found, hfound, hpaths⟩ := herror _ hgithub
    exact ⟨_, found, hgithub, hfound, hpaths, fun _ => by rfl⟩
  · obtain ⟨-, -, -, hdefault⟩ := ofDatum_skipsMalformed (hmalformed (.text "acme/bench"))
    refine hdefault fun other hother hne => .inr ?_
    simp only [sectionNames, List.mem_cons, List.not_mem_nil, or_false, hne, false_or] at hother
    rw [hother]
    trivial

/-- The limit is lost, although it counts in a record and a list is refused as a document. -/
theorem ofDatum_malformedIsDefault :
    ofDatum (.record [("thresholds", listedThresholds)]) = .ok {} ∧
      ofDatum listedThresholds = .error .notRecord ∧
      ∃ c, ofDatum (.record [("thresholds", .record [("meanRatio", .number 1.01)])]) = .ok c ∧
        c.thresholds.meanRatio = 1.01 :=
  ⟨rfl, rfl, _, rfl, rfl⟩

end Config

end BenchGate
