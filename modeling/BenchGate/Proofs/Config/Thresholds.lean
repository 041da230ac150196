import BenchGate.Config.Load
import BenchGate.Proofs.Binary64.Order
import BenchGate.Proofs.Config.Rule

/-!
# Thresholds that were accepted

The section of the thresholds is read exactly as its rules say: `Thresholds.ofMembers_eq_ok_iff` and
`Thresholds.ofMembers_eq_error_iff` say which thresholds it gives and which issues it has. The five
rules for its members (`Thresholds.rules`) are looked at one by one, and the order of speedups and
slowdowns only when all five are numbers (`Thresholds.IsDisordered`). So every configuration that is
accepted has thresholds that obey all rules (`Thresholds.IsValid`, `Config.ofDatum_isValid`), and
none of its limits is the undefined number.
-/

namespace BenchGate

namespace Thresholds

/-- The rules that thresholds have to obey. -/
structure IsValid (t : Thresholds) : Prop where
  regressionRatio : 0 < t.regressionRatio
  regressionAbsolute : 0 ≤ t.regressionAbsolute
  slowdownRatio : 0 < t.slowdownRatio
  speedupRatio : 0 < t.speedupRatio
  meanRatio : 0 < t.meanRatio
  ordered : t.speedupRatio ≤ t.slowdownRatio

/-- The thresholds that apply by default obey the rules. -/
theorem isValid_default : ({} : Thresholds).IsValid := by
  constructor <;> decide +kernel

/-! ## The members of the section -/

/-- The limits by the names of their members. -/
def limits (t : Thresholds) : List (String × Float) :=
  [("regressionRatio", t.regressionRatio), ("regressionAbsolute", t.regressionAbsolute),
    ("slowdownRatio", t.slowdownRatio), ("speedupRatio", t.speedupRatio),
    ("meanRatio", t.meanRatio)]

/-- The names of the members, in their order. -/
def names : List String :=
  ["regressionRatio", "regressionAbsolute", "slowdownRatio", "speedupRatio", "meanRatio"]

/-- Thresholds as the members of a section. -/
def members (t : Thresholds) : List (String × Datum) :=
  t.limits.map fun limit => (limit.1, .number limit.2)

/-- The members of a section, laid over the defaults. -/
def overlay (given : List (String × Datum)) : List (String × Datum) :=
  ({} : Thresholds).members ++ given

/-- The values of a section are these thresholds, and all of them are numbers. -/
structure AreIn (t : Thresholds) (values : List (String × Datum)) : Prop where
  kept : Datum.restrict names values = t.members
  numbers : ∀ limit ∈ t.limits, limit.2.isNaN = false

/-- All five limits are numbers, and speedups begin above the ratio at which slowdowns do. -/
def IsDisordered (values : List (String × Datum)) : Prop :=
  ∃ t : Thresholds, t.AreIn values ∧ t.slowdownRatio < t.speedupRatio

/-- A rule for a limit. -/
def limitRule (name text : String) (holds : Float → Bool) : Rule where
  group := "thresholds"
  name := name
  demand := .number holds
  text := name ++ text

/-- A factor is above zero. -/
def factorRule (name : String) : Rule := limitRule name " must be positive" (0 < ·)

/-- A time is not below zero. -/
def timeRule (name : String) : Rule := limitRule name " must not be negative" (0 ≤ ·)

/-- The rules for the members, in their order. -/
def rules : List Rule :=
  [factorRule "regressionRatio", timeRule "regressionAbsolute", factorRule "slowdownRatio",
    factorRule "speedupRatio", factorRule "meanRatio"]

/-- What is said about a section whose limits are in disorder. -/
def orderIssue : Issue :=
  ⟨["thresholds", "speedupRatio"], .brokenRule "speedupRatio must not exceed slowdownRatio"⟩

open Classical in
/-- The issues of a section: of each rule that is broken, and of the order last. -/
noncomputable def issues (values : List (String × Datum)) : List Issue :=
  Rule.issues rules values ++ if IsDisordered values then [orderIssue] else []

section
variable {t t' : Thresholds} {given values : List (String × Datum)} {name : String}

/-- Thresholds are the values of a section when each limit is the number that its member is. -/
theorem areIn_iff : t.AreIn values ↔
    ∀ limit ∈ t.limits, (Datum.lookup values limit.1).bind Datum.number? = some limit.2 := by
  have hmembers : t.members =
      Datum.present (t.limits.map fun limit => (limit.1, some (.number limit.2))) := rfl
  have hnames : names =
      (t.limits.map fun limit => (limit.1, some (.number limit.2 : Datum))).map Prod.fst := rfl
  have hlookup : Datum.restrict names values = t.members ↔
      ∀ limit ∈ t.limits, Datum.lookup values limit.1 = some (.number limit.2) := by
    rw [hmembers, hnames, Datum.restrict_eq_present_iff (hnames ▸ by decide), List.forall_mem_map]
  simp only [Option.bind_eq_some_iff, Datum.number?_eq_some_iff]
  constructor
  · rintro ⟨hvalues, hnumbers⟩ limit hlimit
    exact ⟨_, hlookup.1 hvalues limit hlimit, rfl, hnumbers limit hlimit⟩
  · intro h
    refine ⟨hlookup.2 fun limit hlimit => ?_, fun limit hlimit => ?_⟩
    · obtain ⟨d, hd, rfl, -⟩ := h limit hlimit
      exact hd
    · obtain ⟨d, -, -, hnum⟩ := h limit hlimit
      exact hnum

/-- The same, limit by limit. -/
theorem areIn_iff_each : t.AreIn values ↔
    (Datum.lookup values "regressionRatio").bind Datum.number? = some t.regressionRatio ∧
      (Datum.lookup values "regressionAbsolute").bind Datum.number? =
        some t.regressionAbsolute ∧
      (Datum.lookup values "slowdownRatio").bind Datum.number? = some t.slowdownRatio ∧
      (Datum.lookup values "speedupRatio").bind Datum.number? = some t.speedupRatio ∧
      (Datum.lookup values "meanRatio").bind Datum.number? = some t.meanRatio := by
  simp only [areIn_iff, limits, List.forall_mem_cons, List.not_mem_nil, false_implies,
    implies_true, and_true]

/-- A section has the values of one list of thresholds at most. -/
theorem AreIn.unique (h : t.AreIn values) (h' : t'.AreIn values) : t = t' := by
  have heq := h.kept.symm.trans h'.kept
  obtain ⟨_, _, _, _, _⟩ := t
  obtain ⟨_, _, _, _, _⟩ := t'
  simp only [members, limits, List.map_cons, List.map_nil, List.cons.injEq, Prod.mk.injEq,
    Datum.number.injEq, true_and, and_true] at heq
  obtain ⟨rfl, rfl, rfl, rfl, rfl⟩ := heq
  rfl

/-- A limit without an issue is a number of which the rule holds. -/
theorem issue?_limitRule_eq_none_iff {text : String} {holds : Float → Bool} :
    (limitRule name text holds).issue? values = none ↔
      ∃ value, (Datum.lookup values name).bind Datum.number? = some value ∧
        holds value = true := by
  simp only [Rule.issue?, Option.map_eq_none_iff, limitRule]
  cases Datum.lookup values name with
  | none => simp [Rule.complaint?]
  | some d =>
    simp only [Rule.complaint?, Demand.holds?, Option.bind_some]
    cases d.number? with
    | none => simp
    | some value => cases hvalue : holds value <;> simp [hvalue]

/-! ## Reading the section -/

/-- A limit is read as the number that its member is, with the issue that its rule has. -/
theorem limit_eq {text : String} {standard : Float} {isAllowed holds : Float → Bool}
    (hdefault : Datum.lookup ({} : Thresholds).members name = some (.number standard))
    (hallowed : ∀ value : Float, value.isNaN = false → isAllowed value = holds value) :
    limit given name text standard isAllowed =
      ((Datum.lookup (overlay given) name).bind Datum.number?,
        ((limitRule name text holds).issue? (overlay given)).toList) := by
  have hoverlay : Datum.lookup (overlay given) name =
      (Datum.lookup given name).or (some (.number standard)) := by
    rw [overlay, Datum.lookup_append, hdefault]
  obtain ⟨d, hd⟩ : ∃ d, Datum.lookup (overlay given) name = some d := by
    rw [hoverlay]
    cases Datum.lookup given name <;> simp
  simp only [limit, ← hoverlay, Rule.issue?, limitRule, hd, Option.bind_some, Rule.complaint?,
    Demand.holds?, Demand.kindName]
  cases d with
  | number value =>
    cases hnum : value.isNaN with
    | true =>
      simp only [Datum.expectNumber, Datum.number?, hnum]
      rfl
    | false =>
      simp only [Datum.expectNumber, Datum.number?, hnum, Bool.false_eq_true, if_false,
        hallowed value hnum, Option.map_some]
      cases hholds : holds value <;> rfl
  | _ => rfl

theorem ratio_eq (name : String) {standard : Float}
    (hdefault : Datum.lookup ({} : Thresholds).members name = some (.number standard)) :
    ratio given name standard =
      ((Datum.lookup (overlay given) name).bind Datum.number?,
        ((factorRule name).issue? (overlay given)).toList) := by
  refine limit_eq hdefault fun value hnum => ?_
  rw [← decide_not, decide_eq_decide]
  exact Float.not_le hnum (by decide +kernel)

theorem seconds_eq (name : String) {standard : Float}
    (hdefault : Datum.lookup ({} : Thresholds).members name = some (.number standard)) :
    seconds given name standard =
      ((Datum.lookup (overlay given) name).bind Datum.number?,
        ((timeRule name).issue? (overlay given)).toList) := by
  refine limit_eq hdefault fun value hnum => ?_
  rw [← decide_not, decide_eq_decide]
  exact Float.not_lt hnum (by decide +kernel)

/-- Limits that are numbers are in disorder, or speedups begin at or below slowdowns. -/
theorem AreIn.not_isDisordered_iff (h : t.AreIn values) :
    ¬IsDisordered values ↔ t.speedupRatio ≤ t.slowdownRatio := by
  have hspeedup : t.speedupRatio.isNaN = false :=
    h.numbers ("speedupRatio", t.speedupRatio) (by simp [limits])
  have hslowdown : t.slowdownRatio.isNaN = false :=
    h.numbers ("slowdownRatio", t.slowdownRatio) (by simp [limits])
  rw [← Float.not_lt hslowdown hspeedup, not_iff_not]
  constructor
  · rintro ⟨t', ht', hlt⟩
    rwa [h.unique ht']
  · exact fun hlt => ⟨t, h, hlt⟩

/-- The issues of a section whose limits are numbers. -/
theorem AreIn.issues_eq (h : t.AreIn values) :
    issues values = Rule.issues rules values ++ t.orderIssues := by
  by_cases hordered : t.speedupRatio ≤ t.slowdownRatio
  · rw [issues, orderIssues, if_pos hordered, if_neg (h.not_isDisordered_iff.2 hordered)]
  · rw [issues, orderIssues, if_neg hordered,
      if_pos (not_not.1 (mt h.not_isDisordered_iff.1 hordered))]
    rfl

/-- The issues of the five rules, one after the other. -/
theorem issues_rules : Rule.issues rules values =
    ((factorRule "regressionRatio").issue? values).toList ++
      ((timeRule "regressionAbsolute").issue? values).toList ++
      ((factorRule "slowdownRatio").issue? values).toList ++
      ((factorRule "speedupRatio").issue? values).toList ++
      ((factorRule "meanRatio").issue? values).toList := by
  simp [Rule.issues, rules, List.filterMap_eq_flatMap_toList]

/-- A section whose limits are numbers gives these thresholds, if it has no issue. Another section
has issues only. -/
theorem ofMembers_cases (given : List (String × Datum)) :
    (∃ t : Thresholds, t.AreIn (overlay given) ∧ ofMembers given =
      if issues (overlay given) = [] then .ok t else .error (issues (overlay given))) ∨
    (∀ t : Thresholds, ¬t.AreIn (overlay given)) ∧
      ofMembers given = .error (issues (overlay given)) := by
  simp only [ofMembers, ratio_eq "regressionRatio" rfl, seconds_eq "regressionAbsolute" rfl,
    ratio_eq "slowdownRatio" rfl, ratio_eq "speedupRatio" rfl, ratio_eq "meanRatio" rfl,
    ← issues_rules]
  split
  · next regressionRatio regressionAbsolute slowdownRatio speedupRatio meanRatio h₁ h₂ h₃ h₄ h₅ =>
    have ht : AreIn ⟨regressionRatio, regressionAbsolute, slowdownRatio, speedupRatio, meanRatio⟩
        (overlay given) := areIn_iff_each.2 ⟨h₁, h₂, h₃, h₄, h₅⟩
    refine .inl ⟨_, ht, ?_⟩
    simp only [ht.issues_eq, List.isEmpty_iff]
  · next hnone =>
    have hnot : ∀ t : Thresholds, ¬t.AreIn (overlay given) := by
      intro t ht
      obtain ⟨h₁, h₂, h₃, h₄, h₅⟩ := areIn_iff_each.1 ht
      exact hnone _ _ _ _ _ h₁ h₂ h₃ h₄ h₅
    refine .inr ⟨hnot, ?_⟩
    rw [issues, if_neg fun ⟨t, ht, _⟩ => hnot t ht, List.append_nil]

/-- A section without issues has limits that are numbers and obey the rules. -/
theorem issues_eq_nil_iff :
    issues values = [] ↔ ∃ t : Thresholds, t.AreIn values ∧ t.IsValid := by
  have hissues : issues values = [] ↔
      (∀ r ∈ rules, r.issue? values = none) ∧ ¬IsDisordered values := by
    rw [issues, List.append_eq_nil_iff, Rule.issues_eq_nil_iff]
    simp
  simp only [hissues, rules, List.forall_mem_cons, List.not_mem_nil, false_implies, implies_true,
    and_true, factorRule, timeRule, issue?_limitRule_eq_none_iff, decide_eq_true_eq]
  constructor
  · rintro ⟨⟨⟨a, ha, ha'⟩, ⟨b, hb, hb'⟩, ⟨c, hc, hc'⟩, ⟨d, hd, hd'⟩, ⟨e, he, he'⟩⟩, horder⟩
    have ht : AreIn ⟨a, b, c, d, e⟩ values := areIn_iff_each.2 ⟨ha, hb, hc, hd, he⟩
    exact ⟨_, ht, ha', hb', hc', hd', he', ht.not_isDisordered_iff.1 horder⟩
  · rintro ⟨t, ht, hvalid⟩
    obtain ⟨h₁, h₂, h₃, h₄, h₅⟩ := areIn_iff_each.1 ht
    exact ⟨⟨⟨_, h₁, hvalid.regressionRatio⟩, ⟨_, h₂, hvalid.regressionAbsolute⟩,
      ⟨_, h₃, hvalid.slowdownRatio⟩, ⟨_, h₄, hvalid.speedupRatio⟩, ⟨_, h₅, hvalid.meanRatio⟩⟩,
      ht.not_isDisordered_iff.2 hvalid.ordered⟩

/-- Which thresholds a section gives. -/
theorem ofMembers_eq_ok_iff :
    ofMembers given = .ok t ↔ t.AreIn (overlay given) ∧ t.IsValid := by
  rcases ofMembers_cases given with ⟨t', ht', h⟩ | ⟨hnot, h⟩
  · by_cases hissues : issues (overlay given) = []
    · obtain ⟨t'', ht'', hvalid⟩ := issues_eq_nil_iff.1 hissues
      obtain rfl := ht''.unique ht'
      rw [h, if_pos hissues, Except.ok.injEq]
      constructor
      · rintro rfl
        exact ⟨ht', hvalid⟩
      · exact fun ht => ht'.unique ht.1
    · rw [h, if_neg hissues]
      exact iff_of_false nofun fun ht => hissues (issues_eq_nil_iff.2 ⟨t, ht⟩)
  · rw [h]
    exact iff_of_false nofun fun ht => hnot t ht.1

/-- Which issues a section has. -/
theorem ofMembers_eq_error_iff {found : List Issue} : ofMembers given = .error found ↔
    found = issues (overlay given) ∧ found ≠ [] := by
  have hne : (∀ t : Thresholds, ¬t.AreIn (overlay given)) → issues (overlay given) ≠ [] :=
    fun hnot hnil => by
      obtain ⟨t, ht, -⟩ := issues_eq_nil_iff.1 hnil
      exact hnot t ht
  rcases ofMembers_cases given with ⟨t, -, h⟩ | ⟨hnot, h⟩
  · rw [h]
    split_ifs with hissues
    · exact iff_of_false nofun fun hfound => hfound.2 (hfound.1.trans hissues)
    · rw [Except.error.injEq]
      exact ⟨fun heq => ⟨heq.symm, heq ▸ hissues⟩, fun hfound => hfound.1.symm⟩
  · rw [h, Except.error.injEq]
    exact ⟨fun heq => ⟨heq.symm, heq ▸ hne hnot⟩, fun hfound => hfound.1.symm⟩

end

end Thresholds

/-- A configuration is read section by section. -/
theorem Config.ofMembers_eq_ok_iff_sections {members : List (String × Datum)} {c : Config} :
    ofMembers members = .ok c ↔
      Thresholds.ofMembers (sectionMembers (Datum.lookup members "thresholds")) =
          .ok c.thresholds ∧
        GitHub.ofMembers (sectionMembers (Datum.lookup members "github")) = .ok c.github := by
  obtain ⟨thresholds, github⟩ := c
  unfold ofMembers
  cases Thresholds.ofMembers (sectionMembers (Datum.lookup members "thresholds")) <;>
    cases GitHub.ofMembers (sectionMembers (Datum.lookup members "github")) <;> simp

/-- A configuration that is accepted has thresholds that obey the rules. -/
theorem Config.ofDatum_isValid {document : Datum} {config : Config}
    (h : ofDatum document = .ok config) : config.thresholds.IsValid := by
  have hmembers : ∀ members, ofMembers members = .ok config → config.thresholds.IsValid := by
    intro members h
    obtain ⟨hthresholds, -⟩ := ofMembers_eq_ok_iff_sections.1 h
    exact (Thresholds.ofMembers_eq_ok_iff.1 hthresholds).2
  cases document with
  | null =>
    cases h
    exact Thresholds.isValid_default
  | record members => exact hmembers members h
  | other => exact hmembers [] h
  | _ => cases h

/-- So has a configuration that was read from a file, or that stands for a file that is not
there. -/
theorem Config.read_isValid {tree : Tree} {path shown : String} {config : Config}
    (h : read tree path shown = .ok config) : config.thresholds.IsValid := by
  unfold read at h
  split at h
  · unfold parse at h
    split at h
    · cases h
    · exact ofDatum_isValid h
  · cases h
    exact Thresholds.isValid_default
  · cases h

end BenchGate
