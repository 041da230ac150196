import Mathlib.Data.List.Flatten
import BenchGate.Config.Basic

/-!
# Rules for the members of a section

A section is laid over its defaults by putting its members behind them, because of a repeated name
the last member counts (`Datum.lookup_append`). What is kept of a section are the members of some
names (`Datum.restrict_eq_present_iff`). A `Rule` says what is asked of one member:
`Rule.complaint?` is what there is to say about a value, and `Rule.issue?` what there is to report
about a section. `Complaint.Says` puts complaints in words.
-/

namespace BenchGate

/-- A complaint in words. -/
inductive Complaint.Says : Complaint → String → Prop where
  | missing : Says .missing "Required"
  | wrongKind (expected received : String) :
    Says (.wrongKind expected received) ("Expected " ++ expected ++ ", received " ++ received)
  | brokenRule (rule : String) : Says (.brokenRule rule) rule

theorem Complaint.says_message (complaint : Complaint) : complaint.Says complaint.message := by
  cases complaint with
  | missing => exact .missing
  | wrongKind expected received => exact .wrongKind expected received
  | brokenRule rule => exact .brokenRule rule

namespace Datum

variable {members members' : List (String × Datum)} {name : String}

/-- Members put behind others are laid over them. -/
theorem lookup_append : lookup (members ++ members') name =
    (lookup members' name).or (lookup members name) := by
  simp only [lookup, List.reverse_append, List.find?_append, Option.map_or]

/-- The members of these names, each with the value that counts. -/
def restrict (names : List String) (members : List (String × Datum)) : List (String × Datum) :=
  names.filterMap fun name => (lookup members name).map (name, ·)

/-- The members of a record, some of which may be absent. -/
def present (fields : List (String × Option Datum)) : List (String × Datum) :=
  fields.filterMap fun field => field.2.map (field.1, ·)

theorem mem_names_of_restrict {names : List String} {pair : String × Datum}
    (h : pair ∈ restrict names members) : pair.1 ∈ names := by
  obtain ⟨name, hname, hpair⟩ := List.mem_filterMap.1 h
  obtain ⟨d, -, rfl⟩ := Option.map_eq_some_iff.1 hpair
  exact hname

theorem mem_names_of_present {fields : List (String × Option Datum)} {pair : String × Datum}
    (h : pair ∈ present fields) : pair.1 ∈ fields.map Prod.fst := by
  obtain ⟨field, hfield, hpair⟩ := List.mem_filterMap.1 h
  obtain ⟨d, -, rfl⟩ := Option.map_eq_some_iff.1 hpair
  exact List.mem_map_of_mem hfield

/-- What is kept of a record says of every name what its value is, or that it is absent. -/
theorem restrict_eq_present_iff {fields : List (String × Option Datum)}
    (h : (fields.map Prod.fst).Nodup) :
    restrict (fields.map Prod.fst) members = present fields ↔
      ∀ field ∈ fields, lookup members field.1 = field.2 := by
  induction fields with
  | nil => simp [restrict, present]
  | cons field fields ih =>
    obtain ⟨name, value⟩ := field
    obtain ⟨hfresh, hnodup⟩ := List.nodup_cons.1 h
    rw [List.forall_mem_cons, ← ih hnodup]
    have hrestrict : restrict (((name, value) :: fields).map Prod.fst) members =
        ((lookup members name).map (name, ·)).toList ++
          restrict (fields.map Prod.fst) members := by
      cases hlookup : lookup members name <;> simp [restrict, hlookup]
    have hpresent : present ((name, value) :: fields) =
        (value.map (name, ·)).toList ++ present fields := by
      cases value <;> simp [present]
    rw [hrestrict, hpresent]
    -- with a value on one side only, the name would be among the names of the others
    cases hlookup : lookup members name with
    | none =>
      cases value with
      | none => simp
      | some d =>
        refine iff_of_false (fun heq => ?_) (fun hboth => nomatch hboth.1)
        have hmem : (name, d) ∈ restrict (fields.map Prod.fst) members := by
          rw [Option.map_none, Option.toList_none, List.nil_append] at heq
          rw [heq]
          exact List.mem_cons_self
        exact hfresh (mem_names_of_restrict hmem)
    | some d =>
      cases value with
      | none =>
        refine iff_of_false (fun heq => ?_) (fun hboth => nomatch hboth.1)
        have hmem : (name, d) ∈ present fields := by
          rw [Option.map_none, Option.toList_none, List.nil_append] at heq
          rw [← heq]
          exact List.mem_cons_self
        exact hfresh (mem_names_of_present hmem)
      | some d' => simp

/-- The number that a value is, if it is one. The undefined number is none. -/
def number? : Datum → Option Float
  | number value => if value.isNaN then none else some value
  | _ => none

/-- The text that a value is, if it is one. -/
def text? : Datum → Option String
  | text value => some value
  | _ => none

theorem number?_eq_some_iff {d : Datum} {value : Float} :
    d.number? = some value ↔ d = .number value ∧ value.isNaN = false := by
  cases d with
  | number value' =>
    simp only [number?]
    split
    · next hnan =>
      refine ⟨nofun, fun ⟨h, hnum⟩ => ?_⟩
      cases h
      cases hnan.symm.trans hnum
    · next hnan =>
      rw [Bool.not_eq_true] at hnan
      constructor
      · intro h
        cases h
        exact ⟨rfl, hnan⟩
      · rintro ⟨h, -⟩
        cases h
        rfl
  | _ => simp [number?]

end Datum

/-- What a member has to be: a number or a text of which something holds. -/
inductive Demand where
  | number (holds : Float → Bool)
  | text (holds : String → Bool)

namespace Demand

/-- What messages call the values that are asked for. -/
def kindName : Demand → String
  | number _ => "number"
  | text _ => "string"

/-- Whether a value is as it should be. A value of another kind than asked for has no answer. -/
def holds? : Demand → Datum → Option Bool
  | number holds, d => d.number?.map holds
  | text holds, d => d.text?.map holds

end Demand

/-- What is asked of a member of a section, and what is said when it does not hold. -/
structure Rule where
  group : String
  name : String
  demand : Demand
  text : String
  isOptional : Bool := false

namespace Rule

/-- The complaint about the value of a member, or about its absence. -/
def complaint? (r : Rule) : Option Datum → Option Complaint
  | none => if r.isOptional then none else some .missing
  | some d =>
    match r.demand.holds? d with
    | none => some (.wrongKind r.demand.kindName d.kindName)
    | some true => none
    | some false => some (.brokenRule r.text)

/-- The issue that a section has with a rule. -/
def issue? (r : Rule) (members : List (String × Datum)) : Option Issue :=
  (r.complaint? (Datum.lookup members r.name)).map fun complaint => ⟨[r.group, r.name], complaint⟩

/-- The issues that a section has with some rules, one for each rule that is broken. -/
def issues (rules : List Rule) (members : List (String × Datum)) : List Issue :=
  rules.filterMap (·.issue? members)

variable {rules : List Rule} {members : List (String × Datum)}

theorem issues_eq_nil_iff : issues rules members = [] ↔ ∀ r ∈ rules, r.issue? members = none :=
  List.filterMap_eq_nil_iff

end Rule

end BenchGate
