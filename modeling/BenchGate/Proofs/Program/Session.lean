import BenchGate.Program
import BenchGate.Proofs.Run.Footprint

/-!
# Calls one after another

Calls of the program in one directory share nothing but its files (`Call.runAll`). A call changes at
most the file of its output, and changes nothing when it fails (`Call.Changes`). What it does
depends on the files along the paths that it touches (`Call.run_congr`), all of which its arguments
and variables name (`Call.touched_subset_paths`). So a call whose paths do not lead through the
outputs of earlier calls does what it would have done alone: it prints and sends the same and writes
the same file (`Call.runAll_isolated`). It is not enough that its paths lie elsewhere after
normalisation, since the system follows them name by name: `Call.runAll_through_file` shows a path
that turns back at a file.
-/

namespace BenchGate

open CommandLine

/-- A call of the program: its arguments, its variables and the replies to its requests. Where it
runs is left open. -/
structure Call where
  arguments : List String
  environment : Environment := { directory := "" }
  replies : List Reply := []

/-- What a file tree has after a call that it had not before, at a place. -/
def Tree.written (before after : Tree) (place : Location) : Option Bytes :=
  match after.entry? place with
  | some (.file content) =>
    if before.entry? place = some (.file content) then none else some content
  | _ => none

/-- Where nothing changes nothing is written. -/
theorem Tree.written_of_entry?_eq {before after : Tree} {place : Location}
    (h : after.entry? place = before.entry? place) : before.written after place = none := by
  unfold written
  rw [h]
  split
  · next content hcontent => rw [if_pos hcontent]
  · rfl

/-- Two calls on two trees do the same. -/
structure Exit.SameOn (path? : Option String) (tree tree' : Tree) (exit exit' : Exit) : Prop where
  status : exit'.status = exit.status
  out : exit'.out = exit.out
  err : exit'.err = exit.err
  requests : exit'.requests = exit.requests
  change : tree.ChangeAlike path? tree' exit.tree exit'.tree

namespace Tree.ChangeAlike

variable {path? : Option String} {tree tree' after after' : Tree}

/-- Without a path nothing changes. -/
theorem eq_of_none (h : tree.ChangeAlike none tree' after after') : after = tree := by
  cases h with
  | unchanged => rfl
  | written path content hpath hagree => cases hpath

/-- A change leaves all other places as they are. -/
theorem entry?_eq (h : tree.ChangeAlike path? tree' after after') {place : Location}
    (hplace : ∀ path, path? = some path → place ≠ destination path) :
    after.entry? place = tree.entry? place ∧ after'.entry? place = tree'.entry? place := by
  cases h with
  | unchanged => exact ⟨rfl, rfl⟩
  | written path content hpath hagree =>
    exact ⟨entry?_set_of_ne (hplace path hpath), entry?_set_of_ne (hplace path hpath)⟩

/-- Trees that change alike have the same written to them. -/
theorem written_eq (h : tree.ChangeAlike path? tree' after after') (place : Location) :
    tree'.written after' place = tree.written after place := by
  by_cases hplace : ∀ path, path? = some path → place ≠ destination path
  · obtain ⟨hafter, hafter'⟩ := h.entry?_eq hplace
    rw [written_of_entry?_eq hafter, written_of_entry?_eq hafter']
  · cases h with
    | unchanged => rw [written_of_entry?_eq rfl, written_of_entry?_eq rfl]
    | written path content hpath hagree =>
      obtain rfl : place = destination path := by simpa [hpath] using hplace
      have hbefore := hagree _ List.prefix_rfl
      rw [Tree.written, Tree.written, entry?_set_self tree' tree, destination, hbefore]

end Tree.ChangeAlike

namespace Call

/-- The variables of a call in a directory. -/
def environmentIn (directory : String) (call : Call) : Environment :=
  { call.environment with directory }

/-- A call in a directory with these files. -/
def run (directory : String) (tree : Tree) (call : Call) : Exit :=
  Program.run (call.environmentIn directory) tree (Reply.first call.replies) call.arguments

/-- Calls in one directory, one after another: the files that each one finds, and how it exits. -/
def runAll (directory : String) (tree : Tree) : List Call → List (Tree × Exit)
  | [] => []
  | call :: calls =>
    (tree, call.run directory tree) :: runAll directory (call.run directory tree).tree calls

/-- The path to which a call writes its outcome. -/
def output? (call : Call) : Option String :=
  match Invocation.ofArgs call.arguments with
  | .compare a => Delivery.present a.output
  | _ => none

/-- The path of the configuration that a comparison asks for. -/
def configPath (a : Arguments) : String :=
  match a.config with
  | some directory => Config.pathIn directory
  | none => Config.fileName

/-- The paths that a call reads or writes: a comparison reads its configuration in any case, and
then touches what its job touches. -/
def touched (directory : String) (tree : Tree) (call : Call) : List String :=
  match Invocation.ofArgs call.arguments with
  | .compare a =>
    configPath a ::
      match Program.loadConfig a (call.environmentIn directory) tree with
      | .error _ => []
      | .ok config =>
        (Program.job a config (call.environmentIn directory)).touched tree
          (Reply.first call.replies)
  | _ => []

/-- No path that a call touches, and no leading part of one, is the output of the other call. -/
def KeepsClearOf (directory : String) (tree : Tree) (other call : Call) : Prop :=
  ∀ path ∈ call.touched directory tree, ∀ output ∈ other.output?,
    ¬Path.LeadsThrough directory path output

instance (directory : String) (tree : Tree) (other call : Call) :
    Decidable (KeepsClearOf directory tree other call) :=
  inferInstanceAs (Decidable (∀ path ∈ _, ∀ output ∈ _, ¬_))

/-- What a call may change in the files that it finds. -/
structure Changes (directory : String) (call : Call) (found : Tree) (exit : Exit) : Prop where
  /-- Every place stays, except that of its output. -/
  elsewhere : ∀ place, (∀ path, call.output? = some path → place ≠ Tree.destination path) →
    exit.tree.entry? place = found.entry? place
  /-- A call without an output changes nothing. -/
  of_no_output : call.output? = none → exit.tree = found
  /-- Neither does one whose configuration cannot be used. -/
  of_configError : ∀ a e, Invocation.ofArgs call.arguments = .compare a →
    Program.loadConfig a (call.environmentIn directory) found = .error e → exit.tree = found
  /-- Neither does one whose job fails on the data, on the delivery or on the file. -/
  of_failure : ∀ a config f, Invocation.ofArgs call.arguments = .compare a →
    Program.loadConfig a (call.environmentIn directory) found = .ok config →
    ((Program.job a config (call.environmentIn directory)).run found
      (Reply.first call.replies)).result = .error f → exit.tree = found

/-- A call that found other files does what it does alone on `tree`. -/
structure SameAsAlone (tree : Tree) (alone : Exit) (found : Tree) (exit : Exit) : Prop where
  status : exit.status = alone.status
  out : exit.out = alone.out
  err : exit.err = alone.err
  requests : exit.requests = alone.requests
  written : ∀ place, found.written exit.tree place = tree.written alone.tree place

section
variable {directory : String} {tree tree' : Tree} {call : Call} {calls : List Call}

/-! ## One call -/

/-- Loading a configuration looks along its path. -/
theorem loadConfig_congr {a : Arguments} (h : tree.AgreeAlong tree' (configPath a))
    (env : Environment) : Program.loadConfig a env tree = Program.loadConfig a env tree' := by
  unfold configPath at h
  unfold Program.loadConfig
  cases hconfig : a.config with
  | none =>
    rw [hconfig] at h
    simp only [Config.loadCurrent, Config.read, h.read_eq]
  | some directory =>
    rw [hconfig] at h
    simp only [Config.load, Config.read, h.read_eq]

/-- A call looks along the paths that it touches, and nowhere else. -/
theorem run_congr (h : ∀ path ∈ call.touched directory tree, tree.AgreeAlong tree' path) :
    Exit.SameOn call.output? tree tree' (call.run directory tree) (call.run directory tree') := by
  unfold touched at h
  unfold run Program.run output?
  cases hargs : Invocation.ofArgs call.arguments with
  | compare a =>
    simp only [hargs, List.forall_mem_cons] at h
    obtain ⟨hconfig, hjob⟩ := h
    simp only [Program.compare, ← loadConfig_congr hconfig]
    cases hload : Program.loadConfig a (call.environmentIn directory) tree with
    | error e => exact ⟨rfl, rfl, rfl, rfl, .unchanged⟩
    | ok config =>
      simp only [hload] at hjob
      obtain ⟨hlines, hrequests, hresult, hchange⟩ := Job.run_congr hjob
      simp only [hlines, hrequests, hresult]
      exact ⟨rfl, rfl, rfl, rfl, hchange⟩
  | _ => exact ⟨rfl, rfl, rfl, rfl, .unchanged⟩

/-- A call changes at most its output. -/
theorem run_changes (directory : String) (call : Call) (found : Tree) :
    call.Changes directory found (call.run directory found) := by
  have hsame : Exit.SameOn call.output? found found (call.run directory found)
      (call.run directory found) := run_congr fun _ _ _ _ => rfl
  have hcompare : ∀ a, Invocation.ofArgs call.arguments = .compare a → call.run directory found =
      Program.compare a (call.environmentIn directory) found (Reply.first call.replies) :=
    fun a hargs => by simp only [run, Program.run, hargs]
  constructor
  case elsewhere => exact fun place hplace => (hsame.change.entry?_eq hplace).1
  case of_no_output =>
    intro hnone
    exact (hnone ▸ hsame.change).eq_of_none
  case of_configError =>
    intro a e hargs hload
    rw [hcompare a hargs, Program.compare, hload]
  case of_failure =>
    intro a config f hargs hload hresult
    rw [hcompare a hargs, Program.compare, hload]
    exact Job.tree_of_failure hresult

/-- A call touches no other paths than those that its arguments and its variables name. -/
theorem touched_subset_paths : call.touched directory tree ⊆
    Program.paths (call.environmentIn directory) call.arguments := by
  unfold touched Program.paths
  cases hargs : Invocation.ofArgs call.arguments with
  | compare a =>
    have hconfig : configPath a = (a.config.map Config.pathIn).getD Config.fileName := by
      unfold configPath
      cases a.config <;> rfl
    have hevent : (a.eventPath.or (call.environmentIn directory).eventPath).toList ⊆
        a.eventPath.toList ++ (call.environmentIn directory).eventPath.toList := by
      cases a.eventPath with
      | none => exact List.Subset.refl _
      | some path => exact List.subset_append_left _ _
    simp only [List.cons_append, ← hconfig]
    refine List.cons_subset_cons _ ?_
    cases Program.loadConfig a (call.environmentIn directory) tree with
    | error e => exact List.nil_subset _
    | ok config =>
      refine List.Subset.trans Job.touched_subset ?_
      rw [← List.append_assoc]
      exact append_subset_append (append_subset_append (List.Subset.refl _) hevent)
        (List.Subset.refl _)
  | _ => exact List.nil_subset _

/-! ## Many calls -/

/-- Calls that keep clear of each other and of what other outputs changed before them do what they
do alone. -/
theorem forall₂_runAll_of_clear {current : Tree} {others : List String}
    (hsame : ∀ place, (∀ other ∈ others, place ≠ Tree.destination other) →
      tree.entry? place = current.entry? place)
    (hothers : ∀ call ∈ calls, ∀ path ∈ call.touched directory tree, ∀ other ∈ others,
      ¬Path.LeadsThrough directory path other)
    (hclear : calls.Pairwise (KeepsClearOf directory tree)) :
    List.Forall₂ (fun call step => SameAsAlone tree (call.run directory tree) step.1 step.2) calls
      (runAll directory current calls) := by
  induction calls generalizing current others with
  | nil => exact .nil
  | cons call calls ih =>
    obtain ⟨hcall, hcalls⟩ := List.forall_mem_cons.1 hothers
    obtain ⟨hclear, hrest⟩ := List.pairwise_cons.1 hclear
    have hrun : Exit.SameOn call.output? tree current _ _ := run_congr fun path hpath =>
      Tree.agreeAlong_of_not_leadsThrough hsame (hcall path hpath)
    refine .cons ⟨hrun.status, hrun.out, hrun.err, hrun.requests, hrun.change.written_eq⟩ ?_
    -- the output of this call joins those of the calls before it
    have hsame' : ∀ place, (∀ other ∈ call.output?.toList ++ others,
        place ≠ Tree.destination other) →
          tree.entry? place = (call.run directory current).tree.entry? place := by
      intro place hplace
      obtain ⟨hout, hplace⟩ := List.forall_mem_append.1 hplace
      rw [hsame place hplace]
      refine ((run_changes directory call current).elsewhere place fun path hpath => ?_).symm
      exact hout path (Option.mem_toList.2 hpath)
    refine ih hsame' (fun later hlater path hpath => ?_) hrest
    refine List.forall_mem_append.2 ⟨fun output houtput => ?_, hcalls later hlater path hpath⟩
    exact hclear later hlater path hpath output (Option.mem_toList.1 houtput)

/-- Whatever the calls are, each one changes at most the file of its output in what it finds. If
each one keeps clear of the calls before it, then each one does what it does alone. -/
theorem runAll_isolated (directory : String) (tree : Tree) (calls : List Call) :
    List.Forall₂ (fun call step => call.Changes directory step.1 step.2) calls
        (runAll directory tree calls) ∧
      (calls.Pairwise (KeepsClearOf directory tree) →
        List.Forall₂ (fun call step => SameAsAlone tree (call.run directory tree) step.1 step.2)
          calls (runAll directory tree calls)) := by
  constructor
  · induction calls generalizing tree with
    | nil => exact .nil
    | cons call calls ih => exact .cons (run_changes directory call tree) (ih _)
  · have hnone : ∀ call ∈ calls, ∀ path ∈ call.touched directory tree, ∀ other ∈ ([] : List String),
        ¬Path.LeadsThrough directory path other := fun _ _ _ _ => List.forall_mem_nil _
    exact forall₂_runAll_of_clear (fun _ _ => rfl) hnone

end

/-- The files of two runs that took the same time. -/
def evenTree : Tree :=
  (({} : Tree).addFile "old.txt" (Utf8.encode "1")).addFile "new.txt" (Utf8.encode "1")

/-- A call that compares them and saves the outcome in a new file. -/
def savingCall : Call where
  arguments := ["old.txt", "old.txt", "new.txt", "new.txt", "t", "", "--output", "a"]

/-- A call that compares them the other way round. -/
def reverseCall : Call where
  arguments := ["./new.txt", "./new.txt", "old.txt", "old.txt", "t"]

/-- A call with a path that goes through the name of the new file and back. -/
def turningCall : Call where
  arguments := ["a/../old.txt", "old.txt", "new.txt", "new.txt", "t"]

/-- The second of these calls does not notice that the first one has saved its outcome. -/
theorem runAll_isolated_reverse :
    [savingCall, reverseCall].Pairwise (KeepsClearOf "/work" evenTree) ∧
      (savingCall.run "/work" evenTree).tree.entry? ["a"] ≠ none ∧
      List.Forall₂ (fun call step => SameAsAlone evenTree (call.run "/work" evenTree) step.1 step.2)
        [savingCall, reverseCall] (runAll "/work" evenTree [savingCall, reverseCall]) := by
  have hclear : [savingCall, reverseCall].Pairwise (KeepsClearOf "/work" evenTree) := by
    decide +kernel
  exact ⟨hclear, by decide +kernel, (runAll_isolated "/work" evenTree _).2 hclear⟩

/-- Every path that the second of these calls names lies outside the output of the first one, and
the second one has no output. Still it prints something else than alone, where a name of its path
is missing. -/
theorem runAll_through_file :
    savingCall.output? = some "a" ∧ turningCall.output? = none ∧
      (∀ path ∈ Program.paths (turningCall.environmentIn "/work") turningCall.arguments,
        ¬Path.IsWithin "/work" path "a") ∧
      (runAll "/work" evenTree [savingCall, turningCall]).map (·.2.out) =
        [(savingCall.run "/work" evenTree).out, "Reading a/../old.txt\nTimingInputError: Failed " ++
          "to read a/../old.txt: ENOTDIR: not a directory, open 'a/../old.txt'\n"] ∧
      (turningCall.run "/work" evenTree).out =
        "Reading a/../old.txt\nTimingInputError: Timing file not found: a/../old.txt\n" := by
  decide +kernel

end Call

end BenchGate
