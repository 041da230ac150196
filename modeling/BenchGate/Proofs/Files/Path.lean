import BenchGate.Files.Tree
import Mathlib

/-!
# Where paths lead

A path is normalised from the root on by `Path.resolve`, and `Path.LeadsThrough` says that one path
goes through the file of another one on its way. Following names in a tree goes by places instead,
which are counted from the current directory. Two paths that reach one place have one normal form
(`Tree.resolveNames_eq_of_reach_eq`), so that paths are kept apart by keeping their normal forms
apart.
-/

namespace BenchGate

namespace Path

/-- Some names of a path in a directory, from the root on and after normalisation, the last name
first. -/
def resolveNames (directory path : String) (part : List String) : List String :=
  ((if isAbsolute path then [] else names directory) ++ part).foldl (shorten true) []

/-- The normal form of a path in a directory. -/
def resolve (directory path : String) : List String := resolveNames directory path (names path)

/-- A path is, after normalisation, another one or below it. -/
def IsWithin (directory path other : String) : Prop :=
  resolve directory other <:+ resolve directory path

instance (directory path other : String) : Decidable (IsWithin directory path other) :=
  inferInstanceAs (Decidable (_ <:+ _))

/-- A leading part of a path, or the path itself, is after normalisation another path. -/
def LeadsThrough (directory path other : String) : Prop :=
  ∃ part, part ≠ [] ∧ part <+: names path ∧
    resolveNames directory path part = resolve directory other

theorem leadsThrough_iff {directory path other : String} : LeadsThrough directory path other ↔
    ∃ part ∈ (names path).inits, part ≠ [] ∧
      resolveNames directory path part = resolve directory other := by
  simp only [LeadsThrough, List.mem_inits]
  exact exists_congr fun part => ⟨fun ⟨hne, h, heq⟩ => ⟨h, hne, heq⟩,
    fun ⟨h, hne, heq⟩ => ⟨hne, h, heq⟩⟩

instance (directory path other : String) : Decidable (LeadsThrough directory path other) :=
  decidable_of_iff' _ leadsThrough_iff

/-- What lies between two slashes holds none. -/
theorem not_mem_of_mem_splitOn {chars part : List Char} {c : Char} (h : part ∈ chars.splitOn c) :
    c ∉ part := by
  induction chars generalizing part with
  | nil =>
    rw [List.splitOn_nil, List.mem_singleton] at h
    simp [h]
  | cons d chars ih =>
    rw [List.splitOn_cons_eq_if_modifyHead] at h
    split_ifs at h with hd
    · rcases List.mem_cons.1 h with rfl | h
      · exact List.not_mem_nil
      · exact ih h
    · obtain ⟨first, rest, hsplit⟩ := List.exists_cons_of_ne_nil (List.splitOn_ne_nil c chars)
      rw [hsplit] at h ih
      rcases List.mem_cons.1 h with rfl | h
      · exact List.not_mem_cons_of_ne_of_not_mem (fun heq => hd (by simp [heq]))
          (ih List.mem_cons_self)
      · exact ih (List.mem_cons_of_mem _ h)

/-- No name of a path is the root. -/
theorem ne_root_of_mem_names {path name : String} (h : name ∈ names path) : name ≠ "/" := by
  obtain ⟨part, hpart, rfl⟩ := List.mem_map.1 (List.mem_of_mem_filter h)
  intro heq
  have hslash : part = ['/'] := by
    rw [← String.toList_ofList (l := part), heq]
    rfl
  exact not_mem_of_mem_splitOn hpart (hslash ▸ List.mem_singleton_self _)

section
variable {done part : List String} {name : String}

/-- From the root on, `..` takes away the last name, if there is one. -/
theorem shorten_up (h : ".." ∉ done) : shorten true done ".." = done.tail := by
  cases done with
  | nil => rfl
  | cons last rest =>
    have hlast : last ≠ ".." := fun heq => h (heq ▸ List.mem_cons_self)
    simp [shorten, hlast]

/-- Another name is added. -/
theorem shorten_name (hdot : name ≠ ".") (hup : name ≠ "..") :
    shorten true done name = name :: done := by
  simp only [shorten, hdot, hup, if_false]

/-- So normalisation leaves no `..`. -/
theorem up_not_mem_shorten (h : ".." ∉ done) : ".." ∉ shorten true done name := by
  by_cases hdot : name = "."
  · simpa only [shorten, hdot, if_true] using h
  by_cases hup : name = ".."
  · rw [hup, shorten_up h]
    exact fun hmem => h (List.mem_of_mem_tail hmem)
  · rw [shorten_name hdot hup]
    exact List.not_mem_cons_of_ne_of_not_mem (Ne.symm hup) h

theorem up_not_mem_foldl_shorten (h : ".." ∉ done) : ".." ∉ part.foldl (shorten true) done := by
  induction part generalizing done with
  | nil => exact h
  | cons name part ih => exact ih (up_not_mem_shorten h)

end

end Path

namespace Tree

/-- The place that some names of a path lead to, whatever stands there. -/
def reach (path : String) (part : List String) : Location := part.foldl step (origin path)

/-- The place that a path leads to. -/
def destination (path : String) : Location := reach path (Path.names path)

/-- The names of a place from the root on, if those of the current directory are given. -/
def namesFrom (base : List String) : Location → List String
  | [] => base
  | ["/"] => []
  | ".." :: place => (namesFrom base place).tail
  | name :: place => name :: namesFrom base place

section
variable {base : List String} {place : Location} {name : String}

/-- The directory of a place has one name less. -/
theorem namesFrom_parent : namesFrom base (parent place) = (namesFrom base place).tail := by
  unfold parent
  split
  · rfl
  · rfl
  · rfl
  · next hroot hup =>
    rw [namesFrom, List.tail_cons]
    · exact hroot
    · exact hup

/-- One name further, places and normal forms go the same way. -/
theorem namesFrom_step (hname : name ≠ "/") (h : ".." ∉ namesFrom base place) :
    namesFrom base (step place name) = Path.shorten true (namesFrom base place) name := by
  unfold step
  by_cases hdot : name = "."
  · simp only [Path.shorten, hdot, if_true]
  by_cases hup : name = ".."
  · simp only [hup, if_neg (by decide : ¬".." = "."), if_true, namesFrom_parent, Path.shorten_up h]
  · rw [if_neg hdot, if_neg hup, Path.shorten_name hdot hup, namesFrom]
    · exact fun hroot _ => hname hroot
    · exact hup

theorem namesFrom_foldl_step {part : List String} (hpart : ∀ name ∈ part, name ≠ "/")
    (h : ".." ∉ namesFrom base place) : namesFrom base (part.foldl step place) =
      part.foldl (Path.shorten true) (namesFrom base place) := by
  induction part generalizing place with
  | nil => rfl
  | cons name part ih =>
    obtain ⟨hname, hpart⟩ := List.forall_mem_cons.1 hpart
    have hstep := namesFrom_step hname h
    rw [List.foldl_cons, List.foldl_cons, ih hpart (hstep ▸ Path.up_not_mem_shorten h), hstep]

end

section
variable {path other : String} {part part' : List String}

/-- The names of the place that some names of a path lead to. -/
theorem namesFrom_reach (directory : String) (h : part <+: Path.names path) :
    namesFrom ((Path.names directory).foldl (Path.shorten true) []) (reach path part) =
      Path.resolveNames directory path part := by
  have hpart : ∀ name ∈ part, name ≠ "/" := fun name hname =>
    Path.ne_root_of_mem_names (h.subset hname)
  have hbase : ".." ∉ (Path.names directory).foldl (Path.shorten true) [] :=
    Path.up_not_mem_foldl_shorten List.not_mem_nil
  rw [Path.resolveNames, List.foldl_append, reach, origin]
  split_ifs
  · exact namesFrom_foldl_step hpart List.not_mem_nil
  · exact namesFrom_foldl_step hpart hbase

/-- Names of two paths that lead to one place have one normal form. -/
theorem resolveNames_eq_of_reach_eq (directory : String) (hpart : part <+: Path.names path)
    (hpart' : part' <+: Path.names other) (h : reach path part = reach other part') :
    Path.resolveNames directory path part = Path.resolveNames directory other part' := by
  rw [← namesFrom_reach directory hpart, ← namesFrom_reach directory hpart', h]

/-- A path that does not lead through another one never passes its place, if that is not where it
begins. -/
theorem reach_ne_destination {directory : String} (h : ¬Path.LeadsThrough directory path other)
    (hpart : part <+: Path.names path) (hne : part ≠ []) : reach path part ≠ destination other := by
  intro hreach
  exact h ⟨part, hne, hpart, resolveNames_eq_of_reach_eq directory hpart List.prefix_rfl hreach⟩

end

end Tree

end BenchGate
