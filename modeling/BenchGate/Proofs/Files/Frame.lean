import BenchGate.Proofs.Files.Path
import BenchGate.Proofs.Result

/-!
# What reading and writing look at

Following a path looks at the places that its leading parts reach, and nowhere else. Trees that
agree at these places (`Tree.AgreeAlong`) give the same content to a reader and the same place to a
writer (`Tree.AgreeAlong.read_eq`, `Tree.AgreeAlong.target_eq`). A writer changes the one place that
its path reaches (`Tree.write_eq`), and with it no path that does not lead there
(`Tree.agreeAlong_of_not_leadsThrough`).
-/

namespace BenchGate

namespace Tree

/-- Two trees have the same at every place that a path passes. -/
def AgreeAlong (tree tree' : Tree) (path : String) : Prop :=
  ∀ part, part <+: Path.names path → tree.entry? (reach path part) = tree'.entry? (reach path part)

section
variable {tree tree' : Tree} {place place' : Location} {name path : String} {entry : Entry}

/-! ## Following names -/

/-- A name that can be followed leads one step further. -/
theorem eq_step_of_follow (h : tree.follow place name = .ok place') : place' = step place name := by
  unfold follow at h
  unfold step
  split at h
  · cases h
  · cases h
  · split_ifs at h ⊢ <;> cases h <;> rfl

/-- Following a name looks at the place itself and at the next one. -/
theorem follow_congr (h : tree.entry? place = tree'.entry? place)
    (hstep : tree.entry? (step place name) = tree'.entry? (step place name)) :
    tree.follow place name = tree'.follow place name := by
  unfold follow
  unfold step at hstep
  rw [h]
  split
  · rfl
  · rfl
  · by_cases hdot : name = "."
    · simp only [hdot, if_true]
    by_cases hup : name = ".."
    · simp only [hup, if_true]
    rw [if_neg hdot, if_neg hup] at hstep
    rw [hstep]

/-- Names that can be followed lead where they lead in any tree. -/
theorem eq_foldl_of_foldlM_follow {part : List String}
    (h : part.foldlM tree.follow place = .ok place') : place' = part.foldl step place := by
  induction part generalizing place with
  | nil =>
    cases h
    rfl
  | cons name part ih =>
    rw [List.foldlM_cons] at h
    obtain ⟨next, hnext, hrest⟩ := Except.bind_eq_ok_iff.1 h
    rw [ih hrest, eq_step_of_follow hnext, List.foldl_cons]

/-- Following names looks at the places on the way. -/
theorem foldlM_follow_congr {part : List String} (h : ∀ front, front <+: part →
      tree.entry? (front.foldl step place) = tree'.entry? (front.foldl step place)) :
    part.foldlM tree.follow place = part.foldlM tree'.follow place := by
  induction part generalizing place with
  | nil => rfl
  | cons name part ih =>
    have hfollow : tree.follow place name = tree'.follow place name :=
      follow_congr (h [] List.nil_prefix) (h [name] (List.prefix_append [name] part))
    rw [List.foldlM_cons, List.foldlM_cons, hfollow]
    cases hnext : tree'.follow place name with
    | error e => rfl
    | ok next =>
      obtain rfl := eq_step_of_follow hnext
      exact ih fun front hfront => h (name :: front) (List.cons_prefix_cons.2 ⟨rfl, hfront⟩)

/-! ## Reading -/

/-- A reader sees what stands along its path. -/
theorem AgreeAlong.read_eq (h : tree.AgreeAlong tree' path) : tree.read path = tree'.read path := by
  unfold read
  rw [foldlM_follow_congr h]
  cases pathError? path with
  | some e => rfl
  | none =>
    cases hplace : (Path.names path).foldlM tree'.follow (origin path) with
    | error e => rfl
    | ok place =>
      obtain rfl := eq_foldl_of_foldlM_follow hplace
      have hentry := h _ List.prefix_rfl
      rw [reach] at hentry
      simp only [bind, Except.bind, hentry]

/-! ## Writing -/

/-- A writer looks along its path. -/
theorem AgreeAlong.target_eq (h : tree.AgreeAlong tree' path) :
    tree.target path = tree'.target path := by
  unfold target
  cases pathError? path with
  | some e => rfl
  | none =>
    cases hnames : (Path.names path).reverse with
    | nil => rfl
    | cons last before =>
      have hsplit : Path.names path = before.reverse ++ [last] := by
        rw [← List.reverse_reverse (Path.names path), hnames, List.reverse_cons]
      have hfront : ∀ front, front <+: before.reverse →
          tree.entry? (front.foldl step (origin path)) =
            tree'.entry? (front.foldl step (origin path)) := fun front hfront =>
        h front (hsplit ▸ hfront.trans (List.prefix_append _ _))
      simp only [foldlM_follow_congr hfront]
      cases hplace : before.reverse.foldlM tree'.follow (origin path) with
      | error e => rfl
      | ok place =>
        obtain rfl := eq_foldl_of_foldlM_follow hplace
        have hentry := hfront _ List.prefix_rfl
        have hlast := h _ List.prefix_rfl
        rw [reach, hsplit, List.foldl_append, List.foldl_cons, List.foldl_nil] at hlast
        simp only [bind, Except.bind, follow_congr hentry hlast, hentry]
        by_cases hdots : last = "." ∨ last = ".."
        · simp only [hdots, if_true]
        · obtain ⟨hdot, hup⟩ := not_or.1 hdots
          rw [step, if_neg hdot, if_neg hup] at hlast
          simp only [hdots, if_false, hlast]

/-- A writer writes where its path leads. -/
theorem eq_destination_of_target (h : tree.target path = .ok place) : place = destination path := by
  unfold target at h
  cases hpath : pathError? path with
  | some e => simp only [hpath, reduceCtorEq] at h
  | none =>
    cases hnames : (Path.names path).reverse with
    | nil => simp only [hpath, hnames, reduceCtorEq] at h
    | cons last before =>
      have hsplit : Path.names path = before.reverse ++ [last] := by
        rw [← List.reverse_reverse (Path.names path), hnames, List.reverse_cons]
      simp only [hpath, hnames] at h
      obtain ⟨directory, hdirectory, h⟩ := Except.bind_eq_ok_iff.1 h
      obtain rfl := eq_foldl_of_foldlM_follow hdirectory
      rw [destination, reach, hsplit, List.foldl_append, List.foldl_cons, List.foldl_nil]
      by_cases hdots : last = "." ∨ last = ".."
      · rw [if_pos hdots] at h
        obtain ⟨_, -, h⟩ := Except.bind_eq_ok_iff.1 h
        cases h
      · obtain ⟨hdot, hup⟩ := not_or.1 hdots
        rw [if_neg hdots] at h
        rw [step, if_neg hdot, if_neg hup]
        split at h
        · cases h
        · split_ifs at h
          cases h
          rfl

/-- A file is written where its path leads, if something can be written there. -/
theorem write_eq (tree : Tree) (path : String) (content : Bytes) : tree.write path content =
    (tree.target path).map fun _ => tree.set (destination path) (.file content) := by
  unfold write
  cases htarget : tree.target path with
  | error e => rfl
  | ok place =>
    rw [eq_destination_of_target htarget]
    rfl

/-- What stands at a place stays when the entries of another place are taken out. -/
theorem lookup_filter_of_ne {entries : List (Location × Entry)} (h : place' ≠ place) :
    (entries.filter (·.1 ≠ place)).lookup place' = entries.lookup place' := by
  induction entries with
  | nil => rfl
  | cons other entries ih =>
    by_cases hother : other.1 = place
    · rw [List.filter_cons_of_neg (by simp [hother]), ih, List.lookup_cons, hother,
        beq_false_of_ne h]
    · rw [List.filter_cons_of_pos (by simp [hother]), List.lookup_cons, List.lookup_cons, ih]

/-- A writer changes nothing at other places. -/
theorem entry?_set_of_ne (h : place' ≠ place) :
    entry? (tree.set place entry) place' = tree.entry? place' := by
  have hlookup : (tree.set place entry).entries.lookup place' = tree.entries.lookup place' := by
    rw [set, List.lookup_cons, beq_false_of_ne h]
    exact lookup_filter_of_ne h
  unfold entry?
  rw [hlookup]

/-- What stands at the place does not depend on the tree any more. -/
theorem entry?_set_self (tree tree' : Tree) (place : Location) (entry : Entry) :
    entry? (tree.set place entry) place = entry? (tree'.set place entry) place := by
  have hlookup : ∀ t : Tree, (t.set place entry).entries.lookup place = some entry := fun t => by
    rw [set, List.lookup_cons_self]
  unfold entry?
  rw [hlookup, hlookup]

/-- Where a path begins there is always a directory. -/
theorem entry?_origin (tree : Tree) (path : String) :
    tree.entry? (origin path) = some .directory := by
  unfold origin
  split_ifs <;> rfl

/-- Trees that differ only where some paths lead agree along a path that leads through none. -/
theorem agreeAlong_of_not_leadsThrough {directory : String} {others : List String}
    (hsame : ∀ place, (∀ other ∈ others, place ≠ destination other) →
      tree.entry? place = tree'.entry? place)
    (h : ∀ other ∈ others, ¬Path.LeadsThrough directory path other) :
    tree.AgreeAlong tree' path := by
  intro part hpart
  by_cases hne : part = []
  · rw [hne, reach, List.foldl_nil, entry?_origin, entry?_origin]
  · exact hsame _ fun other hother => reach_ne_destination (h other hother) hpart hne

end

end Tree

end BenchGate
