import BenchGate.Proofs.Text.Percent

/-!
# Dot segments

Before a request is sent, the path of its address is resolved: a segment `.` is dropped, and a
segment `..` is dropped together with what is left before it. The dot may be written as `%2e` too.
`Url.resolve` follows the path state of the URL standard, one segment after the other. A path keeps
what is added at its end exactly if no added segment is a dot segment (`Url.resolve_append_eq_iff`).
Percent-encoding leaves dots as they are, so that it makes dot segments of `.` and `..` and of
nothing else (`Url.isDot_encode_iff`).
-/

namespace BenchGate.Url

/-- The ways to write one dot. -/
def dotForms : List String := [".", "%2e", "%2E"]

/-- A segment that is dropped. -/
def isSingleDot (segment : String) : Bool := segment ∈ dotForms

/-- A segment that is dropped with the one before it. -/
def isDoubleDot (segment : String) : Bool :=
  segment ∈ dotForms.flatMap fun dot => dotForms.map (dot ++ ·)

/-- A segment that does not stay in a path. -/
def isDot (segment : String) : Bool := isSingleDot segment || isDoubleDot segment

/-- What is left, last segment first, after one more segment. -/
def keep (left : List String) (segment : String) : List String :=
  if isDoubleDot segment then left.tail
  else if isSingleDot segment then left
  else segment :: left

/-- What is left of the segments if more of them follow. -/
def directory (segments : List String) : List String := (segments.foldl keep []).reverse

/-- What is left of the segments of a path. A dot segment at its end leaves an empty one. -/
def resolve (segments : List String) : List String :=
  directory segments ++ if segments.getLast?.any isDot then [""] else []

/-! ## Paths as texts -/

/-- The path of some segments. -/
def pathText (segments : List String) : String :=
  .ofList (segments.flatMap fun segment => '/' :: segment.toList)

/-- The segments of a path. -/
def segments (path : String) : List String := (path.toList.splitOn '/').tail.map .ofList

/-- The segments that a request is sent to. -/
def destination (path : String) : List String := resolve (segments path)

theorem segments_empty : segments "" = [] := by
  simp [segments]

section
variable {parts : List String}

/-- Parts without slashes are cut as they were put together, whatever is before them. -/
theorem splitOn_append_parts (h : ∀ part ∈ parts, '/' ∉ part.toList) (chars : List Char) :
    (chars ++ parts.flatMap fun part => '/' :: part.toList).splitOn '/' =
      chars.splitOn '/' ++ parts.map String.toList := by
  induction parts generalizing chars with
  | nil => simp
  | cons part parts ih =>
    have hpart : part.toList.splitOn '/' = [part.toList] :=
      List.splitOn_eq_singleton (h part List.mem_cons_self)
    rw [List.flatMap_cons, List.cons_append, List.splitOn_append_cons_self,
      ih (fun part' hmem => h part' (List.mem_cons_of_mem _ hmem)), hpart]
    rfl

/-- Segments without slashes read back, whatever path they are added to. -/
theorem segments_append_pathText (h : ∀ part ∈ parts, '/' ∉ part.toList) (path : String) :
    segments (path ++ pathText parts) = segments path ++ parts := by
  have hmap : (parts.map String.toList).map String.ofList = parts := by
    simp
  rw [segments, pathText, String.toList_append, String.toList_ofList, splitOn_append_parts h,
    List.tail_append_of_ne_nil (List.splitOn_ne_nil _ _), List.map_append, hmap, segments]

end

/-! ## Encoded texts -/

/-- The texts of nothing but one dot or two. -/
def IsDots (text : String) : Prop := text = "." ∨ text = ".."

instance (text : String) : Decidable (IsDots text) :=
  inferInstanceAs (Decidable (_ ∨ _))

/-- A dot segment is read as dots, however they are written. -/
theorem isDots_decode {segment : String} (h : isDot segment = true) :
    IsDots (Percent.decode segment) := by
  have hforms : (∀ form ∈ dotForms, IsDots (Percent.decode form)) ∧
      ∀ form ∈ dotForms.flatMap fun dot => dotForms.map (dot ++ ·),
        IsDots (Percent.decode form) := by
    decide +kernel
  rcases Bool.or_eq_true_iff.1 h with hsingle | hdouble
  · exact hforms.1 segment (of_decide_eq_true hsingle)
  · exact hforms.2 segment (of_decide_eq_true hdouble)

/-- Dots are encoded as themselves, and nothing else is encoded as a dot segment. -/
theorem isDot_encode_iff {text : String} : isDot (Percent.encode text) = true ↔ IsDots text := by
  constructor
  · intro h
    simpa only [Percent.decode_encode] using isDots_decode h
  · rintro (rfl | rfl) <;> decide +kernel

/-- What is encoded as dots are the same dots. -/
theorem isDots_encode_iff {text : String} : IsDots (Percent.encode text) ↔ IsDots text := by
  have hdots : Percent.encode "." = "." ∧ Percent.encode ".." = ".." := by
    decide +kernel
  constructor
  · rintro (h | h)
    · exact .inl (Percent.encode_injective (h.trans hdots.1.symm))
    · exact .inr (Percent.encode_injective (h.trans hdots.2.symm))
  · rintro (rfl | rfl)
    · exact .inl hdots.1
    · exact .inr hdots.2

/-! ## What is left -/

section
variable {left kept parts : List String} {segment : String}

/-- No dot segment is left. -/
theorem not_isDot_keep (h : ∀ part ∈ left, isDot part = false) :
    ∀ part ∈ keep left segment, isDot part = false := by
  unfold keep
  split_ifs with hdouble hsingle
  · exact fun part hmem => h part (List.mem_of_mem_tail hmem)
  · exact h
  · refine List.forall_mem_cons.2 ⟨?_, h⟩
    simp [isDot, hdouble, hsingle]

theorem not_isDot_directory (parts : List String) :
    ∀ part ∈ directory parts, isDot part = false := by
  have hrun : ∀ left : List String, (∀ part ∈ left, isDot part = false) →
      ∀ part ∈ parts.foldl keep left, isDot part = false := by
    induction parts with
    | nil => exact fun _ h => h
    | cons segment parts ih => exact fun left h => ih _ (not_isDot_keep h)
  intro part hmem
  exact hrun [] (by simp) part (List.mem_reverse.1 hmem)

theorem not_isDot_resolve (parts : List String) :
    ∀ part ∈ resolve parts, isDot part = false := by
  refine List.forall_mem_append.2 ⟨not_isDot_directory parts, fun part hmem => ?_⟩
  split_ifs at hmem
  · rw [List.mem_singleton.1 hmem]
    decide
  · cases hmem

/-- A segment without dots is kept. -/
theorem keep_of_not_isDot (h : isDot segment = false) : keep left segment = segment :: left := by
  obtain ⟨hsingle, hdouble⟩ := Bool.or_eq_false_iff.1 h
  simp [keep, hsingle, hdouble]

theorem foldl_keep_of_not_isDot (h : ∀ part ∈ parts, isDot part = false) (left : List String) :
    parts.foldl keep left = parts.reverse ++ left := by
  induction parts generalizing left with
  | nil => rfl
  | cons segment parts ih =>
    obtain ⟨hsegment, hparts⟩ := List.forall_mem_cons.1 h
    rw [List.foldl_cons, keep_of_not_isDot hsegment, ih hparts, List.reverse_cons,
      List.append_assoc]
    rfl

/-- Segments stay at the end of a path exactly if none of them is a dot segment. -/
theorem resolve_append_eq_iff (hne : parts ≠ []) (front : List String) :
    resolve (front ++ parts) = directory front ++ parts ↔ ∀ part ∈ parts, isDot part = false := by
  constructor
  · intro h part hmem
    exact not_isDot_resolve (front ++ parts) part (h ▸ List.mem_append_right _ hmem)
  · intro h
    have hlast : (front ++ parts).getLast?.any isDot = false := by
      rw [List.getLast?_append_of_ne_nil _ hne, List.getLast?_eq_some_getLast hne]
      simpa using h _ (List.getLast_mem hne)
    rw [resolve, directory, List.foldl_append, foldl_keep_of_not_isDot h, hlast]
    simp [directory]

/-- One more segment takes away at most one. -/
theorem tail_suffix_keep (h : kept <:+ left) : kept.tail <:+ keep left segment := by
  have htail : kept.tail <:+ left := (List.tail_suffix kept).trans h
  unfold keep
  split_ifs with hdouble hsingle
  · cases left with
    | nil => exact htail
    | cons last rest =>
      rcases List.suffix_cons_iff.1 h with rfl | h
      · exact List.suffix_rfl
      · exact (List.tail_suffix kept).trans h
  · exact htail
  · exact htail.trans (List.suffix_cons _ _)

end

end BenchGate.Url
