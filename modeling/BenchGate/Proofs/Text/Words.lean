import Mathlib.Data.List.TakeDrop
import Mathlib.Data.List.TakeWhile
import BenchGate.Text.Blank

/-!
# Words

`Text.Runs` describes the maximal runs of characters that are not blank without a reading order:
each run is preceded by blanks only and followed by a blank or by the end. Every text has exactly
one list of such runs, and it is what `Text.words` gives (`Text.runs_iff`). The lemmas before it cut
a text where its characters stop to be of one kind.
-/

namespace List

variable {α : Type} {p : α → Bool} {front rest : List α}

/-- What is taken from a text ends where the characters stop to be of a kind. -/
theorem takeWhile_append_of_head (hfront : ∀ a ∈ front, p a = true)
    (hrest : ∀ a ∈ rest.head?, p a = false) : (front ++ rest).takeWhile p = front := by
  rw [takeWhile_append_of_pos hfront]
  cases rest with
  | nil => simp
  | cons a rest => simp [hrest a rfl]

/-- What is left of a text begins there. -/
theorem dropWhile_append_of_head (hfront : ∀ a ∈ front, p a = true)
    (hrest : ∀ a ∈ rest.head?, p a = false) : (front ++ rest).dropWhile p = rest := by
  rw [dropWhile_append_of_pos hfront]
  cases rest with
  | nil => rfl
  | cons a rest => simp [hrest a rfl]

/-- A text is cut there. -/
theorem span_append_of_head (hfront : ∀ a ∈ front, p a = true)
    (hrest : ∀ a ∈ rest.head?, p a = false) : (front ++ rest).span p = (front, rest) := by
  rw [span_eq_takeWhile_dropWhile, takeWhile_append_of_head hfront hrest,
    dropWhile_append_of_head hfront hrest]

/-- What is left of a text does not begin with a character of the kind that was dropped. -/
theorem eq_false_of_mem_head?_dropWhile {a : α} {l : List α}
    (h : a ∈ (l.dropWhile p).head?) : p a = false := by
  have hhead := head?_dropWhile_not p l
  rw [Option.mem_def] at h
  rw [h] at hhead
  simpa using hhead

end List

namespace BenchGate.Text

variable {text : List Char} {runs : List (List Char)}

/-- The maximal runs of characters that are not blank, in order. -/
inductive Runs : List Char → List (List Char) → Prop where
  | nil {text : List Char} (h : ∀ c ∈ text, isBlank c = true) : Runs text []
  | cons {gap run rest : List Char} {runs : List (List Char)}
      (hgap : ∀ c ∈ gap, isBlank c = true) (hne : run ≠ []) (hrun : ∀ c ∈ run, isBlank c = false)
      (hrest : ∀ c ∈ rest.head?, isBlank c = true) (h : Runs rest runs) :
      Runs (gap ++ run ++ rest) (run :: runs)

/-- Every character is blank or belongs to a run. -/
theorem Runs.isBlank_or_mem (h : Runs text runs) :
    ∀ c ∈ text, isBlank c = true ∨ ∃ run ∈ runs, c ∈ run := by
  induction h with
  | nil h => exact fun c hc => .inl (h c hc)
  | @cons gap run rest runs hgap _ _ _ _ ih =>
    intro c hc
    rw [List.mem_append, List.mem_append] at hc
    rcases hc with (hc | hc) | hc
    · exact .inl (hgap c hc)
    · exact .inr ⟨run, List.mem_cons_self, hc⟩
    · rcases ih c hc with hblank | ⟨run', hmem, hc'⟩
      · exact .inl hblank
      · exact .inr ⟨run', List.mem_cons_of_mem _ hmem, hc'⟩

/-- A text of blanks has no words. -/
theorem words_of_blank (h : ∀ c ∈ text, isBlank c = true) : words text = [] := by
  rw [words]
  split
  · rfl
  · next c rest hdrop =>
    rw [List.dropWhile_eq_nil_iff.2 h] at hdrop
    cases hdrop

/-- A word after blanks is read up to the next blank. -/
theorem words_append {gap rest : List Char} {c : Char} {run : List Char}
    (hgap : ∀ c ∈ gap, isBlank c = true) (hrun : ∀ d ∈ c :: run, isBlank d = false)
    (hrest : ∀ c ∈ rest.head?, isBlank c = true) :
    words (gap ++ (c :: run) ++ rest) = (c :: run) :: words rest := by
  have hdrop : (gap ++ (c :: run) ++ rest).dropWhile isBlank = c :: (run ++ rest) := by
    rw [List.append_assoc]
    exact List.dropWhile_append_of_head hgap fun d hd => by
      obtain rfl : c = d := by simpa using hd
      exact hrun _ List.mem_cons_self
  have hrun' : ∀ d ∈ run, (!isBlank d) = true := fun d hd => by
    rw [hrun d (List.mem_cons_of_mem _ hd)]
    rfl
  have hrest' : ∀ d ∈ rest.head?, (!isBlank d) = false := fun d hd => by
    rw [hrest d hd]
    rfl
  rw [words]
  split
  · next h => rw [hdrop] at h; cases h
  · next c' rest' h =>
    rw [hdrop] at h
    cases h
    rw [List.takeWhile_append_of_head hrun' hrest', List.dropWhile_append_of_head hrun' hrest']

/-- The words of a text are its runs. -/
theorem words_of_runs (h : Runs text runs) : words text = runs := by
  induction h with
  | nil h => exact words_of_blank h
  | @cons gap run rest runs hgap hne hrun hrest _ ih =>
    cases run with
    | nil => exact absurd rfl hne
    | cons c run => rw [words_append hgap hrun hrest, ih]

/-- Every text has runs. -/
theorem runs_words (text : List Char) : Runs text (words text) := by
  fun_induction words text with
  | case1 text h => exact .nil (List.dropWhile_eq_nil_iff.1 h)
  | case2 text c rest h ih =>
    have hc : isBlank c = false :=
      List.eq_false_of_mem_head?_dropWhile (l := text) (by rw [h]; rfl)
    have htext : text = text.takeWhile isBlank ++ (c :: rest.takeWhile fun d => !isBlank d) ++
        rest.dropWhile fun d => !isBlank d := by
      rw [List.append_assoc, List.cons_append, List.takeWhile_append_dropWhile, ← h,
        List.takeWhile_append_dropWhile]
    rw [htext]
    refine .cons (fun d hd => List.mem_takeWhile_imp hd) (List.cons_ne_nil _ _) ?_ ?_ ih
    · intro d hd
      rcases List.mem_cons.1 hd with rfl | hd
      · exact hc
      · simpa using List.mem_takeWhile_imp hd
    · intro d hd
      simpa using List.eq_false_of_mem_head?_dropWhile hd

/-- The words of a text are its maximal runs of characters that are not blank. -/
theorem runs_iff : Runs text runs ↔ words text = runs :=
  ⟨words_of_runs, fun h => h ▸ runs_words text⟩

end BenchGate.Text
