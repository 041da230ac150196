import Mathlib

/-!
# Steps that may fail

A step after another one succeeds when both do (`Except.bind_eq_ok_iff`); giving a failure another
form changes no success (`Except.mapError_eq_ok_iff`). Steps that succeed alike have one result
(`Except.toOption_eq_of_ok_iff`). What a step taken along a list gives comes from the members of the
list (`Except.exists_of_mem_mapM`).
-/

namespace Except

variable {ε ε' α β : Type} {x : Except ε α}

/-- Two steps succeed together. -/
theorem bind_eq_ok_iff {f : α → Except ε β} {result : β} :
    x.bind f = .ok result ↔ ∃ value, x = .ok value ∧ f value = .ok result := by
  cases x with
  | error e => exact ⟨(nomatch ·), fun ⟨_, h, _⟩ => nomatch h⟩
  | ok value => exact ⟨fun h => ⟨value, rfl, h⟩, fun ⟨_, h, h'⟩ => by cases h; exact h'⟩

/-- Two steps fail when the first does, or the second after it. -/
theorem bind_eq_error_iff {f : α → Except ε β} {e : ε} :
    x.bind f = .error e ↔ x = .error e ∨ ∃ value, x = .ok value ∧ f value = .error e := by
  cases x with
  | error e' => simp [Except.bind]
  | ok value => simp [Except.bind]

/-- Another form of a failure is still a failure. -/
@[simp] theorem mapError_eq_ok_iff {f : ε → ε'} {value : α} :
    x.mapError f = .ok value ↔ x = .ok value := by
  cases x with
  | error e => exact ⟨(nomatch ·), (nomatch ·)⟩
  | ok value' => simp only [Except.mapError, Except.ok.injEq]

/-- Another form of a result is a result. -/
theorem map_eq_ok_iff {f : α → β} {result : β} :
    x.map f = .ok result ↔ ∃ value, x = .ok value ∧ f value = result := by
  cases x with
  | error e => exact ⟨(nomatch ·), fun ⟨_, h, _⟩ => nomatch h⟩
  | ok value => simp only [Except.map, Except.ok.injEq, exists_eq_left']

/-- Two steps that succeed alike have the same result, if any. -/
theorem toOption_eq_of_ok_iff {y : Except ε' α} (h : ∀ value, x = .ok value ↔ y = .ok value) :
    x.toOption = y.toOption := by
  cases x with
  | ok value => rw [(h value).1 rfl]; rfl
  | error e =>
    cases y with
    | ok value => cases (h value).2 rfl
    | error e' => rfl

/-- A step that fails exactly with all that there is to complain about succeeds when there is
nothing. -/
theorem ok_or_error {x : Except (List ε) α} {all : List ε}
    (h : ∀ {found : List ε}, x = .error found ↔ found = all ∧ found ≠ []) :
    (∃ value, x = .ok value) ∧ all = [] ∨ x = .error all ∧ all ≠ [] := by
  cases x with
  | ok value =>
    refine .inl ⟨⟨value, rfl⟩, ?_⟩
    by_contra hne
    cases h.2 ⟨rfl, hne⟩
  | error found =>
    obtain ⟨rfl, hne⟩ := h.1 rfl
    exact .inr ⟨rfl, hne⟩

/-- A result of a step taken along a list is that of a member. -/
theorem exists_of_mem_mapM {f : α → Except ε β} {members : List α} {results : List β}
    (h : members.mapM f = .ok results) :
    ∀ result ∈ results, ∃ member ∈ members, f member = .ok result := by
  induction members generalizing results with
  | nil =>
    cases h
    exact fun _ hmem => nomatch hmem
  | cons member members ih =>
    rw [List.mapM_cons] at h
    obtain ⟨first, hfirst, h⟩ := bind_eq_ok_iff.1 h
    obtain ⟨rest, hrest, h⟩ := bind_eq_ok_iff.1 h
    cases h
    intro result hmem
    rcases List.mem_cons.1 hmem with rfl | hmem
    · exact ⟨member, List.mem_cons_self, hfirst⟩
    · obtain ⟨member', hmember', hresult⟩ := ih hrest result hmem
      exact ⟨member', List.mem_cons_of_mem _ hmember', hresult⟩

end Except
