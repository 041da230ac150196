import BenchGate.Proofs.Comparison.Mean

/-!
# Benchmarks in another order

The sums of a summary are rounded after each row, so they depend on the order of the rows. The
extremes do not: they are ratios of rows, and the operations that find them are commutative and
associative on all doubles, with the two zeros told apart (`Float.RanksBy.foldl_perm`). A
classification looks at its own row only, so the classifications follow their rows into any order,
and the messages of the report with them (`Findings.areReordered_reorder`).
`Summary.extremes_anyOrder` puts both together.
-/

namespace BenchGate

/-- A list with its members in another order: at each position stands the member whose position the
permutation names. -/
def reorder {α : Type} (xs : List α) (σ : Equiv.Perm (Fin xs.length)) : List α :=
  .ofFn (xs.get ∘ σ)

theorem reorder_perm {α : Type} (xs : List α) (σ : Equiv.Perm (Fin xs.length)) :
    (reorder xs σ).Perm xs := by
  have hperm := σ.ofFn_comp_perm xs.get
  rwa [List.ofFn_get] at hperm

namespace Findings

/-- The findings about some benchmarks, and about the same benchmarks in another order: the same
permutation takes the classifications to their new positions, the messages are those of the
classifications that have one, and there are as many regressions. -/
structure AreReordered {n : ℕ} (σ : Equiv.Perm (Fin n)) (f f' : Findings) : Prop where
  classifications : ∃ classification : Fin n → Classification,
    f.classifications = .ofFn classification ∧
      f'.classifications = .ofFn (classification ∘ σ) ∧
      f.messages = (List.ofFn fun i => (classification i).message).reduceOption ∧
      f'.messages = (List.ofFn fun i => (classification (σ i)).message).reduceOption
  messages : f'.messages.Perm f.messages
  regressionCount : f'.regressionCount = f.regressionCount

/-- The findings about benchmarks in another order. -/
theorem areReordered_reorder (t : Thresholds) (rows : List Comparison)
    (σ : Equiv.Perm (Fin rows.length)) :
    AreReordered σ (ofComparisons t rows) (ofComparisons t (reorder rows σ)) := by
  have hperm := (reorder_perm rows σ).map (Classification.ofComparison t)
  have hmessages : ∀ {n : ℕ} (classification : Fin n → Classification),
      (List.ofFn classification).filterMap (·.message) =
        (List.ofFn fun i => (classification i).message).reduceOption := by
    intro n classification
    have hmap : (List.ofFn fun i => (classification i).message) =
        (List.ofFn classification).map (·.message) := List.map_ofFn.symm
    rw [hmap, List.reduceOption, List.filterMap_map]
    rfl
  have hrows : rows.map (Classification.ofComparison t) =
      .ofFn (Classification.ofComparison t ∘ rows.get) := by
    rw [← List.map_ofFn, List.ofFn_get]
  have hreordered : (reorder rows σ).map (Classification.ofComparison t) =
      .ofFn ((Classification.ofComparison t ∘ rows.get) ∘ σ) :=
    List.map_ofFn
  constructor
  case classifications =>
    refine ⟨Classification.ofComparison t ∘ rows.get, hrows, hreordered, ?_, ?_⟩
    · rw [ofComparisons, hrows, hmessages]
    · rw [ofComparisons, hreordered, hmessages]
      rfl
  case messages => exact hperm.filterMap _
  case regressionCount => exact congrArg ofCount (hperm.countP_eq _)

end Findings

namespace Summary

variable {rows rows' : List Comparison}

/-- What a summary does not owe to the order of its rows. -/
structure IsSameButSums (s s' : Summary) : Prop where
  count : s'.count = s.count
  minRatio : s'.minRatio = s.minRatio
  maxRatio : s'.maxRatio = s.maxRatio

theorem isSameButSums_of_perm (h : rows'.Perm rows) :
    IsSameButSums (ofRows rows) (ofRows rows') where
  count := congrArg ofCount h.length_eq
  minRatio := by
    have hleast := Float.ranksBy_least.foldl_perm (h.map (·.ratio)) infinity
    rwa [List.foldl_map, List.foldl_map] at hleast
  maxRatio := by
    have hgreatest := Float.ranksBy_greatest.foldl_perm (h.map (·.ratio)) (-infinity)
    rwa [List.foldl_map, List.foldl_map] at hgreatest

/-- The least and the greatest ratio of a summary are those of two rows, and all ratios lie between
them. -/
structure IsBounded (rows : List Comparison) (s : Summary) : Prop where
  minRatio : ∃ c ∈ rows, c.ratio = s.minRatio
  maxRatio : ∃ c ∈ rows, c.ratio = s.maxRatio
  between : ∀ c ∈ rows, s.minRatio ≤ c.ratio ∧ c.ratio ≤ s.maxRatio

theorem isBounded_ofRows (hne : rows ≠ []) (h : ∀ c ∈ rows, c.ratio.isNaN = false) :
    IsBounded rows (ofRows rows) := by
  obtain ⟨hleast, hgreatest⟩ := isExtreme_ofRows hne (List.forall_mem_map.2 h)
  have hmin := List.mem_map.1 hleast.mem
  have hmax := List.mem_map.1 hgreatest.mem
  refine ⟨hmin, hmax, fun c hc => ?_⟩
  obtain ⟨first, hfirst, hmin⟩ := hmin
  obtain ⟨last, hlast, hmax⟩ := hmax
  have hratio : c.ratio ∈ ratios rows := List.mem_map_of_mem hc
  exact ⟨Float.le_iff.2 ⟨hmin ▸ h first hfirst, h c hc, hleast.rel _ hratio⟩,
    Float.le_iff.2 ⟨h c hc, hmax ▸ h last hlast, hgreatest.rel _ hratio⟩⟩

/-- The extremes of a summary are ratios of its rows. In another order the rows have the same
extremes, and the findings about them are the same in this order, whatever the thresholds. -/
theorem extremes_anyOrder (hne : rows ≠ []) (h : ∀ c ∈ rows, c.ratio.isNaN = false) :
    ∃ s, ofComparisons rows = .ok s ∧ IsBounded rows s ∧
      ∀ σ : Equiv.Perm (Fin rows.length),
        (∃ s', ofComparisons (reorder rows σ) = .ok s' ∧ IsSameButSums s s') ∧
        ∀ t : Thresholds, Findings.AreReordered σ (Findings.ofComparisons t rows)
          (Findings.ofComparisons t (reorder rows σ)) := by
  refine ⟨ofRows rows, ofComparisons_of_ne_nil hne, isBounded_ofRows hne h,
    fun σ => ⟨?_, fun t => ?_⟩⟩
  · have hperm := reorder_perm rows σ
    have hne' : reorder rows σ ≠ [] := fun hnil => hne (List.nil_perm.1 (hnil ▸ hperm))
    exact ⟨_, ofComparisons_of_ne_nil hne', isSameButSums_of_perm hperm⟩
  · exact Findings.areReordered_reorder t rows σ

/-- Three benchmarks: two that became faster, by ratios that are zeros of both signs, and one that
took three times as long. -/
def signedZeros : List Comparison := [.ofTimes 0 10 0, .ofTimes 1 10 30, .ofTimes 2 10 (-0.0)]

/-- The last two of them change places. -/
def lastTwo : Equiv.Perm (Fin signedZeros.length) := Equiv.swap (1 : Fin 3) (2 : Fin 3)

/-- The least ratio is `-0` in both orders, and the regression comes after the two speedups that it
stood between. -/
theorem extremes_anyOrder_signedZeros :
    (∃ s, ofComparisons signedZeros = .ok s ∧ IsBounded signedZeros s ∧
      ∃ s', ofComparisons (reorder signedZeros lastTwo) = .ok s' ∧ IsSameButSums s s' ∧
        s'.minRatio = -0.0) ∧
    Findings.AreReordered lastTwo (Findings.ofComparisons {} signedZeros)
      (Findings.ofComparisons {} (reorder signedZeros lastTwo)) := by
  obtain ⟨s, hs, hbounded, hany⟩ := @extremes_anyOrder signedZeros (by simp [signedZeros])
    (by decide +kernel)
  obtain ⟨⟨s', hs', hsame⟩, hfindings⟩ := hany lastTwo
  refine ⟨⟨s, hs, hbounded, s', hs', hsame, hsame.minRatio.trans ?_⟩, hfindings {}⟩
  cases hs
  exact Float.toBits_inj.1 (by decide +kernel)

end Summary

end BenchGate
