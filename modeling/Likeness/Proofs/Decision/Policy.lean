import Likeness.Decision.Policy
import Likeness.Proofs.Decimal.Number

/-!
# Policies without a fault

A policy over the rationals has no fault exactly if its numbers are in their ranges (`fault?_eq_none_iff`).
-/

namespace Likeness.Decision

open Number (isUnit isUnit_iff)

namespace Policy

/-! ### Rules of a policy -/

theorem ite_some_eq_none_iff {β : Type} {c : Prop} [Decidable c] {x : β} {o : Option β} :
    (if c then some x else o) = none ↔ ¬ c ∧ o = none := by
  by_cases hc : c <;> simp [hc]

section

variable {α : Type} [Number α] (p : Policy α)

theorem detectorFault?_eq_none (d : Detector) :
    p.detectorFault? d = none ↔ isUnit (p.thresholds.get d) = true ∧ Number.isFinite (p.voteWeights.get d) = true ∧
      ¬ p.voteWeights.get d < (0 : α) ∧ isUnit (p.confidenceWeights.get d) = true := by
  unfold detectorFault?
  simp only [ite_some_eq_none_iff, Bool.not_eq_true', Bool.not_eq_false, Bool.or_eq_true, not_or, and_true,
    decide_eq_true_eq, and_assoc]

theorem fault?_eq_none : p.fault? = none ↔
    p.version ≠ 0 ∧ (∀ d, p.detectorFault? d = none) ∧ ¬ p.voteWeights.total ≤ (0 : α) ∧
      apart p.confidenceWeights.total (1 : α) = false ∧ isUnit p.decisionThreshold = true ∧
      isUnit p.cutoffs.strongMax = true ∧ isUnit p.cutoffs.moderateMax = true ∧
      ¬ p.cutoffs.moderateMax < p.cutoffs.strongMax := by
  have hdetectors : Detector.all.findSome? p.detectorFault? = none ↔ ∀ d, p.detectorFault? d = none := by
    rw [List.findSome?_eq_none_iff]
    exact ⟨fun h d => h d (by cases d <;> simp [Detector.all]), fun h d _ => h d⟩
  rw [← hdetectors]
  unfold fault?
  cases Detector.all.findSome? p.detectorFault? with
  | some fault => simp [ite_some_eq_none_iff]
  | none => simp [ite_some_eq_none_iff, and_assoc]

end

/-! ### Policies over the rationals -/

/-- The numbers of a policy are in their ranges. -/
structure Valid (p : Policy ℚ) : Prop where
  version : p.version ≠ 0
  threshold (d : Detector) : 0 ≤ p.thresholds.get d ∧ p.thresholds.get d ≤ 1
  voteWeight (d : Detector) : 0 ≤ p.voteWeights.get d
  confidenceWeight (d : Detector) : 0 ≤ p.confidenceWeights.get d ∧ p.confidenceWeights.get d ≤ 1
  voteTotal : 0 < p.voteWeights.token + p.voteWeights.ast + p.voteWeights.hash
  confidenceTotal :
    |p.confidenceWeights.token + p.confidenceWeights.ast + p.confidenceWeights.hash - 1| ≤ (tolerance : ℚ)
  decisionThreshold : 0 ≤ p.decisionThreshold ∧ p.decisionThreshold ≤ 1
  strongMax : 0 ≤ p.cutoffs.strongMax
  strongMax_le : p.cutoffs.strongMax ≤ p.cutoffs.moderateMax
  moderateMax : p.cutoffs.moderateMax ≤ 1

theorem apart_eq_false_iff (x y : ℚ) : apart x y = false ↔ |x - y| ≤ (tolerance : ℚ) := by
  have hfalse : apart x y = false ↔ ¬ ((tolerance : ℚ) < x - y) ∧ ¬ ((tolerance : ℚ) < y - x) := by
    simp [apart]
  rw [hfalse, not_lt, not_lt, abs_le, and_comm]
  exact and_congr_left' (by constructor <;> intro h <;> linarith)

theorem fault?_eq_none_iff (p : Policy ℚ) : p.fault? = none ↔ p.Valid := by
  have hfinite : ∀ d, Number.isFinite (p.voteWeights.get d) = true := fun _ => rfl
  rw [fault?_eq_none, isUnit_iff, isUnit_iff, isUnit_iff, apart_eq_false_iff]
  simp only [detectorFault?_eq_none, isUnit_iff, hfinite, true_and]
  constructor
  · rintro ⟨hversion, hdetector, hvotes, hshares, hdecision, hstrong, hmoderate, hle⟩
    exact ⟨hversion, fun d => (hdetector d).1, fun d => not_lt.1 (hdetector d).2.1, fun d => (hdetector d).2.2,
      not_le.1 hvotes, hshares, hdecision, hstrong.1, not_lt.1 hle, hmoderate.2⟩
  · intro h
    exact ⟨h.version, fun d => ⟨h.threshold d, not_lt.2 (h.voteWeight d), h.confidenceWeight d⟩, not_le.2 h.voteTotal,
      h.confidenceTotal, h.decisionThreshold, ⟨h.strongMax, h.strongMax_le.trans h.moderateMax⟩,
      ⟨h.strongMax.trans h.strongMax_le, h.moderateMax⟩, not_lt.2 h.strongMax_le⟩

end Policy
end Likeness.Decision
