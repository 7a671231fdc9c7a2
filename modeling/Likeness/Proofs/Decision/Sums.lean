import Mathlib.Algebra.BigOperators.Ring.List
import Likeness.Proofs.Decision.Verdict

/-!
# Sums over the detectors that have a score

The weights and the confidence of a verdict are sums of one term for each detector that has a score (`overScored`). Such
sums are compared term by term (`overScored_le`), whatever detectors have a score.
-/

namespace Likeness.Decision

/-! ### Sums of a term for each score -/

/-- The sum of a term for each detector that has a score. -/
def overScored (o : PerDetector (Outcome ℚ)) (term : Detector → ℚ → ℚ) : ℚ :=
  (Detector.all.map fun d => (o.get d).score?.elim 0 (term d)).sum

theorem sum_available (o : PerDetector (Outcome ℚ)) (term : Detector → ℚ → ℚ) :
    ((available o).map fun x => term x.1 x.2).sum = overScored o term := by
  rw [available, overScored]
  induction Detector.all with
  | nil => rfl
  | cons d ds ih =>
    cases hscore : (o.get d).score? with
    | none => simp [hscore, ih]
    | some s => simp [hscore, ih]

variable {o o' : PerDetector (Outcome ℚ)} {term term' : Detector → ℚ → ℚ}

theorem overScored_le (h : ∀ d, (o.get d).score?.elim 0 (term d) ≤ (o'.get d).score?.elim 0 (term' d)) :
    overScored o term ≤ overScored o' term' :=
  List.sum_le_sum fun d _ => h d

theorem overScored_congr (h : ∀ d, (o.get d).score?.elim 0 (term d) = (o'.get d).score?.elim 0 (term' d)) :
    overScored o term = overScored o' term' :=
  congrArg List.sum (List.map_congr_left fun d _ => h d)

theorem overScored_mul_left (c : ℚ) (o : PerDetector (Outcome ℚ)) (term : Detector → ℚ → ℚ) :
    (overScored o fun d x => c * term d x) = c * overScored o term := by
  rw [overScored, overScored, ← List.sum_map_mul_left]
  refine congrArg List.sum (List.map_congr_left fun d _ => ?_)
  cases (o.get d).score? with
  | none => exact (mul_zero c).symm
  | some x => rfl

/-- Where the same detectors have a score, sums are compared score by score. -/
theorem overScored_le_of_scored (hsame : ∀ d, (∃ x, o.get d = .scored x) ↔ ∃ x, o'.get d = .scored x)
    (h : ∀ d x y, o.get d = .scored x → o'.get d = .scored y → term d x ≤ term' d y) :
    overScored o term ≤ overScored o' term' := by
  refine overScored_le fun d => ?_
  have hd := hsame d
  cases hx : o.get d with
  | scored x =>
    obtain ⟨y, hy⟩ := hd.1 ⟨x, hx⟩
    rw [hy]
    exact h d x y hx hy
  | unavailable r =>
    cases hy : o'.get d with
    | scored y =>
      obtain ⟨x, hx'⟩ := hd.2 ⟨y, hy⟩
      rw [hx] at hx'
      cases hx'
    | unavailable r' => exact le_refl 0

theorem overScored_nonneg (h : ∀ d x, o.get d = .scored x → 0 ≤ term d x) : 0 ≤ overScored o term := by
  refine List.sum_nonneg fun y hy => ?_
  obtain ⟨d, -, rfl⟩ := List.mem_map.1 hy
  cases hx : o.get d with
  | scored x => exact h d x hx
  | unavailable r => exact le_refl 0

/-- Terms that differ for one detector only change the sum by as much as they differ. -/
theorem overScored_of_forall_ne {d : Detector} (h : ∀ e, e ≠ d → term' e = term e) :
    overScored o term' = overScored o term + (o.get d).score?.elim 0 fun x => term' d x - term d x := by
  have hterm : ∀ s : Option ℚ, (s.elim 0 fun x => term' d x - term d x) = s.elim 0 (term' d) - s.elim 0 (term d) := by
    rintro (_ | x)
    · exact (sub_zero 0).symm
    · rfl
  rw [hterm]
  cases d <;> simp [overScored, Detector.all, h] <;> linarith

/-- A term is no more than the sum of terms that are not negative. -/
theorem le_overScored (term : Detector → ℚ → ℚ) (h : ∀ d x, o.get d = .scored x → 0 ≤ term d x) {d : Detector} {x : ℚ}
    (hx : o.get d = .scored x) : term d x ≤ overScored o term := by
  have hmem : term d x ∈ Detector.all.map fun e => (o.get e).score?.elim 0 (term e) :=
    List.mem_map.2 ⟨d, by cases d <;> simp [Detector.all], by rw [hx]; rfl⟩
  refine List.single_le_sum (fun y hy => ?_) _ hmem
  obtain ⟨e, -, rfl⟩ := List.mem_map.1 hy
  cases hscore : o.get e with
  | scored y => exact h e y hscore
  | unavailable r => exact le_rfl

/-- The terms that depend on a condition sum up to those of the detectors that meet it. -/
theorem overScored_ite (o : PerDetector (Outcome ℚ)) (holds : Detector → ℚ → Bool) (weight : Detector → ℚ) :
    (overScored o fun d x => if holds d x then weight d else 0) =
      ((Detector.all.filter fun d => (o.get d).score?.any (holds d)).map weight).sum := by
  rw [overScored]
  induction Detector.all with
  | nil => rfl
  | cons d ds ih =>
    rw [List.map_cons, List.sum_cons, ih, List.filter_cons]
    cases (o.get d).score? with
    | none => simp
    | some s => by_cases hs : holds d s = true <;> simp [hs]

namespace Policy

variable (p : Policy ℚ)

/-! ### Weights and confidence as sums -/

theorem totalWeight_available (o : PerDetector (Outcome ℚ)) :
    p.totalWeight (available o) = overScored o fun d _ => p.voteWeights.get d := by
  rw [totalWeight_eq, ← sum_available]

theorem weightedVotes_available (o : PerDetector (Outcome ℚ)) :
    p.weightedVotes (available o) = overScored o fun d x => if p.votes d x then p.voteWeights.get d else 0 := by
  have hfold : ∀ (a : ℚ) (xs : List (Detector × ℚ)),
      xs.foldl (fun sum (d, s) => if p.votes d s then sum + p.voteWeights.get d else sum) a =
        a + (xs.map fun x => if p.votes x.1 x.2 then p.voteWeights.get x.1 else 0).sum := by
    intro a xs
    induction xs generalizing a with
    | nil => simp
    | cons x xs ih =>
      rw [List.foldl_cons, ih, List.map_cons, List.sum_cons, ← add_assoc]
      congr 1
      by_cases hx : p.votes x.1 x.2 = true
      · simp only [hx, if_true]
      · simp [hx]
  rw [← sum_available, weightedVotes]
  exact (hfold 0 _).trans (zero_add _)

/-- The mean of the scores that the confidence is: by the confidence weights, and plain where all these are zero. -/
def mean (scored : List (Detector × ℚ)) : ℚ :=
  let weight := Number.sum (scored.map fun (d, _) => p.confidenceWeights.get d)
  if 0 < weight then Number.sum (scored.map fun (d, s) => p.confidenceWeights.get d * s) / weight
  else Number.sum (scored.map (·.2)) / Number.ofNat scored.length

theorem confidence_eq_clamp (scored : List (Detector × ℚ)) : p.confidence scored = Number.clamp (p.mean scored) := rfl

theorem mean_available (o : PerDetector (Outcome ℚ)) :
    p.mean (available o) =
      if 0 < overScored o fun d _ => p.confidenceWeights.get d then
        (overScored o fun d x => p.confidenceWeights.get d * x) / overScored o fun d _ => p.confidenceWeights.get d
      else (overScored o fun _ x => x) / overScored o fun _ _ => 1 := by
  have hcount : ((available o).length : ℚ) = overScored o fun _ _ => 1 := by
    rw [← sum_available]
    simp
  rw [← sum_available, ← sum_available, ← sum_available, ← hcount]
  simp only [mean, Number.sum_eq]
  rfl

theorem confidence_available (o : PerDetector (Outcome ℚ)) :
    p.confidence (available o) =
      Number.clamp (if 0 < overScored o fun d _ => p.confidenceWeights.get d then
        (overScored o fun d x => p.confidenceWeights.get d * x) / overScored o fun d _ => p.confidenceWeights.get d
      else (overScored o fun _ x => x) / overScored o fun _ _ => 1) := by
  rw [confidence_eq_clamp, mean_available]

end Policy
end Likeness.Decision
