import Likeness.Proofs.Decision.Sums
import Likeness.Proofs.Settings.Check

/-!
# Detectors without a score

To leave a detector out is to give it no weight. A policy that gives none to the detectors without a score, and shares
out the confidence among the others, is one that is accepted (`valid_leavingOut`), and it comes to the same verdict whatever
scores these detectors are given (`decide_leavingOut`). Numbers are rational here.
-/

namespace Likeness.Decision

/-- All detectors have a score: the one they had, or any between 0 and 1 if they had none. -/
structure Filled (o o' : PerDetector (Outcome ℚ)) : Prop where
  scored (d : Detector) (x : ℚ) : o.get d = .scored x → o'.get d = .scored x
  unavailable (d : Detector) (r : String) : o.get d = .unavailable r → ∃ x, o'.get d = .scored x ∧ 0 ≤ x ∧ x ≤ 1

namespace Policy

/-- The confidence weight of the detectors that have a score. -/
def confidenceWeight (p : Policy ℚ) (o : PerDetector (Outcome ℚ)) : ℚ :=
  overScored o fun d _ => p.confidenceWeights.get d

/-- The policy that gives no weight to the detectors without a score, and shares out the confidence among the others. -/
def leavingOut (p : Policy ℚ) (o : PerDetector (Outcome ℚ)) : Policy ℚ :=
  { p with
    voteWeights := .ofFn fun d => (o.get d).score?.elim 0 fun _ => p.voteWeights.get d
    confidenceWeights := .ofFn fun d =>
      (o.get d).score?.elim 0 fun _ => p.confidenceWeights.get d / p.confidenceWeight o }

end Policy

variable {p : Policy ℚ} {o o' : PerDetector (Outcome ℚ)}

/-! ### Sums over all detectors -/

/-- Where the detectors without a score are given one and count for nothing, a sum is the same. -/
theorem Filled.overScored_eq (h : Filled o o') {term term' : Detector → ℚ → ℚ}
    (hscored : ∀ d x, o.get d = .scored x → term' d x = term d x)
    (hzero : ∀ d r x, o.get d = .unavailable r → term' d x = 0) : overScored o' term' = overScored o term := by
  refine overScored_congr fun d => ?_
  cases hd : o.get d with
  | scored x =>
    rw [h.scored d x hd]
    exact hscored d x hd
  | unavailable r =>
    obtain ⟨x, hx, -⟩ := h.unavailable d r hd
    rw [hx]
    exact hzero d r x hd

theorem total_eq_overScored (o : PerDetector (Outcome ℚ)) (weight : Detector → ℚ) :
    let w : PerDetector ℚ := .ofFn fun d => (o.get d).score?.elim 0 fun _ => weight d
    w.token + w.ast + w.hash = overScored o fun d _ => weight d := by
  simp [PerDetector.ofFn, overScored, Detector.all, add_assoc]

namespace Policy

/-! ### Weights without the detectors left out -/

theorem voteWeight_leavingOut (p : Policy ℚ) (o : PerDetector (Outcome ℚ)) (d : Detector) :
    (p.leavingOut o).voteWeights.get d = (o.get d).score?.elim 0 fun _ => p.voteWeights.get d :=
  PerDetector.get_ofFn _ d

theorem confidenceWeight_leavingOut (p : Policy ℚ) (o : PerDetector (Outcome ℚ)) (d : Detector) :
    (p.leavingOut o).confidenceWeights.get d =
      (o.get d).score?.elim 0 fun _ => p.confidenceWeights.get d / p.confidenceWeight o :=
  PerDetector.get_ofFn _ d

/-- The confidence weights that are shared out sum up to 1. -/
theorem overScored_shared (hshare : 0 < p.confidenceWeight o) :
    (overScored o fun d _ => p.confidenceWeights.get d / p.confidenceWeight o) = 1 := by
  have hmul : (overScored o fun d _ => p.confidenceWeights.get d / p.confidenceWeight o) =
      overScored o fun d _ => (p.confidenceWeight o)⁻¹ * p.confidenceWeights.get d := by
    simp only [div_eq_inv_mul]
  rw [hmul, overScored_mul_left (p.confidenceWeight o)⁻¹ o fun d _ => p.confidenceWeights.get d]
  exact inv_mul_cancel₀ (ne_of_gt hshare)

/-- With no weight for the detectors without a score, and the confidence shared out among the others, a policy is still
accepted. -/
theorem valid_leavingOut (hp : p.Valid) (hweight : 0 < p.totalWeight (available o)) (hshare : 0 < p.confidenceWeight o) :
    (p.leavingOut o).Valid where
  version := hp.version
  threshold := hp.threshold
  voteWeight d := by
    rw [voteWeight_leavingOut]
    cases (o.get d).score? with
    | none => exact le_rfl
    | some x => exact hp.voteWeight d
  confidenceWeight d := by
    rw [confidenceWeight_leavingOut]
    cases hd : o.get d with
    | scored x =>
      have hle : p.confidenceWeights.get d ≤ p.confidenceWeight o :=
        le_overScored (fun d _ => p.confidenceWeights.get d) (fun d _ _ => (hp.confidenceWeight d).1) hd
      exact ⟨div_nonneg (hp.confidenceWeight d).1 hshare.le, (div_le_one hshare).2 hle⟩
    | unavailable r => exact ⟨le_rfl, zero_le_one⟩
  voteTotal := by
    have htotal := total_eq_overScored o p.voteWeights.get
    rw [← totalWeight_available] at htotal
    exact htotal ▸ hweight
  confidenceTotal := by
    have htotal := total_eq_overScored o fun d => p.confidenceWeights.get d / p.confidenceWeight o
    rw [overScored_shared hshare] at htotal
    have hone : (p.leavingOut o).confidenceWeights.token + (p.leavingOut o).confidenceWeights.ast +
        (p.leavingOut o).confidenceWeights.hash = 1 := htotal
    rw [hone, sub_self, abs_zero]
    decide +kernel
  decisionThreshold := hp.decisionThreshold
  strongMax := hp.strongMax
  strongMax_le := hp.strongMax_le
  moderateMax := hp.moderateMax

section

variable (h : Filled o o')
include h

theorem totalWeight_leavingOut : (p.leavingOut o).totalWeight (available o') = p.totalWeight (available o) := by
  rw [totalWeight_available, totalWeight_available]
  refine h.overScored_eq (fun d x hd => ?_) fun d r x hd => ?_
  all_goals
    rw [voteWeight_leavingOut, hd]
    rfl

theorem weightedVotes_leavingOut : (p.leavingOut o).weightedVotes (available o') = p.weightedVotes (available o) := by
  rw [weightedVotes_available, weightedVotes_available]
  refine h.overScored_eq (fun d x hd => ?_) fun d r x hd => ?_
  · rw [voteWeight_leavingOut, hd]
    rfl
  · rw [voteWeight_leavingOut, hd]
    exact ite_self 0

theorem confidence_leavingOut (hshare : 0 < p.confidenceWeight o) :
    (p.leavingOut o).confidence (available o') = p.confidence (available o) := by
  have hweight : (overScored o' fun d _ => (p.leavingOut o).confidenceWeights.get d) = 1 := by
    rw [← overScored_shared hshare]
    refine h.overScored_eq (fun d x hd => ?_) fun d r x hd => ?_
    all_goals
      rw [confidenceWeight_leavingOut, hd]
      rfl
  have hscores : (overScored o' fun d x => (p.leavingOut o).confidenceWeights.get d * x) =
      (overScored o fun d x => p.confidenceWeights.get d * x) / p.confidenceWeight o := by
    rw [div_eq_inv_mul, ← overScored_mul_left]
    refine h.overScored_eq (fun d x hd => ?_) fun d r x hd => ?_
    · rw [confidenceWeight_leavingOut, hd, ← mul_assoc, ← div_eq_inv_mul]
      rfl
    · rw [confidenceWeight_leavingOut, hd]
      exact zero_mul x
  rw [confidence_available, confidence_available, hweight, hscores, if_pos zero_lt_one, div_one]
  exact congrArg Number.clamp (if_pos hshare).symm

end

/-! ### The same verdict -/

/-- Where a pair is decided on with some detectors left out, it is decided on the same with any scores for these, by the
policy that gives them no weight and shares out the confidence among the others. -/
theorem decide_leavingOut (hp : p.check = .ok ()) {v : Verdict ℚ} (h : p.decide o = .ok v)
    (hshare : 0 < p.confidenceWeight o) (hfilled : Filled o o') :
    (p.leavingOut o).check = .ok () ∧
      ∃ v', (p.leavingOut o).decide o' = .ok v' ∧ v'.weightedVotes = v.weightedVotes ∧ v'.totalWeight = v.totalWeight ∧
        v'.voteRatio = v.voteRatio ∧ v'.isPlagiarized = v.isPlagiarized ∧ v'.confidence = v.confidence := by
  have hvalid : p.Valid := (fault?_eq_none_iff p).1 (p.check_eq_ok_iff.1 hp)
  have hunit : ∀ d x, o'.get d = .scored x → 0 ≤ x ∧ x ≤ 1 := by
    intro d x hx
    cases hd : o.get d with
    | scored y =>
      have hsame := hfilled.scored d y hd
      rw [hx] at hsame
      cases hsame
      exact (Number.isUnit_iff x).1 (isUnit_of_decide h hd)
    | unavailable r =>
      obtain ⟨y, hy, hunit⟩ := hfilled.unavailable d r hd
      rw [hx] at hy
      cases hy
      exact hunit
  obtain ⟨-, first, rest, -, hweight, rfl⟩ := available_of_decide h
  have hvalid' := valid_leavingOut hvalid (not_le.1 hweight) hshare
  -- some detector that has a score carries weight, and still does
  obtain ⟨d, x, hd, hweighs⟩ : ∃ d x, o.get d = .scored x ∧ p.voteWeights.get d ≠ 0 := by
    rw [totalWeight_nonpos_iff hvalid] at hweight
    by_contra hnone
    refine hweight fun y hy => ?_
    by_contra hne
    exact hnone ⟨y.1, y.2, mem_available.1 hy, hne⟩
  have hweighs' : (p.leavingOut o).voteWeights.get d ≠ 0 := by
    rw [voteWeight_leavingOut, hd]
    exact hweighs
  obtain ⟨v', hv'⟩ := exists_decide hvalid' hunit (hfilled.scored d x hd) hweighs'
  refine ⟨(p.leavingOut o).check_eq_ok_iff.2 ((fault?_eq_none_iff _).2 hvalid'), v', hv', ?_⟩
  obtain ⟨-, first', rest', -, -, rfl⟩ := available_of_decide hv'
  have htotal := totalWeight_leavingOut (p := p) hfilled
  have hweighted := weightedVotes_leavingOut (p := p) hfilled
  refine ⟨hweighted, htotal, ?_, ?_, confidence_leavingOut hfilled hshare⟩
  · show (p.leavingOut o).weightedVotes (available o') / (p.leavingOut o).totalWeight (available o') =
      p.weightedVotes (available o) / p.totalWeight (available o)
    rw [hweighted, htotal]
  · show Decidable.decide (p.decisionThreshold ≤
      (p.leavingOut o).weightedVotes (available o') / (p.leavingOut o).totalWeight (available o')) = _
    rw [hweighted, htotal]
    rfl

/-- What is found of a pair of which one source cannot be parsed. -/
def unparsed : PerDetector (Outcome ℚ) := ⟨.scored (3 / 4), .unavailable "parse_error", .scored (3 / 10)⟩

/-- The same with the greatest score in place of the one that is missing. -/
def parsed : PerDetector (Outcome ℚ) := ⟨.scored (3 / 4), .scored 1, .scored (3 / 10)⟩

theorem decide_leavingOut_unparsed :
    (Policy.default : Policy ℚ).check = .ok () ∧ 0 < (Policy.default : Policy ℚ).confidenceWeight unparsed ∧
      Filled unparsed parsed ∧
      ∃ v v', Policy.default.decide unparsed = .ok v ∧ (Policy.default.leavingOut unparsed).decide parsed = .ok v' ∧
        v'.voteRatio = v.voteRatio ∧ v'.isPlagiarized = v.isPlagiarized ∧ v'.confidence = v.confidence := by
  have hcheck : (Policy.default : Policy ℚ).check = .ok () := (check_eq_ok_iff _).2 (by decide +kernel)
  have hshare : 0 < (Policy.default : Policy ℚ).confidenceWeight unparsed := by decide +kernel
  have hfilled : Filled unparsed parsed := by
    constructor
    · rintro (_ | _ | _) x ⟨⟩ <;> rfl
    · rintro (_ | _ | _) r ⟨⟩
      exact ⟨1, rfl, zero_le_one, le_rfl⟩
  obtain ⟨v, hv⟩ := exists_decide (p := Policy.default) (o := unparsed) (d := .token)
    ((fault?_eq_none_iff _).1 (by decide +kernel)) (by rintro (_ | _ | _) x ⟨⟩ <;> decide +kernel) rfl (by decide +kernel)
  obtain ⟨-, v', hv', -, -, hratio, hflag, hconfidence⟩ := decide_leavingOut hcheck hv hshare hfilled
  exact ⟨hcheck, hshare, hfilled, v, v', hv, hv', hratio, hflag, hconfidence⟩

end Policy
end Likeness.Decision
