import Likeness.Proofs.Decision.Monotone

/-!
# Heavier votes

A vote that is given more weight counts for more: where its detector votes, the share of the votes does not decrease, and
where it has a score and does not vote, the share does not increase (`decide_heavier`). This is so because votes never weigh
more than the detectors that have a score (`weightedVotes_bounds`). Nothing but weights and what follows from them depends
on the weight of a vote. Numbers are rational here.
-/

namespace Likeness.Decision

/-- Policies that are the same but for the vote of one detector, which weighs at least as much in the second. -/
structure Policy.Heavier (p p' : Policy ℚ) (d : Detector) : Prop where
  version : p'.version = p.version
  thresholds : p'.thresholds = p.thresholds
  confidenceWeights : p'.confidenceWeights = p.confidenceWeights
  decisionThreshold : p'.decisionThreshold = p.decisionThreshold
  cutoffs : p'.cutoffs = p.cutoffs
  others (e : Detector) : e ≠ d → p'.voteWeights.get e = p.voteWeights.get e
  le : p.voteWeights.get d ≤ p'.voteWeights.get d

/-! ### Shares of a whole that grows -/

/-- A part that grows by as much as the whole is no smaller share of it. -/
theorem share_le_of_add {part whole added : ℚ} (hle : part ≤ whole) (hwhole : 0 < whole) (hadded : 0 ≤ added) :
    part / whole ≤ (part + added) / (whole + added) := by
  have hgrown : 0 < whole + added := add_pos_of_pos_of_nonneg hwhole hadded
  have hcross : part * added ≤ added * whole := by
    rw [mul_comm added]
    exact mul_le_mul_of_nonneg_right hle hadded
  rw [div_le_div_iff₀ hwhole hgrown, mul_add, add_mul]
  exact add_le_add_right hcross _

/-- A part that stays as it is while the whole grows is no larger share of it. -/
theorem share_le_of_whole_add {part whole added : ℚ} (hpart : 0 ≤ part) (hwhole : 0 < whole) (hadded : 0 ≤ added) :
    part / (whole + added) ≤ part / whole :=
  div_le_div_of_nonneg_left hpart hwhole (le_add_of_nonneg_right hadded)

namespace Policy

variable {p p' : Policy ℚ} {d : Detector} {o : PerDetector (Outcome ℚ)}

/-! ### Votes and weights -/

/-- The votes weigh no more than the detectors that have a score. -/
theorem weightedVotes_bounds (hp : p.Valid) (o : PerDetector (Outcome ℚ)) :
    0 ≤ p.weightedVotes (available o) ∧ p.weightedVotes (available o) ≤ p.totalWeight (available o) := by
  rw [weightedVotes_available, totalWeight_available]
  constructor
  · refine overScored_nonneg fun e x _ => ?_
    split
    · exact hp.voteWeight e
    · exact le_rfl
  · refine overScored_le_of_scored (fun _ => Iff.rfl) fun e x y _ _ => ?_
    split
    · exact le_rfl
    · exact hp.voteWeight e

namespace Heavier

variable (h : p.Heavier p' d)
include h

theorem votes_eq : p'.votes = p.votes := by
  funext e x
  rw [votes, votes, h.thresholds]

theorem totalWeight_eq (o : PerDetector (Outcome ℚ)) :
    p'.totalWeight (available o) = p.totalWeight (available o) +
      (o.get d).score?.elim 0 fun _ => p'.voteWeights.get d - p.voteWeights.get d := by
  rw [totalWeight_available, totalWeight_available]
  exact overScored_of_forall_ne fun e he => by rw [h.others e he]

theorem weightedVotes_eq (o : PerDetector (Outcome ℚ)) :
    p'.weightedVotes (available o) = p.weightedVotes (available o) +
      (o.get d).score?.elim 0 fun x => if p.votes d x then p'.voteWeights.get d - p.voteWeights.get d else 0 := by
  have hterm : ∀ x, (if p.votes d x then p'.voteWeights.get d - p.voteWeights.get d else 0) =
      (if p.votes d x then p'.voteWeights.get d else 0) - if p.votes d x then p.voteWeights.get d else 0 := by
    intro x
    split
    · rfl
    · exact (sub_zero 0).symm
  simp only [hterm]
  rw [weightedVotes_available, weightedVotes_available, h.votes_eq]
  exact overScored_of_forall_ne fun e he => by rw [h.others e he]

/-- The weight of a vote decides on nothing but weights and what follows from them. -/
theorem verdict_eq (o : PerDetector (Outcome ℚ)) (first : ℚ) (others : List ℚ) :
    p'.verdict o first others =
      { p.verdict o first others with
        weightedVotes := p'.weightedVotes (available o)
        totalWeight := p'.totalWeight (available o)
        voteRatio := p'.weightedVotes (available o) / p'.totalWeight (available o)
        isPlagiarized := p.decisionThreshold ≤ p'.weightedVotes (available o) / p'.totalWeight (available o) } := by
  simp only [verdict, h.version, h.cutoffs, h.decisionThreshold, h.votes_eq, confidence_congr h.confidenceWeights]

end Heavier

/-! ### Two verdicts -/

/-- A detector whose vote is given more weight: without a score it changes nothing; where it votes, the votes weigh no less,
their ratio does not decrease, and a pair that is flagged stays flagged; where it does not vote, the votes weigh the same,
their ratio does not increase, and a pair that is not flagged stays so. All else is the same in every case. -/
theorem decide_heavier (hp : p.check = .ok ()) (hheavier : p.Heavier p' d) {v v' : Verdict ℚ} (h : p.decide o = .ok v)
    (h' : p'.decide o = .ok v') :
    (∀ r, o.get d = .unavailable r → v' = v) ∧
      (∀ x, o.get d = .scored x → p.thresholds.get d ≤ x → v.weightedVotes ≤ v'.weightedVotes ∧
        v.voteRatio ≤ v'.voteRatio ∧ (v.isPlagiarized = true → v'.isPlagiarized = true)) ∧
      (∀ x, o.get d = .scored x → x < p.thresholds.get d → v'.weightedVotes = v.weightedVotes ∧
        v'.voteRatio ≤ v.voteRatio ∧ (v.isPlagiarized = false → v'.isPlagiarized = false)) ∧
      v'.votes = v.votes ∧ v'.confidence = v.confidence ∧ v'.spread = v.spread ∧ v'.agreement = v.agreement ∧
      v'.isPartial = v.isPartial ∧ v'.missing = v.missing := by
  have hvalid : p.Valid := (fault?_eq_none_iff p).1 (p.check_eq_ok_iff.1 hp)
  obtain ⟨e, first, rest, havailable, hweight, rfl⟩ := available_of_decide h
  obtain ⟨e', first', rest', havailable', -, rfl⟩ := available_of_decide h'
  -- both verdicts are on the same scores
  rw [havailable] at havailable'
  obtain ⟨⟨-, rfl⟩, rfl⟩ := by simpa only [List.cons.injEq, Prod.mk.injEq] using havailable'
  have hadded : 0 ≤ p'.voteWeights.get d - p.voteWeights.get d := sub_nonneg.2 hheavier.le
  have hwhole : 0 < p.totalWeight (available o) := not_le.1 hweight
  have htotal := hheavier.totalWeight_eq o
  have hweighted := hheavier.weightedVotes_eq o
  obtain ⟨hnonneg, hle⟩ := weightedVotes_bounds hvalid o
  rw [hheavier.verdict_eq o first (rest.map (·.2))]
  refine ⟨fun r hr => ?unavailable, fun x hx hvote => ?votes, fun x hx hvote => ?noVote, rfl, rfl, rfl, rfl, rfl, rfl⟩
  case unavailable =>
    simp only [hr, Outcome.score?, Option.elim_none, add_zero] at htotal hweighted
    rw [htotal, hweighted]
    rfl
  case votes =>
    have hcast : p.votes d x = true := decide_eq_true hvote
    simp only [hx, Outcome.score?, Option.elim_some, hcast, if_true] at htotal hweighted
    have hratio : p.weightedVotes (available o) / p.totalWeight (available o) ≤
        p'.weightedVotes (available o) / p'.totalWeight (available o) := by
      rw [htotal, hweighted]
      exact share_le_of_add hle hwhole hadded
    refine ⟨?_, hratio, fun hflag => ?_⟩
    · show p.weightedVotes (available o) ≤ p'.weightedVotes (available o)
      rw [hweighted]
      exact le_add_of_nonneg_right hadded
    · have hreached : p.decisionThreshold ≤ p.weightedVotes (available o) / p.totalWeight (available o) :=
        of_decide_eq_true hflag
      exact decide_eq_true (hreached.trans hratio)
  case noVote =>
    have hcast : ¬ p.votes d x = true := fun h => not_le.2 hvote (of_decide_eq_true h)
    simp only [hx, Outcome.score?, Option.elim_some, if_neg hcast, add_zero] at htotal hweighted
    have hratio : p'.weightedVotes (available o) / p'.totalWeight (available o) ≤
        p.weightedVotes (available o) / p.totalWeight (available o) := by
      rw [htotal, hweighted]
      exact share_le_of_whole_add hnonneg hwhole hadded
    refine ⟨hweighted, hratio, fun hflag => decide_eq_false fun hreached => ?_⟩
    exact of_decide_eq_false hflag (hreached.trans hratio)

/-- The default policy with a vote of the first detector that weighs as much as the other two and more. -/
def firstHeavy : Policy ℚ := { (Policy.default : Policy ℚ) with voteWeights := ⟨4, 2, 1.5⟩ }

/-- What is found of a pair that two detectors of three vote for. -/
def divided : PerDetector (Outcome ℚ) := ⟨.scored (3 / 4), .scored (1 / 2), .scored (13 / 20)⟩

theorem decide_heavier_first :
    (Policy.default : Policy ℚ).check = .ok () ∧ (Policy.default : Policy ℚ).Heavier firstHeavy .token ∧
      ∃ v v', Policy.default.decide divided = .ok v ∧ firstHeavy.decide divided = .ok v' ∧
        v.weightedVotes ≤ v'.weightedVotes ∧ v.voteRatio ≤ v'.voteRatio ∧
        (v.isPlagiarized = true → v'.isPlagiarized = true) ∧ v'.votes = v.votes ∧ v'.confidence = v.confidence := by
  have hcheck : (Policy.default : Policy ℚ).check = .ok () := (check_eq_ok_iff _).2 (by decide +kernel)
  have hheavier : (Policy.default : Policy ℚ).Heavier firstHeavy .token := by
    refine ⟨rfl, rfl, rfl, rfl, rfl, ?_, by decide +kernel⟩
    rintro (_ | _ | _) he
    · exact absurd rfl he
    · rfl
    · rfl
  have hunit : ∀ d x, divided.get d = .scored x → 0 ≤ x ∧ x ≤ 1 := by rintro (_ | _ | _) x ⟨⟩ <;> decide +kernel
  obtain ⟨v, hv⟩ := exists_decide (p := Policy.default) (d := .token) ((fault?_eq_none_iff _).1 (by decide +kernel)) hunit
    rfl (by decide +kernel)
  obtain ⟨v', hv'⟩ := exists_decide (p := firstHeavy) (d := .token) ((fault?_eq_none_iff _).1 (by decide +kernel)) hunit
    rfl (by decide +kernel)
  obtain ⟨-, hvotes, -, hsame, hconfidence, -⟩ := decide_heavier hcheck hheavier hv hv'
  obtain ⟨hweighted, hratio, hflag⟩ := hvotes (3 / 4) rfl (by decide +kernel)
  exact ⟨hcheck, hheavier, v, v', hv, hv', hweighted, hratio, hflag, hsame, hconfidence⟩

end Policy
end Likeness.Decision
