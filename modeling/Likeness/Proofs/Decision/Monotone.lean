import Likeness.Proofs.Decision.Sums
import Likeness.Proofs.Settings.Check

/-!
# Higher scores and lower thresholds

A pair that is flagged stays flagged where scores are raised or thresholds lowered, the same detectors having scores:
votes, their weight and ratio, and the confidence do not decrease (`decide_monotone`). Numbers are rational here.
-/

namespace Likeness.Decision

/-- The same detectors have scores, and each a score that is at least as high. -/
structure Raised (o o' : PerDetector (Outcome ℚ)) : Prop where
  scored (d : Detector) : (∃ x, o.get d = .scored x) ↔ ∃ x, o'.get d = .scored x
  le (d : Detector) (x y : ℚ) : o.get d = .scored x → o'.get d = .scored y → x ≤ y

/-- Policies that are the same but for thresholds, each at most as high. -/
structure Policy.Lowered (p p' : Policy ℚ) : Prop where
  version : p'.version = p.version
  voteWeights : p'.voteWeights = p.voteWeights
  confidenceWeights : p'.confidenceWeights = p.confidenceWeights
  cutoffs : p'.cutoffs = p.cutoffs
  threshold (d : Detector) : p'.thresholds.get d ≤ p.thresholds.get d
  decisionThreshold : p'.decisionThreshold ≤ p.decisionThreshold

variable {o o' : PerDetector (Outcome ℚ)} {p p' : Policy ℚ}

/-! ### Sums over the same detectors -/

/-- A sum of terms that do not depend on the scores is the same. -/
theorem Raised.overScored_eq (h : Raised o o') (term : Detector → ℚ) :
    (overScored o fun d _ => term d) = overScored o' fun d _ => term d :=
  le_antisymm (overScored_le_of_scored h.scored fun _ _ _ _ _ => le_rfl)
    (overScored_le_of_scored (fun d => (h.scored d).symm) fun _ _ _ _ _ => le_rfl)

namespace Policy

/-! ### What a verdict is made of -/

theorem votes_mono (hp : p.Lowered p') {d : Detector} {x y : ℚ} (hxy : x ≤ y) (h : p.votes d x = true) :
    p'.votes d y = true := by
  have hx : p.thresholds.get d ≤ x := of_decide_eq_true h
  exact decide_eq_true ((hp.threshold d).trans (hx.trans hxy))

theorem totalWeight_raised (hp : p.Lowered p') (h : Raised o o') :
    p'.totalWeight (available o') = p.totalWeight (available o) := by
  rw [totalWeight_available, totalWeight_available, hp.voteWeights, h.overScored_eq]

theorem weightedVotes_mono (hvalid : p.Valid) (hp : p.Lowered p') (h : Raised o o') :
    p.weightedVotes (available o) ≤ p'.weightedVotes (available o') := by
  rw [weightedVotes_available, weightedVotes_available, hp.voteWeights]
  refine overScored_le_of_scored h.scored fun d x y hx hy => ?_
  have hweight := hvalid.voteWeight d
  by_cases hvote : p.votes d x = true
  · rw [if_pos hvote, if_pos (votes_mono hp (h.le d x y hx hy) hvote)]
  · rw [if_neg hvote]
    split
    · exact hweight
    · exact le_rfl

theorem confidence_mono (hvalid : p.Valid) (hp : p.Lowered p') (h : Raised o o') :
    p.confidence (available o) ≤ p'.confidence (available o') := by
  rw [confidence_available, confidence_available, hp.confidenceWeights, ← h.overScored_eq, ← h.overScored_eq]
  refine Number.clamp_mono ?_
  have hshares : (overScored o fun d x => p.confidenceWeights.get d * x) ≤
      overScored o' fun d x => p.confidenceWeights.get d * x :=
    overScored_le_of_scored h.scored fun d x y hx hy =>
      mul_le_mul_of_nonneg_left (h.le d x y hx hy) (hvalid.confidenceWeight d).1
  have hscores : (overScored o fun _ x => x) ≤ overScored o' fun _ x => x := overScored_le_of_scored h.scored h.le
  have hcount : 0 ≤ overScored o fun _ _ => 1 := overScored_nonneg fun _ _ _ => zero_le_one
  split
  · rename_i hweight
    exact div_le_div_of_nonneg_right hshares hweight.le
  · exact div_le_div_of_nonneg_right hscores hcount

theorem available_congr (h : ∀ d, (o.get d).score? = (o'.get d).score?) : available o = available o' := by
  unfold available
  simp only [h]

theorem confidence_congr (h : p'.confidenceWeights = p.confidenceWeights) (scored : List (Detector × ℚ)) :
    p'.confidence scored = p.confidence scored := by
  unfold confidence
  rw [h]

/-! ### Two verdicts -/

/-- Where scores are raised and thresholds lowered, votes are not lost, their weight, their ratio and the confidence do not
decrease, and a pair that is flagged stays flagged. Where the scores are the same, so are the confidence, the spread and the
agreement. -/
theorem decide_monotone (hp : p.check = .ok ()) (hlower : p.Lowered p') (hraise : Raised o o') {v v' : Verdict ℚ}
    (h : p.decide o = .ok v) (h' : p'.decide o' = .ok v') :
    (∀ d, v.votes.get d = some true → v'.votes.get d = some true) ∧ v.weightedVotes ≤ v'.weightedVotes ∧
      v.totalWeight = v'.totalWeight ∧ v.voteRatio ≤ v'.voteRatio ∧ v.confidence ≤ v'.confidence ∧
      (v.isPlagiarized = true → v'.isPlagiarized = true) ∧
      ((∀ d, (o.get d).score? = (o'.get d).score?) →
        v.confidence = v'.confidence ∧ v.spread = v'.spread ∧ v.agreement = v'.agreement) := by
  have hvalid : p.Valid := (fault?_eq_none_iff p).1 (p.check_eq_ok_iff.1 hp)
  obtain ⟨d, first, rest, havailable, hweight, rfl⟩ := available_of_decide h
  obtain ⟨d', first', rest', havailable', hweight', rfl⟩ := available_of_decide h'
  have htotal := totalWeight_raised hlower hraise
  have hweighted := weightedVotes_mono hvalid hlower hraise
  have hratio : p.weightedVotes (available o) / p.totalWeight (available o) ≤
      p'.weightedVotes (available o') / p'.totalWeight (available o') := by
    rw [htotal]
    exact div_le_div_of_nonneg_right hweighted (not_le.1 hweight).le
  refine ⟨fun e hvote => ?_, hweighted, htotal.symm, hratio, confidence_mono hvalid hlower hraise, fun hflag => ?_,
    fun hsame => ?_⟩
  · rw [verdict_votes] at hvote
    obtain ⟨x, hx, hcast⟩ := Option.map_eq_some_iff.1 hvote
    have hx := score?_eq_some_iff.1 hx
    obtain ⟨y, hy⟩ := (hraise.scored e).1 ⟨x, hx⟩
    rw [verdict_votes, hy]
    exact congrArg some (votes_mono hlower (hraise.le e x y hx hy) hcast)
  · have hreached : p.decisionThreshold ≤ p.weightedVotes (available o) / p.totalWeight (available o) :=
      of_decide_eq_true hflag
    exact decide_eq_true (hlower.decisionThreshold.trans (hreached.trans hratio))
  · have hscored : available o = available o' := available_congr hsame
    rw [hscored, havailable'] at havailable
    obtain ⟨⟨-, rfl⟩, rfl⟩ := by simpa only [List.cons.injEq, Prod.mk.injEq] using havailable
    refine ⟨?_, rfl, ?_⟩
    · show p.confidence (available o) = p'.confidence (available o')
      rw [hscored, confidence_congr hlower.confidenceWeights]
    · show p.cutoffs.classify _ = p'.cutoffs.classify _
      rw [hlower.cutoffs]

/-- The default policy with lower thresholds. -/
def lenient : Policy ℚ := { (Policy.default : Policy ℚ) with thresholds := ⟨0.7, 0.5, 0.4⟩, decisionThreshold := 0.3 }

/-- What is found of a pair of which one source cannot be parsed. -/
def halves : PerDetector (Outcome ℚ) := ⟨.scored (1 / 2), .unavailable "parse_error", .scored (1 / 2)⟩

/-- The same with a higher score of the last detector. -/
def higher : PerDetector (Outcome ℚ) := ⟨.scored (1 / 2), .unavailable "parse_error", .scored (3 / 4)⟩

theorem decide_monotone_lenient :
    ∃ v v', Policy.default.decide halves = .ok v ∧ lenient.decide higher = .ok v' ∧
      v.weightedVotes ≤ v'.weightedVotes ∧ v.voteRatio ≤ v'.voteRatio ∧ v.confidence ≤ v'.confidence ∧
      (v.isPlagiarized = true → v'.isPlagiarized = true) := by
  have hcheck : (Policy.default : Policy ℚ).check = .ok () := (check_eq_ok_iff _).2 (by decide +kernel)
  have hlower : (Policy.default : Policy ℚ).Lowered lenient := by
    refine ⟨rfl, rfl, rfl, rfl, ?_, by decide +kernel⟩
    rintro (_ | _ | _) <;> decide +kernel
  have hraise : Raised halves higher := by
    constructor
    · rintro (_ | _ | _) <;> simp [halves, higher, PerDetector.get]
    · rintro (_ | _ | _) x y ⟨⟩ ⟨⟩ <;> decide +kernel
  obtain ⟨v, hv⟩ := exists_decide (p := Policy.default) (o := halves) (d := .token)
    ((fault?_eq_none_iff _).1 (by decide +kernel)) (by rintro (_ | _ | _) x ⟨⟩ <;> decide +kernel) rfl (by decide +kernel)
  obtain ⟨v', hv'⟩ := exists_decide (p := lenient) (o := higher) (d := .token)
    ((fault?_eq_none_iff _).1 (by decide +kernel)) (by rintro (_ | _ | _) x ⟨⟩ <;> decide +kernel) rfl (by decide +kernel)
  obtain ⟨-, hweighted, -, hratio, hconfidence, hflag, -⟩ := decide_monotone hcheck hlower hraise hv hv'
  exact ⟨v, v', hv, hv', hweighted, hratio, hconfidence, hflag⟩

end Policy
end Likeness.Decision
