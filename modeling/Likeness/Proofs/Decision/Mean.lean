import Likeness.Proofs.Decision.Outcome

/-!
# Confidence as a mean

The confidence of a verdict is a mean of the scores by weights that are not negative, so that it lies between the least and
the greatest score (`mean_between`), and nothing is left for the clamp to do. The spread is the distance of these two
(`decide_between`). Numbers are rational here.
-/

namespace Likeness.Decision

/-- The scores that there are. -/
def scoresFound (o : PerDetector (Outcome ℚ)) : Set ℚ := {x | ∃ d, o.get d = .scored x}

variable {o : PerDetector (Outcome ℚ)} {lo hi : ℚ}

/-! ### Means by weights -/

theorem overScored_one_pos {d : Detector} {x : ℚ} (hx : o.get d = .scored x) : 0 < overScored o fun _ _ => 1 :=
  zero_lt_one.trans_le (le_overScored (fun _ _ => 1) (fun _ _ _ => zero_le_one) hx)

/-- A mean lies between any bounds of its numbers. -/
theorem weighted_between (weight : Detector → ℚ) (hnonneg : ∀ d, 0 ≤ weight d)
    (hpos : 0 < overScored o fun d _ => weight d) (hbounds : ∀ d x, o.get d = .scored x → lo ≤ x ∧ x ≤ hi) :
    lo ≤ (overScored o fun d x => weight d * x) / (overScored o fun d _ => weight d) ∧
      (overScored o fun d x => weight d * x) / (overScored o fun d _ => weight d) ≤ hi := by
  constructor
  · rw [le_div_iff₀ hpos]
    calc lo * (overScored o fun d _ => weight d) = overScored o fun d _ => lo * weight d :=
          (overScored_mul_left lo o fun d _ => weight d).symm
      _ ≤ overScored o fun d x => weight d * x := by
          refine overScored_le_of_scored (fun _ => Iff.rfl) fun d _ x _ hx => ?_
          rw [mul_comm]
          exact mul_le_mul_of_nonneg_left (hbounds d x hx).1 (hnonneg d)
  · rw [div_le_iff₀ hpos]
    calc (overScored o fun d x => weight d * x) ≤ overScored o fun d _ => hi * weight d := by
          refine overScored_le_of_scored (fun _ => Iff.rfl) fun d x _ hx _ => ?_
          rw [mul_comm hi]
          exact mul_le_mul_of_nonneg_left (hbounds d x hx).2 (hnonneg d)
      _ = hi * overScored o fun d _ => weight d := overScored_mul_left hi o fun d _ => weight d

namespace Policy

variable {p : Policy ℚ}

/-- The mean of the scores lies between any bounds of them, also where no confidence weight is left. -/
theorem mean_between (hp : p.Valid) {d : Detector} {x : ℚ} (hx : o.get d = .scored x)
    (hbounds : ∀ d x, o.get d = .scored x → lo ≤ x ∧ x ≤ hi) :
    lo ≤ p.mean (available o) ∧ p.mean (available o) ≤ hi := by
  rw [mean_available]
  split
  · rename_i hpos
    exact weighted_between p.confidenceWeights.get (fun d => (hp.confidenceWeight d).1) hpos hbounds
  · have hplain := weighted_between (fun _ => 1) (fun _ => zero_le_one) (overScored_one_pos hx) hbounds
    simpa only [one_mul] using hplain

/-! ### Confidence and spread -/

/-- The confidence lies between the least and the greatest score, so that it is the mean of the scores as it stands. The
spread is the difference of these two scores; it lies between 0 and 1, and is 0 exactly if all scores are equal, which is
what the confidence is then. -/
theorem decide_between (hp : p.check = .ok ()) {v : Verdict ℚ} (h : p.decide o = .ok v) :
    (∃ lo hi, IsLeast (scoresFound o) lo ∧ IsGreatest (scoresFound o) hi ∧ (lo ≤ v.confidence ∧ v.confidence ≤ hi) ∧
        v.spread = hi - lo) ∧
      (v.confidence = Number.clamp (p.mean (available o)) ∧
        Number.clamp (p.mean (available o)) = p.mean (available o)) ∧
      (0 ≤ v.spread ∧ v.spread ≤ 1) ∧ (v.spread = 0 ↔ ∀ x ∈ scoresFound o, ∀ y ∈ scoresFound o, x = y) ∧
      (v.spread = 0 → ∀ x ∈ scoresFound o, v.confidence = x) := by
  have hvalid : p.Valid := (fault?_eq_none_iff p).1 (p.check_eq_ok_iff.1 hp)
  obtain ⟨lo, hi, ⟨d, hlo⟩, ⟨e, hhi⟩, hbounds, hspread⟩ := (tells_of_decide hvalid h).spread
  have hmean := mean_between hvalid hlo hbounds
  have hzero : 0 ≤ lo := ((Number.isUnit_iff lo).1 (isUnit_of_decide h hlo)).1
  have hone : hi ≤ 1 := ((Number.isUnit_iff hi).1 (isUnit_of_decide h hhi)).2
  have hclamp : Number.clamp (p.mean (available o)) = p.mean (available o) :=
    Number.clamp_of_unit ⟨hzero.trans hmean.1, hmean.2.trans hone⟩
  have hconfidence : v.confidence = Number.clamp (p.mean (available o)) := by
    obtain ⟨-, first, rest, -, -, rfl⟩ := available_of_decide h
    exact p.confidence_eq_clamp (available o)
  have hbetween : lo ≤ v.confidence ∧ v.confidence ≤ hi := by rwa [hconfidence, hclamp]
  have hflat : v.spread = 0 ↔ hi = lo := by rw [hspread, sub_eq_zero]
  refine ⟨⟨lo, hi, ⟨⟨d, hlo⟩, ?least⟩, ⟨⟨e, hhi⟩, ?greatest⟩, hbetween, hspread⟩, ⟨hconfidence, hclamp⟩, ?unit, ?equal,
    ?common⟩
  case least =>
    rintro x ⟨d, hx⟩
    exact (hbounds d x hx).1
  case greatest =>
    rintro x ⟨d, hx⟩
    exact (hbounds d x hx).2
  case unit =>
    rw [hspread]
    constructor
    · exact sub_nonneg.2 (hbetween.1.trans hbetween.2)
    · linarith
  case equal =>
    rw [hflat]
    constructor
    · rintro rfl x ⟨d, hx⟩ y ⟨e, hy⟩
      have hx := hbounds d x hx
      have hy := hbounds e y hy
      exact (le_antisymm hx.2 hx.1).trans (le_antisymm hy.1 hy.2)
    · intro hall
      exact hall hi ⟨e, hhi⟩ lo ⟨d, hlo⟩
  case common =>
    rw [hflat]
    rintro rfl x ⟨d, hx⟩
    have hx := hbounds d x hx
    exact (le_antisymm hbetween.2 hbetween.1).trans (le_antisymm hx.1 hx.2)

/-- A policy whose confidence rests on one detector, with a weight that is 1 only within the tolerance. -/
def oneSided : Policy ℚ := { (Policy.default : Policy ℚ) with confidenceWeights := ⟨0, 0.9999995, 0⟩ }

/-- What is found of a pair when that detector has no score. -/
def unweighted : PerDetector (Outcome ℚ) := ⟨.scored (3 / 5), .unavailable "parse_error", .scored (1 / 5)⟩

theorem decide_between_unweighted :
    oneSided.check = .ok () ∧ ∃ v, oneSided.decide unweighted = .ok v ∧
      (∃ lo hi, IsLeast (scoresFound unweighted) lo ∧ IsGreatest (scoresFound unweighted) hi ∧
        (lo ≤ v.confidence ∧ v.confidence ≤ hi) ∧ v.spread = hi - lo) ∧
      v.confidence = oneSided.mean (available unweighted) ∧ oneSided.mean (available unweighted) = 2 / 5 ∧
      v.spread ≠ 0 := by
  have hcheck : oneSided.check = .ok () := (check_eq_ok_iff _).2 (by decide +kernel)
  obtain ⟨v, hv⟩ := exists_decide (p := oneSided) (o := unweighted) (d := .token)
    ((fault?_eq_none_iff _).1 (by decide +kernel)) (by rintro (_ | _ | _) x ⟨⟩ <;> decide +kernel) rfl (by decide +kernel)
  obtain ⟨hbetween, ⟨hconfidence, hclamp⟩, -, hflat, -⟩ := decide_between hcheck hv
  refine ⟨hcheck, v, hv, hbetween, hconfidence.trans hclamp, by decide +kernel, fun hzero => ?_⟩
  have hequal : (3 / 5 : ℚ) = 1 / 5 := hflat.1 hzero _ ⟨.token, rfl⟩ _ ⟨.hash, rfl⟩
  exact absurd hequal (by decide +kernel)

end Policy
end Likeness.Decision
