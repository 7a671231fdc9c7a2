import Likeness.Proofs.Decimal.Float
import Likeness.Proofs.Decision.Verdict
import Likeness.Proofs.Settings.Check

/-!
# Verdicts over floating-point numbers

The votes of a verdict weigh no more than the detectors that have a score, and their ratio lies between 0 and 1 as long
as the sum of the weights is finite (`decide_finite`). Each weight of a policy that is accepted is finite, but their sum
need not be: then a unanimous vote flags nothing (`unanimous_vote_overflows`).
-/

namespace Likeness.Decision

open Binary64

/-! ### Weights as lists -/

/-- The detectors that have a score are some of all, in their order. -/
theorem map_fst_available {α : Type} (o : PerDetector (Outcome α)) :
    (available o).map (·.1) = Detector.all.filter fun d => (o.get d).score?.isSome := by
  obtain ⟨token, ast, hash⟩ := o
  cases token <;> cases ast <;> cases hash <;> rfl

theorem map_get_map_fst {α : Type} (w : PerDetector α) (scored : List (Detector × α)) :
    (scored.map (·.1)).map w.get = scored.map fun x => w.get x.1 := List.map_map

theorem total_eq_sum {α : Type} [Number α] (w : PerDetector α) : w.total = Number.sum (Detector.all.map w.get) := rfl

theorem Policy.weightedVotes_eq_foldl {α : Type} [Number α] (p : Policy α) (scored : List (Detector × α)) :
    p.weightedVotes scored =
      ((scored.filter fun x => p.votes x.1 x.2).map fun x => p.voteWeights.get x.1).foldl (· + ·) (0 : α) := by
  rw [List.foldl_map, List.foldl_filter]
  rfl

/-! ### Weights that are not negative -/

/-- A sum that begins with the first number is the same as one that begins with 0. -/
theorem sum_bounds {xs : List Float} (h : ∀ x ∈ xs, (0 : Float) ≤ x) :
    (0 : Float) ≤ Number.sum xs ∧ xs.foldl (· + ·) 0 ≤ Number.sum xs ∧ Number.sum xs ≤ xs.foldl (· + ·) 0 := by
  have hzero := zero_le_zero_float
  cases xs with
  | nil => exact ⟨hzero, hzero, hzero⟩
  | cons x xs =>
    obtain ⟨hx, hxs⟩ := List.forall_mem_cons.1 h
    obtain ⟨hle, hge⟩ := zero_add_le hx
    have hfirst := add_nonneg hzero hx
    have hupper := foldl_add_le (List.Sublist.refl xs) hxs hx hfirst hge
    exact ⟨hupper.1, (foldl_add_le (List.Sublist.refl xs) hxs hfirst hx hle).2, hupper.2⟩

theorem sum_le_sum_of_sublist {xs ys : List Float} (h : xs.Sublist ys) (hys : ∀ y ∈ ys, (0 : Float) ≤ y) :
    Number.sum xs ≤ Number.sum ys := by
  have hzero := zero_le_zero_float
  obtain ⟨hx, -, hxs⟩ := sum_bounds fun x hx => hys x (h.subset hx)
  obtain ⟨hy, hyle, -⟩ := sum_bounds hys
  obtain ⟨hfold, hle⟩ := foldl_add_le h hys hzero hzero hzero
  have hfold' := (foldl_add_le (List.Sublist.refl ys) hys hzero hzero hzero).1
  exact le_trans_of_nonneg hx hfold hy hxs (le_trans_of_nonneg hfold hfold' hy hle hyle)

namespace Policy

variable {p : Policy Float}

theorem voteWeight_of_check (hp : p.check = .ok ()) (d : Detector) :
    (0 : Float) ≤ p.voteWeights.get d ∧ (p.voteWeights.get d).isFinite = true := by
  obtain ⟨-, hdetector, -⟩ := p.fault?_eq_none.1 (p.check_eq_ok_iff.1 hp)
  obtain ⟨-, hfinite, hneg, -⟩ := (p.detectorFault?_eq_none d).1 (hdetector d)
  exact ⟨nonneg_of_not_neg hfinite hneg, hfinite⟩

section

variable (hp : p.check = .ok ()) (o : PerDetector (Outcome Float))
include hp

theorem nonneg_of_mem_weights {ds : List Detector} : ∀ x ∈ ds.map p.voteWeights.get, (0 : Float) ≤ x := by
  intro x hx
  obtain ⟨d, -, rfl⟩ := List.mem_map.1 hx
  exact (voteWeight_of_check hp d).1

/-- The detectors that have a score weigh no more than all. -/
theorem totalWeight_le_total :
    (0 : Float) ≤ p.totalWeight (available o) ∧ p.totalWeight (available o) ≤ p.voteWeights.total ∧
      (0 : Float) ≤ p.voteWeights.total := by
  have hsum : p.totalWeight (available o) = Number.sum ((available o).map fun x => p.voteWeights.get x.1) := rfl
  rw [hsum, ← map_get_map_fst, total_eq_sum, map_fst_available]
  exact ⟨(sum_bounds (nonneg_of_mem_weights hp)).1,
    sum_le_sum_of_sublist (List.filter_sublist.map _) (nonneg_of_mem_weights hp),
    (sum_bounds (nonneg_of_mem_weights hp)).1⟩

/-- The votes weigh no more than the detectors that have a score, and as much if each of these votes. -/
theorem weightedVotes_le_totalWeight :
    (0 : Float) ≤ p.weightedVotes (available o) ∧ p.weightedVotes (available o) ≤ p.totalWeight (available o) ∧
      ((∀ x ∈ available o, p.votes x.1 x.2 = true) → p.totalWeight (available o) ≤ p.weightedVotes (available o)) := by
  have hzero := zero_le_zero_float
  have hnonneg : ∀ x ∈ (available o).map fun x => p.voteWeights.get x.1, (0 : Float) ≤ x := by
    rw [← map_get_map_fst]
    exact nonneg_of_mem_weights hp
  obtain ⟨htotal, hle, hge⟩ := sum_bounds hnonneg
  have hvotes : (((available o).filter fun x => p.votes x.1 x.2).map fun x => p.voteWeights.get x.1).Sublist
      ((available o).map fun x => p.voteWeights.get x.1) := List.filter_sublist.map _
  obtain ⟨hweighted, hvotesle⟩ := foldl_add_le hvotes hnonneg hzero hzero hzero
  have hall := (foldl_add_le (List.Sublist.refl _) hnonneg hzero hzero hzero).1
  rw [weightedVotes_eq_foldl]
  refine ⟨hweighted, le_trans_of_nonneg hweighted hall htotal hvotesle hle, fun hvote => ?_⟩
  rw [List.filter_eq_self.2 hvote]
  exact hge

end

/-- The votes of a verdict weigh no more than the detectors that have a score, whose weight is positive. Where that weight
is finite, as it is if all the weights have a finite sum, their ratio is a number between 0 and 1, and a pair that every
detector votes for is flagged with the ratio 1. -/
theorem decide_finite (p : Policy Float) (hp : p.check = .ok ()) (o : PerDetector (Outcome Float)) (v : Verdict Float)
    (h : p.decide o = .ok v) :
    (0 : Float) < v.totalWeight ∧ ((0 : Float) ≤ v.weightedVotes ∧ v.weightedVotes ≤ v.totalWeight) ∧
      (p.voteWeights.total.isFinite = true → v.totalWeight.isFinite = true) ∧
      (v.totalWeight.isFinite = true →
        v.voteRatio.isNaN = false ∧ ((0 : Float) ≤ v.voteRatio ∧ v.voteRatio ≤ (1 : Float)) ∧
          ((∀ d, v.votes.get d ≠ some false) → v.voteRatio = 1 ∧ v.isPlagiarized = true)) := by
  obtain ⟨-, -, -, -, hthreshold, -⟩ := p.fault?_eq_none.1 (p.check_eq_ok_iff.1 hp)
  obtain ⟨-, first, rest, -, hweight, rfl⟩ := available_of_decide h
  obtain ⟨htotal, htotalle, hall⟩ := totalWeight_le_total hp o
  obtain ⟨hweighted, hle, hge⟩ := weightedVotes_le_totalWeight hp o
  have hpos : (0 : Float) < p.totalWeight (available o) := pos_of_not_nonpos htotal hweight
  refine ⟨hpos, ⟨hweighted, hle⟩, fun hfinite => isFinite_of_le htotal hall htotalle hfinite, fun hfinite => ?_⟩
  have hunit := div_unit hweighted hle hpos hfinite
  refine ⟨Bool.eq_false_iff.2 fun hnan => not_nonneg_of_isNaN hnan hunit.1, hunit, fun hvotes => ?_⟩
  have hvote : ∀ x ∈ available o, p.votes x.1 x.2 = true := by
    intro x hx
    have hcast := hvotes x.1
    rw [verdict_votes, mem_available.1 hx] at hcast
    by_contra hno
    exact hcast (congrArg some (Bool.eq_false_iff.2 hno))
  have hratio : p.weightedVotes (available o) / p.totalWeight (available o) = 1 :=
    div_eq_one hweighted hle hpos hfinite (hge hvote)
  refine ⟨hratio, ?_⟩
  show Decidable.decide (p.decisionThreshold ≤ p.weightedVotes (available o) / p.totalWeight (available o)) = true
  rw [hratio]
  exact decide_eq_true (Number.bounds_of_isUnit hthreshold).2

/-- The verdict on two detectors that find the score 1, with the weights 1 and 1.5. -/
theorem decide_finite_two_votes :
    ∃ v : Verdict Float, v.totalWeight.isFinite = true ∧ (0 : Float) < v.totalWeight ∧ v.weightedVotes ≤ v.totalWeight ∧
      v.voteRatio = 1 ∧ v.isPlagiarized = true := by
  have hrun : ((Policy.default : Policy Float).decide ⟨.scored 1, .unavailable "parse_error", .scored 1⟩).toOption.map
      (fun v => (v.totalWeight.isFinite, v.votes)) = some (true, ⟨some true, none, some true⟩) := by decide +kernel
  cases hdecide : (Policy.default : Policy Float).decide ⟨.scored 1, .unavailable "parse_error", .scored 1⟩ with
  | error e =>
    rw [hdecide] at hrun
    cases hrun
  | ok v =>
    rw [hdecide] at hrun
    obtain ⟨hfinite, hvotes⟩ := Prod.mk.inj (Option.some.inj hrun)
    have hcheck : (Policy.default : Policy Float).check = .ok () := (check_eq_ok_iff _).2 (by decide +kernel)
    obtain ⟨hpos, ⟨-, hle⟩, -, hratio⟩ := decide_finite Policy.default hcheck _ v hdecide
    refine ⟨v, hfinite, hpos, hle, (hratio hfinite).2.2 fun d => ?_⟩
    rw [hvotes]
    cases d <;> decide

/-- Weights that are finite while their sum is not. -/
def heavy : Policy Float := { (Policy.default : Policy Float) with voteWeights := ⟨1e308, 1e308, 1e308⟩ }

/-- With such weights a policy is accepted, and a unanimous vote flags nothing. -/
theorem unanimous_vote_overflows :
    ∃ v, heavy.check = .ok () ∧ heavy.decide ⟨.scored 1, .scored 1, .scored 1⟩ = .ok v ∧
      (∀ d, v.votes.get d = some true) ∧ v.totalWeight.isFinite = false ∧ v.voteRatio.isNaN = true ∧
      v.isPlagiarized = false := by
  have hrun : (heavy.decide ⟨.scored 1, .scored 1, .scored 1⟩).toOption.map
      (fun v => (v.votes, v.totalWeight.isFinite, v.voteRatio.isNaN, v.isPlagiarized)) =
        some (⟨some true, some true, some true⟩, false, true, false) := by decide +kernel
  cases hdecide : heavy.decide ⟨.scored 1, .scored 1, .scored 1⟩ with
  | error e =>
    rw [hdecide] at hrun
    cases hrun
  | ok v =>
    rw [hdecide] at hrun
    obtain ⟨hvotes, hinfinite, hnan, hflag⟩ := by simpa only [Prod.mk.injEq] using Option.some.inj hrun
    refine ⟨v, (check_eq_ok_iff _).2 (by decide +kernel), rfl, fun d => ?_, hinfinite, hnan, hflag⟩
    rw [hvotes]
    cases d <;> rfl

end Policy
end Likeness.Decision
