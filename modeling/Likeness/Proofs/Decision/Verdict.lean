import Likeness.Decision.Verdict
import Likeness.Proofs.Decision.Policy

/-!
# What is decided of scores

Scores between 0 and 1 are decided on exactly if the detectors that have one carry weight (`decide_eq`,
`totalWeight_nonpos_iff`). Where all scores are 1, every detector that has one votes, and the verdict is as
clear as can be (`decide_of_all_one`). Numbers are rational here.
-/

namespace Likeness.Decision

/-! ### Detectors with a score -/

section

variable {α : Type}

theorem score?_eq_some_iff {outcome : Outcome α} {x : α} : outcome.score? = some x ↔ outcome = .scored x := by
  cases outcome <;> simp [Outcome.score?]

theorem mem_available {o : PerDetector (Outcome α)} {d : Detector} {x : α} :
    (d, x) ∈ available o ↔ o.get d = .scored x := by
  have hall : d ∈ Detector.all := by cases d <;> simp [Detector.all]
  simp only [available, List.mem_filterMap, Option.map_eq_some_iff, Prod.mk.injEq]
  constructor
  · rintro ⟨d', -, x', hx', rfl, rfl⟩
    exact score?_eq_some_iff.1 hx'
  · intro h
    exact ⟨d, hall, x, score?_eq_some_iff.2 h, rfl, rfl⟩

/-- The detectors that are missing are those without a score, in their order. -/
theorem map_detector_missing (o : PerDetector (Outcome α)) :
    (missing o).map (·.detector) = Detector.all.filter fun d => (o.get d).score?.isNone := by
  obtain ⟨token, ast, hash⟩ := o
  cases token <;> cases ast <;> cases hash <;> rfl

/-- A verdict tells the scores that it was decided on. -/
theorem scores_of_decide [Number α] {p : Policy α} {o : PerDetector (Outcome α)} {v : Verdict α}
    (h : p.decide o = .ok v) : v.scores = o.map (·.score?) := by
  unfold Policy.decide at h
  simp only at h
  split at h
  · cases h
  · split at h
    · cases h
    · split at h
      · cases h
      · cases h
        rfl

end

/-! ### Detectors that all find the score 1 -/

@[simp] theorem PerDetector.get_ofFn {β : Type} (f : Detector → β) (d : Detector) : (PerDetector.ofFn f).get d = f d := by
  cases d <;> rfl

theorem PerDetector.get_map {β γ : Type} (f : β → γ) (p : PerDetector β) (d : Detector) :
    (p.map f).get d = f (p.get d) := by
  cases d <;> rfl

/-- All detectors that run find the score 1, and the verdict is as clear as can be. -/
structure Verdict.Unanimous (v : Verdict ℚ) (runs : PerDetector Bool) : Prop where
  scores : v.scores = runs.map fun r => if r then some 1 else none
  votes : v.votes = runs.map fun r => if r then some true else none
  voteRatio : v.voteRatio = 1
  isPlagiarized : v.isPlagiarized = true
  confidence : v.confidence = 1
  spread : v.spread = 0
  agreement : v.agreement = .strong

section

variable {o : PerDetector (Outcome ℚ)} {runs : PerDetector Bool}

theorem score_of_scores (hscores : o.map (·.score?) = runs.map fun r => if r then some 1 else none) (d : Detector) :
    (o.get d).score? = if runs.get d then some 1 else none := by
  have h := congrArg (·.get d) hscores
  rwa [PerDetector.get_map, PerDetector.get_map] at h

theorem eq_one_of_scored (hscores : o.map (·.score?) = runs.map fun r => if r then some 1 else none) {d : Detector}
    {x : ℚ} (hx : o.get d = .scored x) : x = 1 := by
  have h := score_of_scores hscores d
  rw [hx, Outcome.score?] at h
  split at h
  · exact Option.some.inj h
  · cases h

end

namespace Policy

variable (p : Policy ℚ)

/-! ### Weights -/

theorem totalWeight_eq (scored : List (Detector × ℚ)) :
    p.totalWeight scored = (scored.map fun x => p.voteWeights.get x.1).sum := Number.sum_eq _

/-- Where every detector votes, the votes weigh as much as the detectors. -/
theorem weightedVotes_of_forall_votes {scored : List (Detector × ℚ)} (h : ∀ x ∈ scored, p.votes x.1 x.2 = true) :
    p.weightedVotes scored = p.totalWeight scored := by
  have hfold : ∀ (a : ℚ) (xs : List (Detector × ℚ)), (∀ x ∈ xs, p.votes x.1 x.2 = true) →
      xs.foldl (fun sum (d, s) => if p.votes d s then sum + p.voteWeights.get d else sum) a =
        a + (xs.map fun x => p.voteWeights.get x.1).sum := by
    intro a xs hxs
    induction xs generalizing a with
    | nil => simp
    | cons x xs ih =>
      rw [List.foldl_cons, ih _ fun y hy => hxs y (List.mem_cons_of_mem _ hy)]
      simp only [hxs x (by simp), if_true, List.map_cons, List.sum_cons]
      exact add_assoc _ _ _
  have hvotes := hfold 0 scored h
  rw [zero_add, ← totalWeight_eq] at hvotes
  exact hvotes

theorem totalWeight_nonpos_iff {p : Policy ℚ} (hp : p.Valid) (scored : List (Detector × ℚ)) :
    p.totalWeight scored ≤ 0 ↔ ∀ x ∈ scored, p.voteWeights.get x.1 = 0 := by
  rw [totalWeight_eq, Number.sum_nonpos_iff]
  · exact List.forall_mem_map
  · intro w hw
    obtain ⟨x, -, rfl⟩ := List.mem_map.1 hw
    exact hp.voteWeight x.1

/-! ### Decisions -/

section

variable {α : Type} [Number α]

/-- The verdict on scores of which the first is `first` and the others are `others`. -/
def verdict (p : Policy α) (o : PerDetector (Outcome α)) (first : α) (others : List α) : Verdict α where
  scores := o.map (·.score?)
  weightedVotes := p.weightedVotes (available o)
  totalWeight := p.totalWeight (available o)
  voteRatio := p.weightedVotes (available o) / p.totalWeight (available o)
  isPlagiarized := p.decisionThreshold ≤ p.weightedVotes (available o) / p.totalWeight (available o)
  confidence := p.confidence (available o)
  agreement := p.cutoffs.classify (Number.greatest first others - Number.least first others)
  spread := Number.greatest first others - Number.least first others
  isPartial := !(missing o).isEmpty
  votes := .ofFn fun d => (o.get d).score?.map (p.votes d)
  missing := missing o
  policyVersion := p.version

theorem verdict_votes (p : Policy α) (o : PerDetector (Outcome α)) (first : α) (others : List α) (d : Detector) :
    (p.verdict o first others).votes.get d = (o.get d).score?.map (p.votes d) := by
  cases d <;> rfl

/-- Scores between 0 and 1 are decided on if the detectors that have one carry weight. -/
theorem decide_eq {p : Policy α} {o : PerDetector (Outcome α)} {d : Detector} {first : α} {rest : List (Detector × α)}
    (hunit : ∀ d x, o.get d = .scored x → Number.isUnit x = true) (h : available o = (d, first) :: rest) :
    p.decide o =
      if p.totalWeight (available o) ≤ 0 then
        .error (.insufficientSignal "available detectors carry no vote weight")
      else .ok (p.verdict o first (rest.map (·.2))) := by
  have hfind : ∀ {refused : Detector × α → Bool}, (∀ x, Number.isUnit x.2 = true → refused x = false) →
      (available o).find? refused = none := by
    intro refused hrefused
    rw [List.find?_eq_none]
    intro x hx
    simp [hrefused x (hunit x.1 x.2 (mem_available.1 hx))]
  unfold decide
  dsimp only
  rw [hfind fun x hx => by simp [hx]]
  simp only [verdict, h]

theorem decide_of_nil {p : Policy α} {o : PerDetector (Outcome α)} (h : available o = []) :
    p.decide o = .error (.insufficientSignal "no detector produced a score") := by
  simp [decide, h]

/-- What is decided is the verdict on the scores that there are, and they carry weight. -/
theorem available_of_decide {p : Policy α} {o : PerDetector (Outcome α)} {v : Verdict α} (h : p.decide o = .ok v) :
    ∃ d first rest, available o = (d, first) :: rest ∧ ¬ p.totalWeight (available o) ≤ (0 : α) ∧
      v = p.verdict o first (rest.map (·.2)) := by
  unfold decide at h
  simp only at h
  split at h
  · cases h
  · split at h
    · cases h
    · rename_i d first rest hscored
      split at h
      · cases h
      · rename_i hweight
        cases h
        exact ⟨d, first, rest, hscored, hweight, rfl⟩

/-- What is decided on lies between 0 and 1. -/
theorem isUnit_of_decide {p : Policy α} {o : PerDetector (Outcome α)} {v : Verdict α} (h : p.decide o = .ok v)
    {d : Detector} {x : α} (hx : o.get d = .scored x) : Number.isUnit x = true := by
  unfold decide at h
  dsimp only at h
  split at h
  · cases h
  · rename_i hfind
    have hunit := List.find?_eq_none.1 hfind (d, x) (mem_available.2 hx)
    simpa using hunit

/-- A verdict is partial, and leaves out a vote, exactly where a detector has no score, and names these detectors. -/
theorem missing_of_decide {p : Policy α} {o : PerDetector (Outcome α)} {v : Verdict α} (h : p.decide o = .ok v) :
    (v.isPartial = true ↔ ∃ d, v.scores.get d = none) ∧ (∀ d, v.votes.get d = none ↔ v.scores.get d = none) ∧
      v.missing.map (·.detector) = Detector.all.filter fun d => (v.scores.get d).isNone := by
  obtain ⟨-, first, rest, -, -, rfl⟩ := available_of_decide h
  have hmissing := map_detector_missing o
  simp only [verdict, PerDetector.get_map]
  refine ⟨?_, fun d => ?_, hmissing⟩
  · have hempty : (missing o).isEmpty = ((missing o).map (·.detector)).isEmpty := by simp
    rw [hempty, hmissing]
    have hall : ∀ d, d ∈ Detector.all := fun d => by cases d <;> simp [Detector.all]
    simp [hall]
  · cases d <;> exact Option.map_eq_none_iff

/-- With scores between 0 and 1 a pair is left undecided only for want of weight. -/
theorem decide_eq_error {p : Policy α} {o : PerDetector (Outcome α)} {e : Error α}
    (hunit : ∀ d x, o.get d = .scored x → Number.isUnit x = true) (h : p.decide o = .error e) :
    ∃ reason, e = .insufficientSignal reason := by
  cases havailable : available o with
  | nil =>
    rw [decide_of_nil havailable] at h
    cases h
    exact ⟨_, rfl⟩
  | cons first rest =>
    rw [decide_eq hunit havailable] at h
    split at h
    · cases h
      exact ⟨_, rfl⟩
    · cases h

end

/-- With scores between 0 and 1 a pair is decided on if a detector that has a score carries weight. -/
theorem exists_decide {p : Policy ℚ} (hp : p.Valid) {o : PerDetector (Outcome ℚ)} {d : Detector} {x : ℚ}
    (hunit : ∀ d x, o.get d = .scored x → 0 ≤ x ∧ x ≤ 1) (hx : o.get d = .scored x) (hd : p.voteWeights.get d ≠ 0) :
    ∃ v, p.decide o = .ok v := by
  have hmem := mem_available.2 hx
  cases havailable : available o with
  | nil => rw [havailable] at hmem; cases hmem
  | cons first rest =>
    have hweight : ¬ p.totalWeight (available o) ≤ 0 := fun h =>
      hd ((totalWeight_nonpos_iff hp _).1 h (d, x) hmem)
    rw [decide_eq (fun d x h => (Number.isUnit_iff x).2 (hunit d x h)) havailable, if_neg hweight]
    exact ⟨_, rfl⟩

theorem confidence_of_all_one {scored : List (Detector × ℚ)} (hne : scored ≠ []) (hone : ∀ x ∈ scored, x.2 = 1) :
    p.confidence scored = 1 := by
  have hweighted : Number.sum (scored.map fun (d, x) => p.confidenceWeights.get d * x) =
      Number.sum (scored.map fun (d, _) => p.confidenceWeights.get d) :=
    congrArg Number.sum (List.map_congr_left fun (d, x) hx => by
      obtain rfl : x = 1 := hone (d, x) hx
      exact mul_one _)
  have hcount : Number.sum (scored.map (·.2)) = (scored.length : ℚ) := by
    rw [Number.sum_eq, List.map_congr_left hone]
    simp
  have hlength : (scored.length : ℚ) ≠ 0 := Nat.cast_ne_zero.2 fun h => hne (List.length_eq_zero_iff.1 h)
  have hclamp : Number.clamp (1 : ℚ) = 1 := Number.clamp_of_unit ⟨zero_le_one, le_refl 1⟩
  unfold confidence
  rw [hweighted, hcount]
  dsimp only
  split
  · rename_i hpos
    exact (congrArg Number.clamp (div_self (ne_of_gt hpos))).trans hclamp
  · exact (congrArg Number.clamp (div_self hlength)).trans hclamp

/-- Where all scores are 1 and there is weight, the verdict is unanimous. -/
theorem unanimous_verdict {p : Policy ℚ} (hp : p.Valid) {o : PerDetector (Outcome ℚ)} {runs : PerDetector Bool}
    (hscores : o.map (·.score?) = runs.map fun r => if r then some 1 else none) {d : Detector} {first : ℚ}
    {rest : List (Detector × ℚ)} (h : available o = (d, first) :: rest) (hweight : 0 < p.totalWeight (available o)) :
    (p.verdict o first (rest.map (·.2))).Unanimous runs := by
  have hone : ∀ x ∈ available o, x.2 = 1 := fun x hx => eq_one_of_scored hscores (mem_available.1 hx)
  have hvotes : ∀ x ∈ available o, p.votes x.1 x.2 = true := by
    intro x hx
    rw [hone x hx]
    exact decide_eq_true (hp.threshold x.1).2
  have hratio : (p.verdict o first (rest.map (·.2))).voteRatio = 1 := by
    show p.weightedVotes (available o) / p.totalWeight (available o) = 1
    rw [p.weightedVotes_of_forall_votes hvotes]
    exact div_self (ne_of_gt hweight)
  have hspread : (p.verdict o first (rest.map (·.2))).spread = 0 := by
    obtain ⟨hfirst, hrest⟩ := List.forall_mem_cons.1 (h ▸ hone)
    have hothers : ∀ y ∈ rest.map (·.2), y = first := by
      intro y hy
      obtain ⟨x, hx, rfl⟩ := List.mem_map.1 hy
      rw [hrest x hx, ← hfirst]
    show Number.greatest first (rest.map (·.2)) - Number.least first (rest.map (·.2)) = 0
    rw [Number.greatest_of_forall_eq hothers, Number.least_of_forall_eq hothers]
    exact sub_self first
  refine ⟨hscores, ?_, hratio, ?_, p.confidence_of_all_one (by simp [h]) hone, hspread, ?_⟩
  · have hvote : ∀ d, (o.get d).score?.map (p.votes d) = if runs.get d then some true else none := by
      intro d
      rw [score_of_scores hscores d]
      by_cases hd : runs.get d = true
      · have hmem : (d, 1) ∈ available o := by
          rw [mem_available, ← score?_eq_some_iff, score_of_scores hscores d, if_pos hd]
        rw [if_pos hd, if_pos hd, Option.map_some, hvotes _ hmem]
      · rw [if_neg hd, if_neg hd, Option.map_none]
    simp only [verdict, PerDetector.ofFn, hvote]
    rfl
  · show Decidable.decide (p.decisionThreshold ≤ (p.verdict o first (rest.map (·.2))).voteRatio) = true
    rw [hratio]
    exact decide_eq_true hp.decisionThreshold.2
  · show p.cutoffs.classify (p.verdict o first (rest.map (·.2))).spread = .strong
    rw [hspread, Cutoffs.classify, if_pos hp.strongMax]

/-- Where all scores are 1, the verdict is unanimous, unless the detectors that have a score carry no weight. -/
theorem decide_of_all_one {p : Policy ℚ} (hp : p.Valid) {o : PerDetector (Outcome ℚ)} {runs : PerDetector Bool}
    (hscores : o.map (·.score?) = runs.map fun r => if r then some 1 else none) :
    ((∀ d, runs.get d = true → p.voteWeights.get d = 0) ∧
        ∃ reason, p.decide o = .error (.insufficientSignal reason)) ∨
      (¬ ∀ d, runs.get d = true → p.voteWeights.get d = 0) ∧
        ∃ v, p.decide o = .ok v ∧ v.Unanimous runs := by
  have hweights : p.totalWeight (available o) ≤ 0 ↔ ∀ d, runs.get d = true → p.voteWeights.get d = 0 := by
    rw [totalWeight_nonpos_iff hp]
    constructor
    · intro h d hd
      have hscore := score_of_scores hscores d
      rw [if_pos hd] at hscore
      exact h (d, 1) (mem_available.2 (score?_eq_some_iff.1 hscore))
    · intro h x hx
      have hscore := score_of_scores hscores x.1
      rw [mem_available.1 hx, Outcome.score?] at hscore
      refine h x.1 ?_
      by_contra hd
      rw [if_neg hd] at hscore
      cases hscore
  have hunit : ∀ d x, o.get d = .scored x → Number.isUnit x = true := by
    intro d x hx
    rw [eq_one_of_scored hscores hx]
    exact (Number.isUnit_iff 1).2 ⟨zero_le_one, le_refl 1⟩
  cases havailable : available o with
  | nil =>
    refine .inl ⟨hweights.1 ?_, _, decide_of_nil havailable⟩
    rw [havailable]
    exact le_refl 0
  | cons first rest =>
    obtain ⟨d, first⟩ := first
    have hdecide := decide_eq (p := p) hunit havailable
    by_cases hweight : p.totalWeight (available o) ≤ 0
    · rw [if_pos hweight] at hdecide
      exact .inl ⟨hweights.1 hweight, _, hdecide⟩
    · rw [if_neg hweight] at hdecide
      exact .inr ⟨fun h => hweight (hweights.2 h), _, hdecide,
        unanimous_verdict hp hscores havailable (not_le.1 hweight)⟩

end Policy
end Likeness.Decision
