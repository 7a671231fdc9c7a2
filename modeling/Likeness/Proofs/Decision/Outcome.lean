import Likeness.Proofs.Decimal.Binary64
import Likeness.Proofs.Decision.Sums
import Likeness.Proofs.Settings.Check

/-!
# What a decision comes to

A pair is refused for the first score that lies outside 0 to 1 (`FirstOutside`), else for want of weight, and else its
verdict tells the vote that was taken (`Verdict.Tells`). Which scores are refused is said for any type of numbers, so
that it also covers numbers that are not comparable with any other.
-/

namespace Likeness.Decision

/-! ### Scores that are refused -/

section

variable {α : Type} [Number α]

/-- A detector has a score outside 0 to 1, and no detector before it has. -/
structure FirstOutside (o : PerDetector (Outcome α)) (d : Detector) (x : α) : Prop where
  scored : o.get d = .scored x
  outside : ¬ ((0 : α) ≤ x ∧ x ≤ (1 : α))
  earlier : ∃ before after, Detector.all = before ++ d :: after ∧
    ∀ e ∈ before, ∀ y, o.get e = .scored y → (0 : α) ≤ y ∧ y ≤ (1 : α)

variable {p : Policy α} {o : PerDetector (Outcome α)}

theorem not_isUnit_eq_true_iff (x : α) : (!Number.isUnit x) = true ↔ ¬ ((0 : α) ≤ x ∧ x ≤ (1 : α)) := by
  rw [not_and_or]
  simp [Number.isUnit]

theorem any_not_isUnit_eq_false_iff {outcome : Outcome α} :
    (!outcome.score?.any fun x => !Number.isUnit x) = true ↔ ∀ y, outcome = .scored y → (0 : α) ≤ y ∧ y ≤ (1 : α) := by
  cases outcome with
  | scored x => simp [Outcome.score?, Number.isUnit]
  | unavailable r => simp [Outcome.score?]

theorem find?_available_eq_some_iff {d : Detector} {x : α} :
    ((available o).find? fun y => !Number.isUnit y.2) = some (d, x) ↔ FirstOutside o d x := by
  have hany : ∀ e, (((o.get e).score?.map fun s => (e, s)).any fun y => !Number.isUnit y.2) =
      (o.get e).score?.any fun s => !Number.isUnit s := by
    intro e
    cases (o.get e).score? <;> rfl
  rw [available, List.find?_filterMap, Option.bind_eq_some_iff]
  simp only [hany, List.find?_eq_some_iff_append, any_not_isUnit_eq_false_iff]
  constructor
  · rintro ⟨e, ⟨hout, hearlier⟩, hpair⟩
    obtain ⟨s, hs, hes⟩ := Option.map_eq_some_iff.1 hpair
    cases hes
    rw [hs, Option.any_some, not_isUnit_eq_true_iff] at hout
    exact ⟨score?_eq_some_iff.1 hs, hout, hearlier⟩
  · intro h
    refine ⟨d, ⟨?_, h.earlier⟩, ?_⟩
    · rw [h.scored]
      exact (not_isUnit_eq_true_iff x).2 h.outside
    · rw [h.scored]
      rfl

namespace Policy

/-- A score outside 0 to 1 is refused, and of several the first. -/
theorem decide_eq_invalidScore_iff {d : Detector} {x : α} :
    p.decide o = .error (.invalidScore d x) ↔ FirstOutside o d x := by
  rw [← find?_available_eq_some_iff]
  unfold decide
  dsimp only
  constructor
  · intro h
    split at h
    · rename_i hfind
      cases h
      exact hfind
    · split at h
      · cases h
      · split at h <;> cases h
  · intro hfind
    rw [hfind]

theorem exists_invalidScore_iff :
    (∃ d x, p.decide o = .error (.invalidScore d x)) ↔
      ∃ d x, o.get d = .scored x ∧ ¬ ((0 : α) ≤ x ∧ x ≤ (1 : α)) := by
  constructor
  · rintro ⟨d, x, h⟩
    have hfirst := decide_eq_invalidScore_iff.1 h
    exact ⟨d, x, hfirst.scored, hfirst.outside⟩
  · rintro ⟨d, x, hx, hout⟩
    -- the score is one of those looked through, so that the search does not end with none
    cases hfind : (available o).find? fun y => !Number.isUnit y.2 with
    | none =>
      have hno := List.find?_eq_none.1 hfind (d, x) (mem_available.2 hx)
      exact absurd ((not_isUnit_eq_true_iff x).2 hout) hno
    | some y => exact ⟨y.1, y.2, decide_eq_invalidScore_iff.2 (find?_available_eq_some_iff.1 hfind)⟩

end Policy
end

/-! ### Verdicts -/

/-- A verdict tells the vote that was taken on what the detectors found. -/
structure Verdict.Tells (v : Verdict ℚ) (p : Policy ℚ) (o : PerDetector (Outcome ℚ)) : Prop where
  score (d : Detector) (x : ℚ) : v.scores.get d = some x ↔ o.get d = .scored x
  vote_scored (d : Detector) (x : ℚ) : o.get d = .scored x → v.votes.get d = some (decide (p.thresholds.get d ≤ x))
  vote_unavailable (d : Detector) (r : String) : o.get d = .unavailable r → v.votes.get d = none
  weightedVotes :
    v.weightedVotes = ((Detector.all.filter fun d => v.votes.get d == some true).map p.voteWeights.get).sum
  totalWeight : v.totalWeight = ((Detector.all.filter fun d => (v.votes.get d).isSome).map p.voteWeights.get).sum
  voteRatio : v.voteRatio * v.totalWeight = v.weightedVotes
  isPlagiarized : v.isPlagiarized = true ↔ p.decisionThreshold * v.totalWeight ≤ v.weightedVotes
  /-- The spread is the difference of two scores between which all others lie. -/
  spread : ∃ lo hi, (∃ d, o.get d = .scored lo) ∧ (∃ d, o.get d = .scored hi) ∧
    (∀ d x, o.get d = .scored x → lo ≤ x ∧ x ≤ hi) ∧ v.spread = hi - lo
  strong : v.agreement = .strong ↔ v.spread ≤ p.cutoffs.strongMax
  moderate : v.agreement = .moderate ↔ p.cutoffs.strongMax < v.spread ∧ v.spread ≤ p.cutoffs.moderateMax
  poor : v.agreement = .poor ↔ p.cutoffs.moderateMax < v.spread
  isPartial : v.isPartial = true ↔ ∃ d r, o.get d = .unavailable r
  missing : v.missing.map (·.detector) = Detector.all.filter fun d => (o.get d).score?.isNone
  reason : ∀ m ∈ v.missing, o.get m.detector = .unavailable m.reason
  policyVersion : v.policyVersion = p.version

theorem score?_eq_none_iff {α : Type} {outcome : Outcome α} : outcome.score? = none ↔ ∃ r, outcome = .unavailable r := by
  cases outcome <;> simp [Outcome.score?]

theorem mem_map_snd_available {α : Type} {o : PerDetector (Outcome α)} {x : α} :
    x ∈ (available o).map (·.2) ↔ ∃ d, o.get d = .scored x := by
  rw [List.mem_map]
  constructor
  · rintro ⟨y, hy, rfl⟩
    exact ⟨y.1, mem_available.1 hy⟩
  · rintro ⟨d, hd⟩
    exact ⟨(d, x), mem_available.2 hd, rfl⟩

theorem mem_missing {α : Type} {o : PerDetector (Outcome α)} {m : Missing} (h : m ∈ missing o) :
    o.get m.detector = .unavailable m.reason := by
  obtain ⟨d, -, hd⟩ := List.mem_filterMap.1 h
  cases hd' : o.get d with
  | scored x => simp [hd'] at hd
  | unavailable r =>
    rw [hd'] at hd
    cases hd
    exact hd'

theorem Cutoffs.classify_iff {c : Cutoffs ℚ} (hc : c.strongMax ≤ c.moderateMax) (spread : ℚ) :
    (c.classify spread = .strong ↔ spread ≤ c.strongMax) ∧
      (c.classify spread = .moderate ↔ c.strongMax < spread ∧ spread ≤ c.moderateMax) ∧
      (c.classify spread = .poor ↔ c.moderateMax < spread) := by
  unfold classify
  by_cases hstrong : spread ≤ c.strongMax
  · have hmoderate : spread ≤ c.moderateMax := hstrong.trans hc
    simp [hstrong, hmoderate]
  · by_cases hmoderate : spread ≤ c.moderateMax
    · simp [hstrong, hmoderate, not_le.1 hstrong]
    · simp [hstrong, hmoderate, not_le.1 hmoderate]

namespace Policy

variable {p : Policy ℚ} {o : PerDetector (Outcome ℚ)}

theorem totalWeight_filter (p : Policy ℚ) (o : PerDetector (Outcome ℚ)) :
    p.totalWeight (available o) =
      ((Detector.all.filter fun d => (o.get d).score?.isSome).map p.voteWeights.get).sum := by
  have hall : ∀ d, (o.get d).score?.isSome = (o.get d).score?.any fun _ => true := by
    intro d
    cases (o.get d).score? <;> rfl
  simp only [hall]
  rw [totalWeight_available, ← overScored_ite o (fun _ _ => true)]
  rfl

theorem weightedVotes_filter (p : Policy ℚ) (o : PerDetector (Outcome ℚ)) :
    p.weightedVotes (available o) =
      ((Detector.all.filter fun d => (o.get d).score?.map (p.votes d) == some true).map p.voteWeights.get).sum := by
  have hvote : ∀ d, ((o.get d).score?.map (p.votes d) == some true) = (o.get d).score?.any (p.votes d) := by
    intro d
    cases (o.get d).score? <;> simp
  simp only [hvote]
  rw [weightedVotes_available, overScored_ite]

/-- With no weight to be negative, there is none only where the sum is 0. -/
theorem totalWeight_nonpos_iff_sum (hp : p.Valid) :
    p.totalWeight (available o) ≤ 0 ↔
      ((Detector.all.filter fun d => (o.get d).score?.isSome).map p.voteWeights.get).sum = 0 := by
  have hnonneg : 0 ≤ p.totalWeight (available o) := by
    rw [totalWeight_available]
    exact overScored_nonneg fun d _ _ => hp.voteWeight d
  rw [← totalWeight_filter]
  exact ⟨fun h => le_antisymm h hnonneg, fun h => h.le⟩

/-- What is decided tells the vote. -/
theorem tells_of_decide (hp : p.Valid) {v : Verdict ℚ} (h : p.decide o = .ok v) : v.Tells p o := by
  obtain ⟨hpartial, -, -⟩ := missing_of_decide h
  obtain ⟨d, first, rest, havailable, hweight, hv⟩ := available_of_decide h
  have hweight : 0 < v.totalWeight := by
    rw [hv]
    exact not_le.1 hweight
  have hscores : ∀ d, v.scores.get d = (o.get d).score? := by
    intro d
    rw [hv]
    exact PerDetector.get_map _ o d
  have hvotes : ∀ d, v.votes.get d = (o.get d).score?.map (p.votes d) := by
    intro d
    rw [hv]
    exact p.verdict_votes o first _ d
  have hratio : v.voteRatio = v.weightedVotes / v.totalWeight := by rw [hv]; rfl
  have hscored : ∀ x, x ∈ first :: rest.map (·.2) ↔ ∃ d, o.get d = .scored x := by
    intro x
    rw [← mem_map_snd_available, havailable, List.map_cons]
  have hclass : v.agreement = p.cutoffs.classify v.spread := by rw [hv]; rfl
  obtain ⟨hstrong, hmoderate, hpoor⟩ := Cutoffs.classify_iff hp.strongMax_le v.spread
  rw [← hclass] at hstrong hmoderate hpoor
  refine ⟨?score, ?vote_scored, ?vote_unavailable, ?weightedVotes, ?totalWeight, ?voteRatio, ?isPlagiarized, ?spread,
    hstrong, hmoderate, hpoor, ?isPartial, ?missing, ?reason, ?policyVersion⟩
  case score =>
    intro d x
    rw [hscores, score?_eq_some_iff]
  case vote_scored =>
    intro d x hx
    rw [hvotes, hx]
    rfl
  case vote_unavailable =>
    intro d r hr
    rw [hvotes, hr]
    rfl
  case weightedVotes =>
    simp only [hvotes]
    rw [← weightedVotes_filter, hv]
    rfl
  case totalWeight =>
    simp only [hvotes, Option.isSome_map]
    rw [← totalWeight_filter, hv]
    rfl
  case voteRatio =>
    rw [hratio]
    exact div_mul_cancel₀ _ (ne_of_gt hweight)
  case isPlagiarized =>
    have hflag : v.isPlagiarized = true ↔ p.decisionThreshold ≤ v.voteRatio := by
      rw [hv]
      exact decide_eq_true_iff
    rw [hflag, hratio]
    exact le_div_iff₀ hweight
  case spread =>
    refine ⟨Number.least first (rest.map (·.2)), Number.greatest first (rest.map (·.2)), ?_, ?_, ?_, by rw [hv]; rfl⟩
    · exact (hscored _).1 (Number.least_mem _ _)
    · exact (hscored _).1 (Number.greatest_mem _ _)
    · intro d x hx
      have hmem := (hscored x).2 ⟨d, hx⟩
      exact ⟨Number.least_le x hmem, Number.le_greatest x hmem⟩
  case isPartial =>
    rw [hpartial]
    refine exists_congr fun d => ?_
    rw [hscores, score?_eq_none_iff]
  case missing =>
    rw [hv]
    exact map_detector_missing o
  case reason =>
    rw [hv]
    exact fun m => mem_missing
  case policyVersion =>
    rw [hv]
    rfl

/-! ### All outcomes -/

/-- No detector has a score, or those that have one carry no weight. -/
def NoSignal (p : Policy ℚ) (o : PerDetector (Outcome ℚ)) : Prop :=
  (∀ d, ∃ r, o.get d = .unavailable r) ∨
    ((Detector.all.filter fun d => (o.get d).score?.isSome).map p.voteWeights.get).sum = 0

/-- With scores between 0 and 1 a pair is left undecided where there is no signal, and else decided. -/
theorem decide_cases (hp : p.Valid) (hunit : ∀ d x, o.get d = .scored x → 0 ≤ x ∧ x ≤ 1) :
    (p.NoSignal o ∧ ∃ reason, p.decide o = .error (.insufficientSignal reason)) ∨
      (¬ p.NoSignal o ∧ ∃ v, p.decide o = .ok v) := by
  have hunit : ∀ d x, o.get d = .scored x → Number.isUnit x = true := fun d x hx => (Number.isUnit_iff x).2 (hunit d x hx)
  cases havailable : available o with
  | nil =>
    refine .inl ⟨.inl fun d => ?_, _, decide_of_nil havailable⟩
    cases hd : o.get d with
    | scored x =>
      have hmem := mem_available.2 hd
      rw [havailable] at hmem
      cases hmem
    | unavailable r => exact ⟨r, rfl⟩
  | cons first rest =>
    obtain ⟨d, first⟩ := first
    have hfirst : o.get d = .scored first := mem_available.1 (havailable ▸ List.mem_cons_self)
    have hdecide := decide_eq (p := p) hunit havailable
    by_cases hweight : p.totalWeight (available o) ≤ 0
    · rw [if_pos hweight] at hdecide
      exact .inl ⟨.inr ((totalWeight_nonpos_iff_sum hp).1 hweight), _, hdecide⟩
    · rw [if_neg hweight] at hdecide
      refine .inr ⟨?_, _, hdecide⟩
      rintro (hnone | hsum)
      · obtain ⟨r, hr⟩ := hnone d
        rw [hfirst] at hr
        cases hr
      · exact hweight ((totalWeight_nonpos_iff_sum hp).2 hsum)

/-- A pair is refused exactly for the first score that is outside 0 to 1, which a score is that is not a number; else it is
left undecided exactly where there is no signal; else it is decided, and the verdict tells the vote. -/
theorem decide_describes (p : Policy ℚ) (hp : p.check = .ok ()) (o : PerDetector (Outcome ℚ)) :
    (∀ {α : Type} [Number α] (q : Policy α) (found : PerDetector (Outcome α)),
        (∀ d x, q.decide found = .error (.invalidScore d x) ↔ FirstOutside found d x) ∧
          ((∃ d x, q.decide found = .error (.invalidScore d x)) ↔
            ∃ d x, found.get d = .scored x ∧ ¬ ((0 : α) ≤ x ∧ x ≤ (1 : α)))) ∧
      (∀ x : Float, x.isNaN = true → ¬ ((0 : Float) ≤ x ∧ x ≤ (1 : Float))) ∧
      ((∀ d x, o.get d = .scored x → 0 ≤ x ∧ x ≤ 1) →
        ((∃ reason, p.decide o = .error (.insufficientSignal reason)) ↔ p.NoSignal o) ∧
        ((∃ v, p.decide o = .ok v) ↔ ¬ p.NoSignal o)) ∧
      ∀ v, p.decide o = .ok v → v.Tells p o := by
  have hp : p.Valid := (fault?_eq_none_iff p).1 (p.check_eq_ok_iff.1 hp)
  refine ⟨fun q found => ⟨fun d x => decide_eq_invalidScore_iff, exists_invalidScore_iff⟩,
    fun x hx hunit => Binary64.not_nonneg_of_isNaN hx hunit.1, fun hunit => ?_, fun v hv => tells_of_decide hp hv⟩
  rcases decide_cases hp hunit with ⟨hno, reason, hdecide⟩ | ⟨hsignal, v, hdecide⟩
  · rw [hdecide]
    exact ⟨iff_of_true ⟨reason, rfl⟩ hno, iff_of_false (by rintro ⟨v, ⟨⟩⟩) (not_not.2 hno)⟩
  · rw [hdecide]
    exact ⟨iff_of_false (by rintro ⟨reason, ⟨⟩⟩) hsignal, iff_of_true ⟨v, rfl⟩ hsignal⟩

/-- What two detectors find of a pair that one of them cannot read. -/
def unread : PerDetector (Outcome ℚ) := ⟨.scored (3 / 4), .unavailable "parse_error", .scored (3 / 10)⟩

theorem decide_describes_unread :
    (Policy.default : Policy ℚ).check = .ok () ∧ (∀ d x, unread.get d = .scored x → 0 ≤ x ∧ x ≤ 1) ∧
      ∃ v, Policy.default.decide unread = .ok v ∧ v.Tells Policy.default unread := by
  have hcheck : (Policy.default : Policy ℚ).check = .ok () := (check_eq_ok_iff _).2 (by decide +kernel)
  have hunit : ∀ d x, unread.get d = .scored x → 0 ≤ x ∧ x ≤ 1 := by
    rintro (_ | _ | _) x ⟨⟩ <;> decide +kernel
  have hsignal : ¬ (Policy.default : Policy ℚ).NoSignal unread := by
    rintro (hnone | hsum)
    · obtain ⟨r, hr⟩ := hnone .token
      cases hr
    · exact absurd hsum (by decide +kernel)
  obtain ⟨-, -, hcases, htells⟩ := decide_describes Policy.default hcheck unread
  obtain ⟨v, hv⟩ := (hcases hunit).2.2 hsignal
  exact ⟨hcheck, hunit, v, hv, htells v hv⟩

end Policy
end Likeness.Decision
