import Likeness.Comparison.Pair
import Likeness.Proofs.Decision.Verdict
import Likeness.Proofs.Overlap.Metric
import Likeness.Proofs.Settings.Check
import Likeness.Proofs.Source.Artifacts

/-!
# What the detectors find

Sources with tokens enough have fingerprints under settings that are accepted, so the only reason not to
compare them is that there are too few tokens (`hashOutcome_cases`). Scores lie between 0 and 1 where the
fractions of counts do (`isUnit_of_scored`); over the rationals they always do, and are 1 for sources with the
same artifacts (`score_of_same_artifacts`). What is found is decided on if tokens carry weight (`exists_compare`).
-/

namespace Likeness

open Decision (Detector Outcome PerDetector)

variable {α : Type} [Number α]

/-- A source whose artifacts are made under some settings. -/
def Prepared.MadeUnder (p : Prepared) (s : Settings α) : Prop :=
  ∃ text, Artifacts.derive text s.deriveOptions = .ok p.artifacts

/-- How much there is to count in a source: its tokens, the symbols of its tree, and its fingerprints. -/
def Prepared.extent (p : Prepared) : Nat :=
  p.tokenCount + p.artifacts.symbols.length + (p.artifacts.prints.toOption.map (·.size)).getD 0

theorem Prepared.length_values (p : Prepared) : p.values.length = p.tokenCount := List.length_map _

namespace Settings

variable {s : Settings α} {l r : Prepared}

/-! ### Fingerprints -/

theorem k_le_minHashTokens {α : Type} (s : Settings α) : s.k ≤ s.minHashTokens := Nat.le_max_right _ _

theorem fingerprintOptions_check (hs : s.check = .ok ()) : s.fingerprintOptions.check = .ok () := by
  obtain ⟨-, hk, hw, -⟩ := s.check_eq_ok_iff.1 hs
  exact s.fingerprintOptions_check_eq_ok hk hw

/-- Fingerprints are compared exactly if both sources have tokens enough for it. -/
theorem hashOutcome_cases (hs : s.check = .ok ()) (hl : l.MadeUnder s) (hr : r.MadeUnder s) :
    ((l.tokenCount < s.minHashTokens ∨ r.tokenCount < s.minHashTokens) ∧
        s.hashOutcome l r = .unavailable insufficientTokensReason) ∨
      (s.minHashTokens ≤ l.tokenCount ∧ s.minHashTokens ≤ r.tokenCount) ∧
        ∃ A B, l.artifacts.prints = .ok A ∧ r.artifacts.prints = .ok B ∧ A.Increasing ∧ B.Increasing ∧
          s.hashOutcome l r = .scored (A.jaccard B).value := by
  by_cases hfew : l.tokenCount < s.minHashTokens ∨ r.tokenCount < s.minHashTokens
  · exact .inl ⟨hfew, by rw [hashOutcome, if_pos (by simpa using hfew)]⟩
  · have hboth : s.minHashTokens ≤ l.tokenCount ∧ s.minHashTokens ≤ r.tokenCount := by omega
    have hmin := s.k_le_minHashTokens
    obtain ⟨text, htext⟩ := hl
    obtain ⟨text', htext'⟩ := hr
    obtain ⟨A, hA, hAinc, -⟩ := Artifacts.exists_prints htext (fingerprintOptions_check hs) (hmin.trans hboth.1)
    obtain ⟨B, hB, hBinc, -⟩ := Artifacts.exists_prints htext' (fingerprintOptions_check hs) (hmin.trans hboth.2)
    refine .inr ⟨hboth, A, B, hA, hB, hAinc, hBinc, ?_⟩
    rw [hashOutcome, if_neg (by simpa using hboth), hA, hB]

/-! ### The report -/

/-- The report of a pair with a verdict. -/
def report (s : Settings α) (l r : Prepared) (verdict : Decision.Verdict α) : PairVerdict α where
  left := l.filename
  right := r.filename
  identicalContent := l.digest == r.digest
  sharedFingerprints := verdict.scores.hash.bind fun _ => sharedPrints? l r
  tokenMetric := s.overlapOptions.metricFor l.tokenCount r.tokenCount
  astMetric := verdict.scores.ast.map fun _ =>
    s.overlapOptions.metricFor l.artifacts.symbols.length r.artifacts.symbols.length
  verdict := verdict

theorem compare_eq_ok {v : Decision.Verdict α} (h : s.policy.decide (s.outcomes l r) = .ok v) :
    s.compare l r = .ok (s.report l r v) := by
  unfold compare
  rw [h]
  rfl

theorem compare_eq_error {e : Decision.Error α} (h : s.policy.decide (s.outcomes l r) = .error e) :
    s.compare l r = .error (.decision e) := by
  unfold compare
  rw [h]
  rfl

/-- What is reported is the verdict on what the detectors find, with the report that goes with it. -/
theorem report_of_compare {v : PairVerdict α} (h : s.compare l r = .ok v) :
    s.policy.decide (s.outcomes l r) = .ok v.verdict ∧ v = s.report l r v.verdict := by
  cases hdecide : s.policy.decide (s.outcomes l r) with
  | error e =>
    rw [compare_eq_error hdecide] at h
    cases h
  | ok verdict =>
    rw [compare_eq_ok hdecide] at h
    cases h
    exact ⟨rfl, rfl⟩

theorem scores_of_compare {v : PairVerdict α} (h : s.compare l r = .ok v) :
    v.verdict.scores = (s.outcomes l r).map (·.score?) := Decision.scores_of_decide (report_of_compare h).1

theorem sharedFingerprints_of_compare {v : PairVerdict α} (h : s.compare l r = .ok v) :
    v.sharedFingerprints = v.verdict.scores.hash.bind fun _ => sharedPrints? l r :=
  congrArg (·.sharedFingerprints) (report_of_compare h).2

/-- What is reported of the fingerprints are their ratio and their number in common, if both sources have tokens enough
for it. -/
theorem hash_of_compare (hs : s.check = .ok ()) (hl : l.MadeUnder s) (hr : r.MadeUnder s) {v : PairVerdict α}
    (hv : s.compare l r = .ok v) (hmin : s.minHashTokens ≤ l.tokenCount ∧ s.minHashTokens ≤ r.tokenCount) :
    ∃ A B, l.artifacts.prints = .ok A ∧ r.artifacts.prints = .ok B ∧ A.Increasing ∧ B.Increasing ∧
      v.verdict.scores.hash = some (A.jaccard B).value ∧ v.sharedFingerprints = some (A.sharedCount B) := by
  rcases hashOutcome_cases hs hl hr with ⟨hfew, -⟩ | ⟨-, A, B, hA, hB, hAinc, hBinc, houtcome⟩
  · omega
  · have hscore : v.verdict.scores.hash = some (A.jaccard B).value := by
      rw [scores_of_compare hv]
      show (s.hashOutcome l r).score? = _
      rw [houtcome]
      rfl
    refine ⟨A, B, hA, hB, hAinc, hBinc, hscore, ?_⟩
    rw [sharedFingerprints_of_compare hv, hscore, sharedPrints?, hA, hB]
    rfl

/-- With fewer tokens nothing is reported of the fingerprints. -/
theorem hash_of_compare_few (hs : s.check = .ok ()) (hl : l.MadeUnder s) (hr : r.MadeUnder s) {v : PairVerdict α}
    (hv : s.compare l r = .ok v) (hfew : l.tokenCount < s.minHashTokens ∨ r.tokenCount < s.minHashTokens) :
    v.verdict.scores.hash = none ∧ v.sharedFingerprints = none := by
  rcases hashOutcome_cases hs hl hr with ⟨-, houtcome⟩ | ⟨hmin, -⟩
  · have hscore : v.verdict.scores.hash = none := by
      rw [scores_of_compare hv]
      show (s.hashOutcome l r).score? = none
      rw [houtcome]
      rfl
    exact ⟨hscore, by rw [sharedFingerprints_of_compare hv, hscore]; rfl⟩
  · omega

/-! ### Scores -/

/-- Every score lies between 0 and 1 where the fractions of what there is to count do. -/
theorem isUnit_of_scored (hs : s.check = .ok ()) (hl : l.MadeUnder s) (hr : r.MadeUnder s)
    (hα : Number.FractionsUnit α (l.extent + r.extent + 1)) {d : Detector} {x : α}
    (hx : (s.outcomes l r).get d = .scored x) : Number.isUnit x = true := by
  cases d with
  | token =>
    obtain rfl := Outcome.scored.inj hx
    refine Overlap.Options.isUnit_value_compare _ hα ?_
    simp only [Prepared.length_values, Prepared.extent]
    omega
  | ast =>
    have hx : s.astOutcome l r = .scored x := hx
    unfold astOutcome at hx
    split at hx
    · obtain rfl := Outcome.scored.inj hx
      refine Overlap.Options.isUnit_value_compare _ hα ?_
      simp only [Prepared.extent]
      omega
    · cases hx
  | hash =>
    have hx : s.hashOutcome l r = .scored x := hx
    rcases hashOutcome_cases hs hl hr with ⟨-, h⟩ | ⟨-, A, B, hl, hr, hA, hB, h⟩
    · rw [h] at hx
      cases hx
    · rw [h] at hx
      obtain rfl := Outcome.scored.inj hx
      refine Overlap.Ratio.isUnit_value hα (Fingerprint.PrintSet.jaccard_part_le_whole hA hB) ?_
      have hwhole : (A.jaccard B).whole ≤ A.size + B.size := Nat.sub_le _ _
      simp only [Prepared.extent, hl, hr, Except.toOption, Option.map_some, Option.getD_some]
      omega

section Rational

variable {s : Settings ℚ}

theorem score_unit (hs : s.check = .ok ()) (hl : l.MadeUnder s) (hr : r.MadeUnder s) {d : Detector} {x : ℚ}
    (hx : (s.outcomes l r).get d = .scored x) : 0 ≤ x ∧ x ≤ 1 :=
  (Number.isUnit_iff x).1 (isUnit_of_scored hs hl hr (Number.fractionsUnit_rat _) hx)

/-- The detectors that can run on two sources with the artifacts `a`. -/
def runsOn (s : Settings ℚ) (a : Artifacts) : PerDetector Bool := ⟨true, a.hasTree, s.minHashTokens ≤ a.tokenCount⟩

/-- On two sources with the same artifacts each detector that can run finds the score 1. -/
theorem score_of_same_artifacts (hs : s.check = .ok ()) {text : String} {a : Artifacts}
    (ha : Artifacts.derive text s.deriveOptions = .ok a) (htokens : a.stream.tokens ≠ [])
    (hsymbols : a.hasTree = true → a.symbols ≠ []) (hl : l.artifacts = a) (hr : r.artifacts = a) :
    (s.outcomes l r).map (·.score?) = (s.runsOn a).map fun runs => if runs then some 1 else none := by
  have htoken : s.tokenOutcome l r = .scored 1 := by
    have hvalues : a.stream.values ≠ [] := by simpa [Lex.Stream.values] using htokens
    rw [tokenOutcome, Prepared.values, Prepared.values, hl, hr, Overlap.Options.value_compare_self _ hvalues]
  have hast : (s.astOutcome l r).score? = if a.hasTree then some 1 else none := by
    rw [astOutcome, hl, hr]
    cases htree : a.hasTree with
    | false => rfl
    | true => simp [Overlap.Options.value_compare_self _ (hsymbols htree), Outcome.score?]
  have hhash : (s.hashOutcome l r).score? = if s.minHashTokens ≤ a.tokenCount then some 1 else none := by
    rcases hashOutcome_cases hs ⟨text, hl ▸ ha⟩ ⟨text, hr ▸ ha⟩ with ⟨hfew, h⟩ | ⟨⟨hmin, -⟩, A, B, hA, hB, hinc, -, h⟩
    · rw [Prepared.tokenCount, Prepared.tokenCount, hl, hr, or_self] at hfew
      rw [h, if_neg (by omega)]
      rfl
    · rw [Prepared.tokenCount, hl] at hmin
      rw [hl] at hA
      rw [hr, hA] at hB
      obtain rfl := Except.ok.inj hB
      obtain ⟨P, hP, -, hpos⟩ := Artifacts.exists_prints_size_pos ha (fingerprintOptions_check hs)
        (s.k_le_minHashTokens.trans hmin)
      obtain rfl := Except.ok.inj (hA.symm.trans hP)
      have hone : ((A.jaccard A).value : ℚ) = 1 := by
        rw [Fingerprint.PrintSet.jaccard_self hinc]
        exact (Overlap.Ratio.value_eq_one_iff hpos).2 rfl
      rw [h, hone, if_pos hmin]
      rfl
  rw [PerDetector.map, outcomes, htoken, hast, hhash]
  simp only [PerDetector.map, runsOn, decide_eq_true_eq]
  rfl

/-! ### Success -/

theorem policy_valid (hs : s.check = .ok ()) : s.policy.Valid :=
  (Decision.Policy.fault?_eq_none_iff _).1 (s.check_eq_ok_iff.1 hs).1

/-- Sources are compared with success if the detector of tokens, which always can run, carries weight. -/
theorem exists_compare (hs : s.check = .ok ()) (hl : l.MadeUnder s) (hr : r.MadeUnder s)
    (hweight : s.voteWeights.token ≠ 0) : ∃ v, s.compare l r = .ok v := by
  have htoken : (s.outcomes l r).get .token = .scored (s.overlapOptions.compare l.values r.values).value := rfl
  obtain ⟨verdict, hverdict⟩ := Decision.Policy.exists_decide (policy_valid hs)
    (fun _ _ hx => score_unit hs hl hr hx) htoken hweight
  exact ⟨_, compare_eq_ok hverdict⟩

end Rational

end Settings
end Likeness
