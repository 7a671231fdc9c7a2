import Likeness.Proofs.Comparison.Symmetry

/-!
# What is reported of a pair

A report names the metrics that a pair was compared by, counts the fingerprints that its sources share, and says which
detectors are missing. All this is worked out apart from the scores. It agrees with them, and with the artifacts of the
sources (`PairVerdict.Describes`, `report_describes_sources`).
-/

namespace Likeness

open Decision (Detector)
open Overlap (overlap)

variable {α : Type} [Number α]

/-- What is reported of a pair is what the artifacts of its sources tell. -/
structure PairVerdict.Describes (v : PairVerdict α) (s : Settings α) (l r : Prepared) : Prop where
  token : v.verdict.scores.token = some (overlap l.values r.values v.tokenMetric).value
  tokenMetric : v.tokenMetric = .lcs ↔ s.metric = .lcs ∧ max l.values.length r.values.length ≤ s.maxLength
  /-- Trees are compared if there are two. -/
  ast (h : l.artifacts.hasTree = true ∧ r.artifacts.hasTree = true) : ∃ m,
    v.astMetric = some m ∧ v.verdict.scores.ast = some (overlap l.artifacts.symbols r.artifacts.symbols m).value ∧
      (m = .lcs ↔
        s.metric = .lcs ∧ max l.artifacts.symbols.length r.artifacts.symbols.length ≤ s.maxLength)
  noAst (h : ¬ (l.artifacts.hasTree = true ∧ r.artifacts.hasTree = true)) :
    v.astMetric = none ∧ v.verdict.scores.ast = none
  /-- Fingerprints are compared if both sources have tokens enough. -/
  hash (h : max s.minTokens s.k ≤ l.tokenCount ∧ max s.minTokens s.k ≤ r.tokenCount) : ∃ A B shared,
    l.artifacts.prints = .ok A ∧ r.artifacts.prints = .ok B ∧ v.sharedFingerprints = some shared ∧
      shared = (A.hashes.toFinset ∩ B.hashes.toFinset).card ∧ 0 < A.size + B.size - shared ∧
      v.verdict.scores.hash = some (Number.ofNat shared / Number.ofNat (A.size + B.size - shared))
  noHash (h : ¬ (max s.minTokens s.k ≤ l.tokenCount ∧ max s.minTokens s.k ≤ r.tokenCount)) :
    v.sharedFingerprints = none ∧ v.verdict.scores.hash = none
  isPartial : v.verdict.isPartial = true ↔ ∃ d, v.verdict.scores.get d = none
  votes (d : Detector) : v.verdict.votes.get d = none ↔ v.verdict.scores.get d = none
  missing : v.verdict.missing.map (·.detector) = Detector.all.filter fun d => (v.verdict.scores.get d).isNone
  identicalContent : v.identicalContent = true ↔ contentDigest l.text = contentDigest r.text

namespace Settings

variable {s : Settings α} {l r : Prepared} {v : PairVerdict α}

/-! ### Metrics -/

/-- Sequences are compared by subsequences if the settings say so and none is too long. -/
theorem metricFor_eq_lcs_iff {α : Type} (s : Settings α) (m n : Nat) :
    s.overlapOptions.metricFor m n = .lcs ↔ s.metric = .lcs ∧ max m n ≤ s.maxLength := by
  cases hmetric : s.metric with
  | lcs =>
    have hchosen : s.overlapOptions.metricFor m n =
        if s.maxLength < max m n then .ngramJaccard s.groupSize else .lcs := by
      have hself : (Overlap.Metric.lcs == .lcs) = true := rfl
      simp only [Overlap.Options.metricFor, overlapOptions, hmetric, hself, Bool.true_and, decide_eq_true_eq]
    rw [hchosen]
    split
    · rename_i hlong
      exact ⟨fun h => (by cases h), fun h => absurd h.2 (Nat.not_le.2 hlong)⟩
    · rename_i hshort
      exact ⟨fun _ => ⟨rfl, Nat.not_lt.1 hshort⟩, fun _ => rfl⟩
  | ngramJaccard =>
    have hchosen : s.overlapOptions.metricFor m n = .ngramJaccard s.groupSize := by
      simp only [Overlap.Options.metricFor, overlapOptions, hmetric]
      split <;> rfl
    rw [hchosen]
    exact ⟨fun h => (by cases h), fun h => (by cases h.1)⟩

/-! ### Reports -/

/-- The number of shared fingerprints that is reported is that of the hashes in common, and the score is made of it. -/
theorem counts_of_compare (hs : s.check = .ok ()) (hl : l.MadeUnder s) (hr : r.MadeUnder s)
    (hv : s.compare l r = .ok v) (hmin : s.minHashTokens ≤ l.tokenCount ∧ s.minHashTokens ≤ r.tokenCount) :
    ∃ A B shared, l.artifacts.prints = .ok A ∧ r.artifacts.prints = .ok B ∧ v.sharedFingerprints = some shared ∧
      shared = (A.hashes.toFinset ∩ B.hashes.toFinset).card ∧ 0 < A.size + B.size - shared ∧
      v.verdict.scores.hash = some (Number.ofNat shared / Number.ofNat (A.size + B.size - shared)) := by
  obtain ⟨A, B, hA, hB, hAinc, hBinc, hscore, hcount⟩ := hash_of_compare hs hl hr hv hmin
  have hwhole : 0 < (A.jaccard B).whole := by
    obtain ⟨text, htext⟩ := hl
    obtain ⟨P, hP, -, hpos⟩ := Artifacts.exists_prints_size_pos htext (fingerprintOptions_check hs)
      (s.k_le_minHashTokens.trans hmin.1)
    obtain rfl := Except.ok.inj (hA.symm.trans hP)
    have hle := Fingerprint.PrintSet.sharedCount_le_right hAinc hBinc
    show 0 < A.size + B.size - A.sharedCount B
    omega
  refine ⟨A, B, A.sharedCount B, hA, hB, hcount, Fingerprint.PrintSet.sharedCount_eq hAinc hBinc, hwhole, ?_⟩
  rw [hscore, Overlap.Ratio.value_eq_div hwhole]
  rfl

theorem compare_describes (hs : s.check = .ok ()) (hl : l.MadeUnder s) (hr : r.MadeUnder s)
    (hlDigest : l.digest = contentDigest l.text) (hrDigest : r.digest = contentDigest r.text)
    (hv : s.compare l r = .ok v) : v.Describes s l r := by
  obtain ⟨hdecide, hreport⟩ := report_of_compare hv
  obtain ⟨hpartial, hvotes, hmissing⟩ := Decision.Policy.missing_of_decide hdecide
  have hscores := scores_of_compare hv
  have htokenMetric : v.tokenMetric = s.overlapOptions.metricFor l.values.length r.values.length := by
    rw [hreport, l.length_values, r.length_values]
    rfl
  have hast : v.verdict.scores.ast = (s.astOutcome l r).score? := by
    rw [hscores]
    rfl
  have hastMetric : v.astMetric = v.verdict.scores.ast.map fun _ =>
      s.overlapOptions.metricFor l.artifacts.symbols.length r.artifacts.symbols.length :=
    congrArg (·.astMetric) hreport
  constructor
  case token =>
    rw [hscores, htokenMetric]
    rfl
  case tokenMetric =>
    rw [htokenMetric]
    exact s.metricFor_eq_lcs_iff _ _
  case ast =>
    intro htrees
    have hscored : s.astOutcome l r = .scored (s.overlapOptions.compare l.artifacts.symbols r.artifacts.symbols).value := by
      rw [astOutcome, if_pos (by simpa using htrees)]
    rw [hscored] at hast
    rw [hast] at hastMetric
    exact ⟨_, hastMetric, hast, s.metricFor_eq_lcs_iff _ _⟩
  case noAst =>
    intro htrees
    have hnone : s.astOutcome l r = .unavailable parseErrorReason := by
      rw [astOutcome, if_neg (by simpa using htrees)]
    rw [hnone] at hast
    rw [hast] at hastMetric
    exact ⟨hastMetric, hast⟩
  case hash => exact counts_of_compare hs hl hr hv
  case noHash =>
    intro hmin
    rw [not_and_or, Nat.not_le, Nat.not_le] at hmin
    exact (hash_of_compare_few hs hl hr hv hmin).symm
  case isPartial => exact hpartial
  case votes => exact hvotes
  case missing => exact hmissing
  case identicalContent =>
    have hcontent : v.identicalContent = (l.digest == r.digest) := congrArg (·.identicalContent) hreport
    rw [hcontent, hlDigest, hrDigest, beq_iff_eq]

end Settings

/-! ### Comparators -/

namespace Comparator

theorem digest_of_mem_units {s : Settings α} {number : Nat} {c : Comparator α} (hc : ofSettings s number = .ok c)
    {calls : List Call} {p : Prepared} (hp : p ∈ c.units calls) : p.digest = contentDigest p.text := by
  obtain ⟨-, rfl, hempty⟩ := ofSettings_eq_ok hc
  obtain ⟨text, -, hdigest, hderive⟩ := madeFor_of_mem_units calls (hempty []) hp
  exact (Artifacts.stream_of_derive hderive).2.trans hdigest

/-- What a comparator reports of two sources that it has prepared is what their artifacts tell, after any calls. The
contents are identical exactly if the texts are, as long as the two do not have one digest by chance. -/
theorem report_describes_sources {s : Settings α} {number : Nat} {c : Comparator α} (hc : ofSettings s number = .ok c)
    (calls : List Call) {l r : Prepared} (hl : l ∈ c.units calls) (hr : r ∈ c.units calls) {v : PairVerdict α}
    (hv : (c.run calls).compare l r = .ok v) :
    v.Describes s l r ∧
      ((contentDigest l.text = contentDigest r.text → l.text = r.text) →
        (v.identicalContent = true ↔ l.text = r.text)) := by
  obtain ⟨hcheck, hsettings, hempty⟩ := ofSettings_eq_ok hc
  have hkeeps := (run_madeUnder calls (hempty [])).1
  rw [compare, hkeeps, hsettings] at hv
  have hdescribes := Settings.compare_describes hcheck (madeUnder_of_mem_units hc hl) (madeUnder_of_mem_units hc hr)
    (digest_of_mem_units hc hl) (digest_of_mem_units hc hr) hv
  refine ⟨hdescribes, fun hclash => hdescribes.identicalContent.trans ⟨hclash, fun htext => ?_⟩⟩
  rw [htext]

theorem report_describes_sources_two_lines :
    let s : Settings Rat := { (.default : Settings Rat) with k := 2, w := 2, minTokens := 3, maxLength := 4 }
    let f : SourceFile := { filename := "a.py", text := "x = 1\n" }
    let g : SourceFile := { filename := "b.py", text := "y = x + 2\n" }
    let calls : List Call := [.prepare f, .clear, .prepare g]
    ∃ (c : Comparator Rat) (l r : Prepared) (v : PairVerdict Rat), ofSettings s 0 = .ok c ∧ l ∈ c.units calls ∧
      r ∈ c.units calls ∧ l.text = f.text ∧ r.text = g.text ∧ (c.run calls).compare l r = .ok v ∧
      (contentDigest l.text = contentDigest r.text → l.text = r.text) ∧ v.Describes s l r ∧
      v.identicalContent = false ∧ v.tokenMetric ≠ .lcs ∧ ∃ shared, v.sharedFingerprints = some shared := by
  intro s f g calls
  have hcheck : s.check = .ok () := by
    rw [Settings.check_eq_ok_iff]
    refine ⟨?_, ?_⟩ <;> decide +kernel
  have hf : f.check s.maxBytes = .ok () := by
    rw [SourceFile.check_eq_ok_iff]
    decide +kernel
  have hg : g.check s.maxBytes = .ok () := by
    rw [SourceFile.check_eq_ok_iff]
    decide +kernel
  obtain ⟨c, l, r, hc, hl, hr, hlDerive, hrDerive⟩ := exists_units_pair hcheck 0 hf hg
  have hcount : l.value.tokenCount = 3 ∧ r.value.tokenCount = 5 := by
    obtain ⟨hltext, hltokens, -⟩ := Lex.lex_eq_ok (Artifacts.stream_of_derive hlDerive).1
    obtain ⟨hrtext, hrtokens, -⟩ := Lex.lex_eq_ok (Artifacts.stream_of_derive hrDerive).1
    rw [Artifacts.tokenCount, Artifacts.tokenCount, hltokens, hrtokens, hltext, hrtext]
    constructor <;> decide +kernel
  obtain ⟨v, hv⟩ : ∃ v, (c.run calls).compare ⟨f.filename, f.encoding, f.text, l⟩ ⟨g.filename, g.encoding, g.text, r⟩ =
      .ok v := by
    obtain ⟨-, hsettings, hempty⟩ := ofSettings_eq_ok hc
    rw [compare, (run_madeUnder calls (hempty [])).1, hsettings]
    exact Settings.exists_compare hcheck ⟨f.text, hlDerive⟩ ⟨g.text, hrDerive⟩ (by decide +kernel)
  have hclash : contentDigest f.text = contentDigest g.text → f.text = g.text := by
    have hdigest : contentDigest f.text ≠ contentDigest g.text := by decide +kernel
    exact fun h => absurd h hdigest
  obtain ⟨hdescribes, hidentical⟩ := report_describes_sources hc calls hl hr hv
  refine ⟨c, _, _, v, hc, hl, hr, rfl, rfl, hv, hclash, hdescribes, ?_, ?_, ?_⟩
  · have hdiffer : f.text ≠ g.text := by decide
    rw [← Bool.not_eq_true, hidentical hclash]
    exact hdiffer
  · rw [Ne, hdescribes.tokenMetric, Prepared.length_values, Prepared.length_values]
    rintro ⟨-, hshort⟩
    have hlength : max l.value.tokenCount r.value.tokenCount ≤ 4 := hshort
    omega
  · obtain ⟨-, -, shared, -, -, hshared, -⟩ := hdescribes.hash (by
      show max 3 2 ≤ l.value.tokenCount ∧ max 3 2 ≤ r.value.tokenCount
      omega)
    exact ⟨shared, hshared⟩

end Comparator
end Likeness
