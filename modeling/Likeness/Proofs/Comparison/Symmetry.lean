import Likeness.Proofs.Comparison.Detectors
import Likeness.Proofs.Comparison.History
import Likeness.Proofs.Overlap.Metric

/-!
# A comparison is the same from both sides

What the detectors find of two sources that one comparator has prepared does not depend on their order
(`outcomes_comm`), and neither does what is reported of them, but for which is left and which is right.
The order could only show where fingerprints are missing though there are tokens enough; settings that
are accepted exclude this (`hashOutcome_cases`).
-/

namespace Likeness

variable {α : Type} [Number α]

/-- What is reported of a pair with its sides changed. -/
def PairVerdict.swap (v : PairVerdict α) : PairVerdict α := { v with left := v.right, right := v.left }

namespace Settings

variable {s : Settings α} {l r : Prepared}

/-! ### The detectors -/

theorem tokenOutcome_comm (s : Settings α) (l r : Prepared) : s.tokenOutcome l r = s.tokenOutcome r l := by
  rw [tokenOutcome, tokenOutcome, Overlap.Options.compare_comm]

theorem astOutcome_comm (s : Settings α) (l r : Prepared) : s.astOutcome l r = s.astOutcome r l := by
  rw [astOutcome, astOutcome, Overlap.Options.compare_comm, Bool.and_comm]

theorem hashOutcome_comm (hs : s.check = .ok ()) (hl : l.MadeUnder s) (hr : r.MadeUnder s) :
    s.hashOutcome l r = s.hashOutcome r l := by
  rcases hashOutcome_cases hs hl hr with ⟨hfew, h⟩ | ⟨⟨hleft, hright⟩, A, B, hA, hB, hAinc, hBinc, h⟩ <;>
    rcases hashOutcome_cases hs hr hl with ⟨hfew', h'⟩ | ⟨⟨hleft', hright'⟩, B', A', hB', hA', -, -, h'⟩
  · rw [h, h']
  · omega
  · omega
  · obtain rfl := Except.ok.inj (hA.symm.trans hA')
    obtain rfl := Except.ok.inj (hB.symm.trans hB')
    rw [h, h', Fingerprint.PrintSet.jaccard_comm hAinc hBinc]

theorem outcomes_comm (hs : s.check = .ok ()) (hl : l.MadeUnder s) (hr : r.MadeUnder s) :
    s.outcomes l r = s.outcomes r l := by
  rw [outcomes, outcomes, tokenOutcome_comm, astOutcome_comm, hashOutcome_comm hs hl hr]

/-! ### The report -/

theorem sharedPrints?_comm (hs : s.check = .ok ()) (hl : l.MadeUnder s) (hr : r.MadeUnder s) :
    sharedPrints? l r = sharedPrints? r l := by
  obtain ⟨text, htext⟩ := hl
  obtain ⟨text', htext'⟩ := hr
  unfold sharedPrints?
  cases hA : l.artifacts.prints with
  | error e => cases r.artifacts.prints <;> rfl
  | ok A =>
    cases hB : r.artifacts.prints with
    | error e => rfl
    | ok B =>
      have hAinc := Artifacts.prints_increasing htext (fingerprintOptions_check hs) hA
      have hBinc := Artifacts.prints_increasing htext' (fingerprintOptions_check hs) hB
      simp only [Fingerprint.PrintSet.sharedCount_comm hAinc hBinc]

theorem compare_comm (hs : s.check = .ok ()) (hl : l.MadeUnder s) (hr : r.MadeUnder s) :
    s.compare r l = (s.compare l r).map PairVerdict.swap := by
  unfold compare
  rw [outcomes_comm hs hr hl, sharedPrints?_comm hs hr hl, Overlap.Options.metricFor_comm _ r.tokenCount,
    Overlap.Options.metricFor_comm _ r.artifacts.symbols.length, Bool.beq_comm]
  cases s.policy.decide (s.outcomes l r) <;> rfl

end Settings

/-! ### Comparators -/

namespace Comparator

theorem madeUnder_of_mem_units {s : Settings α} {number : Nat} {c : Comparator α}
    (hc : ofSettings s number = .ok c) {calls : List Call} {p : Prepared} (hp : p ∈ c.units calls) :
    p.MadeUnder s := by
  obtain ⟨-, rfl, hempty⟩ := ofSettings_eq_ok hc
  obtain ⟨text, -, -, hderive⟩ := madeFor_of_mem_units calls (hempty []) hp
  exact ⟨text, hderive⟩

/-- Two sources that a comparator has prepared compare the same from both sides: with the same outcomes and the same
error, or with the same report but for the sides. -/
theorem compare_symmetric {s : Settings α} {number : Nat} {c : Comparator α} (hc : ofSettings s number = .ok c)
    (calls : List Call) {l r : Prepared} (hl : l ∈ c.units calls) (hr : r ∈ c.units calls) :
    (c.run calls).settings.outcomes r l = (c.run calls).settings.outcomes l r ∧
      (c.run calls).compare r l = ((c.run calls).compare l r).map PairVerdict.swap := by
  obtain ⟨hcheck, rfl, hempty⟩ := ofSettings_eq_ok hc
  have hsettings := (run_madeUnder calls (hempty [])).1
  have hl := madeUnder_of_mem_units hc hl
  have hr := madeUnder_of_mem_units hc hr
  rw [compare, compare, hsettings]
  exact ⟨Settings.outcomes_comm hcheck hr hl, Settings.compare_comm hcheck hl hr⟩

theorem compare_symmetric_two_sources :
    let f : SourceFile := { filename := "a.py", text := "x = 1\n" }
    let g : SourceFile := { filename := "b.py", text := "y = x + 2\n" }
    let calls : List Call := [.prepare f, .clear, .prepare g]
    ∃ (c : Comparator Rat) (l r : Prepared), ofSettings .default 0 = .ok c ∧ l ∈ c.units calls ∧ r ∈ c.units calls ∧
      l.text = f.text ∧ r.text = g.text ∧
      (c.run calls).settings.outcomes r l = (c.run calls).settings.outcomes l r ∧
      (c.run calls).compare r l = ((c.run calls).compare l r).map PairVerdict.swap := by
  intro f g calls
  have hf : f.check (Settings.default : Settings Rat).maxBytes = .ok () := by
    rw [SourceFile.check_eq_ok_iff]
    decide +kernel
  have hg : g.check (Settings.default : Settings Rat).maxBytes = .ok () := by
    rw [SourceFile.check_eq_ok_iff]
    decide +kernel
  obtain ⟨c, l, r, hc, hl, hr, -, -⟩ := exists_units_pair Settings.default_check 0 hf hg
  exact ⟨c, _, _, hc, hl, hr, rfl, rfl, compare_symmetric hc calls hl hr⟩

end Comparator
end Likeness
