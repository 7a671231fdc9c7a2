import Likeness.Proofs.Comparison.Detectors
import Likeness.Proofs.Comparison.History

/-!
# A source and a copy of it

Two sources with the same artifacts are always flagged, by every detector that can run on them, unless
these detectors carry no weight (`compare_same_artifacts`). Numbers are rational here.
-/

namespace Likeness

namespace Settings

variable {s : Settings ℚ} {l r : Prepared} {text : String} {a : Artifacts}

/-- Sources with the same artifacts are flagged by all detectors that can run, if these carry weight. -/
theorem compare_same_artifacts (hs : s.check = .ok ()) (ha : Artifacts.derive text s.deriveOptions = .ok a)
    (htokens : a.stream.tokens ≠ []) (hsymbols : a.hasTree = true → a.symbols ≠ []) (hl : l.artifacts = a)
    (hr : r.artifacts = a) :
    ((∀ d, (s.runsOn a).get d = true → s.voteWeights.get d = 0) ∧
        ∃ reason, s.compare l r = .error (.decision (.insufficientSignal reason))) ∨
      (¬ ∀ d, (s.runsOn a).get d = true → s.voteWeights.get d = 0) ∧
        ∃ v, s.compare l r = .ok v ∧ v.identicalContent = true ∧ v.verdict.Unanimous (s.runsOn a) := by
  have hscores := score_of_same_artifacts hs ha htokens hsymbols hl hr
  rcases Decision.Policy.decide_of_all_one (policy_valid hs) hscores with ⟨hnone, reason, he⟩ | ⟨hsome, v, hv, hall⟩
  · exact .inl ⟨hnone, reason, compare_eq_error he⟩
  · refine .inr ⟨hsome, _, compare_eq_ok hv, ?_, hall⟩
    show (l.digest == r.digest) = true
    rw [Prepared.digest, Prepared.digest, hl, hr]
    exact beq_self_eq_true _

end Settings

namespace Comparator

/-- A source that is compared with a copy of it, under any two names and after any calls, is flagged by all detectors
that can run on it, if these carry weight; without weight nothing is decided. The text has a token, and its tree has a
symbol if there is one. -/
theorem copy_flagged {s : Settings ℚ} {number : Nat} {c : Comparator ℚ} (hc : ofSettings s number = .ok c)
    (calls : List Call) {f g : SourceFile} (hsame : g.text = f.text) (hf : f.check s.maxBytes = .ok ())
    {stream : Lex.Stream} (hlex : Lex.lex f.text s.lexOptions = .ok stream) (htokens : stream.tokens ≠ [])
    (hclash : ∀ t ∈ asked calls, contentDigest t = contentDigest f.text → t = f.text) :
    ∃ a, Artifacts.derive f.text s.deriveOptions = .ok a ∧
      (a.hasTree = true ∧ a.symbols = [] ∨
        (∀ d, (s.runsOn a).get d = true → s.voteWeights.get d = 0) ∧
          (∃ reason, ((c.run calls).compareFiles f g).1 = .error (.decision (.insufficientSignal reason))) ∨
        (¬ ∀ d, (s.runsOn a).get d = true → s.voteWeights.get d = 0) ∧
          ∃ v, ((c.run calls).compareFiles f g).1 = .ok v ∧ v.identicalContent = true ∧
            v.verdict.Unanimous (s.runsOn a)) := by
  have hcheck := (ofSettings_eq_ok hc).1
  have hg : g.check s.maxBytes = .ok () := by
    rw [SourceFile.check_eq_ok_iff] at hf ⊢
    rwa [hsame]
  obtain ⟨l, r, hcompare, hl, hr⟩ := exists_compareFiles_run hc calls hf hg
  have ha : Artifacts.derive f.text s.deriveOptions = .ok l.value := by
    refine hl.derive_eq fun t ht hdigest => ?_
    rcases List.mem_append.1 ht with ht | ht
    · exact hclash t ht hdigest
    · exact List.mem_singleton.1 ht
  have hb : Artifacts.derive f.text s.deriveOptions = .ok r.value := by
    rw [hsame] at hr
    refine hr.derive_eq fun t ht hdigest => ?_
    rcases List.mem_append.1 (List.append_assoc _ _ _ ▸ ht) with ht | ht
    · exact hclash t ht hdigest
    · simpa using ht
  have hvalue : r.value = l.value := Except.ok.inj (hb.symm.trans ha)
  have htokens : l.value.stream.tokens ≠ [] := by
    obtain rfl := Except.ok.inj (hlex.symm.trans (Artifacts.stream_of_derive ha).1)
    exact htokens
  refine ⟨l.value, ha, ?_⟩
  by_cases hsymbols : l.value.hasTree = true → l.value.symbols ≠ []
  · rw [hcompare]
    exact .inr (Settings.compare_same_artifacts hcheck ha htokens hsymbols rfl hvalue)
  · left
    simpa using hsymbols

theorem copy_flagged_one_line :
    let f : SourceFile := { filename := "a.py", text := "x = 1\n" }
    let g : SourceFile := { filename := "b.py", text := "x = 1\n" }
    let calls : List Call := [.prepare { filename := "c.py", text := "y = 2\n" }, .compareFiles g f]
    let s : Settings Rat := .default
    ∃ (c : Comparator Rat) (stream : Lex.Stream), ofSettings s 0 = .ok c ∧ f.check s.maxBytes = .ok () ∧
      Lex.lex f.text s.lexOptions = .ok stream ∧ stream.tokens ≠ [] ∧
      (∀ t ∈ asked calls, contentDigest t = contentDigest f.text → t = f.text) ∧
      ∃ a, Artifacts.derive f.text s.deriveOptions = .ok a ∧
        (a.hasTree = true ∧ a.symbols = [] ∨
          (∀ d, (s.runsOn a).get d = true → s.voteWeights.get d = 0) ∧
            (∃ reason, ((c.run calls).compareFiles f g).1 = .error (.decision (.insufficientSignal reason))) ∨
          (¬ ∀ d, (s.runsOn a).get d = true → s.voteWeights.get d = 0) ∧
            ∃ v, ((c.run calls).compareFiles f g).1 = .ok v ∧ v.identicalContent = true ∧
              v.verdict.Unanimous (s.runsOn a)) := by
  intro f g calls s
  obtain ⟨c, hc⟩ := exists_ofSettings Settings.default_check 0
  have hf : f.check s.maxBytes = .ok () := by
    rw [SourceFile.check_eq_ok_iff]
    decide +kernel
  have hclash : ∀ t ∈ asked calls, contentDigest t = contentDigest f.text → t = f.text := by
    have hdigest : contentDigest "y = 2\n" ≠ contentDigest "x = 1\n" := by decide +kernel
    intro t ht heq
    have ht : t = "y = 2\n" ∨ t = "x = 1\n" := by simpa [asked, calls, Call.texts, f, g] using ht
    rcases ht with rfl | rfl
    · exact absurd heq hdigest
    · rfl
  obtain ⟨stream, hlex, htokens⟩ : ∃ stream, Lex.lex f.text s.lexOptions = .ok stream ∧ stream.tokens ≠ [] :=
    ⟨_, rfl, by decide +kernel⟩
  exact ⟨c, stream, hc, hf, hlex, htokens, hclash, copy_flagged hc calls rfl hf hlex htokens hclash⟩

end Comparator
end Likeness
