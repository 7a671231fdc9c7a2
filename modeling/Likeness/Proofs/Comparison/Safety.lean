import Likeness.Proofs.Comparison.Symmetry
import Likeness.Proofs.Parse.Source

/-!
# What accepted settings rule out

Under settings that are accepted every stage accepts its options, and no error of the options or of a
score comes up later (`accepted_settings_safe`): a source is refused only for its text
(`prepare_eq_error`), it has no tree only because of its syntax or depth, no fingerprints only for want of
tokens, and two sources are left undecided only for want of weight (`compare_eq_insufficientSignal`).
-/

namespace Likeness

variable {α : Type} [Number α]

/-! ### Options of the stages -/

/-- Every stage accepts its own options. -/
structure Settings.StagesAccept (s : Settings α) : Prop where
  policy : s.policy.check = .ok ()
  lex : s.lexOptions.check = .ok ()
  parse : s.parseOptions.check = .ok ()
  fingerprint : s.fingerprintOptions.check = .ok ()
  overlap : s.overlapOptions.check = .ok ()

theorem Settings.stagesAccept {s : Settings α} (hs : s.check = .ok ()) : s.StagesAccept := by
  obtain ⟨hpolicy, hk, hw, hgroup, hdepth, -, -⟩ := s.check_eq_ok_iff.1 hs
  constructor
  · exact (Decision.Policy.check_eq_ok_iff _).2 hpolicy
  · rfl
  · exact s.parseOptions_check_eq_ok_iff.2 hdepth
  · exact s.fingerprintOptions_check_eq_ok hk hw
  · exact s.overlapOptions_check_eq_ok hgroup

/-! ### Sources -/

namespace Settings

variable {s : Settings α} {p l r : Prepared}

/-- A source without a tree is itself at fault. -/
theorem tree_eq_error (hs : s.check = .ok ()) (hp : p.MadeUnder s) {e : Parse.Error}
    (h : p.artifacts.tree = .error e) : Parse.Cause.OfSource s.maxDepth e.cause := by
  obtain ⟨text, htext⟩ := hp
  rw [Artifacts.tree_of_derive htext] at h
  exact Parse.cause_of_normalTree (stagesAccept hs).parse h

theorem prints_eq_error_iff (hs : s.check = .ok ()) (hp : p.MadeUnder s) (e : Fingerprint.Error) :
    p.artifacts.prints = .error e ↔ p.tokenCount < s.k ∧ e = .notEnoughTokens s.k p.tokenCount := by
  obtain ⟨text, htext⟩ := hp
  exact Artifacts.prints_eq_error_iff htext (fingerprintOptions_check hs) e

theorem hashOutcome_eq_unavailable (hs : s.check = .ok ()) (hl : l.MadeUnder s) (hr : r.MadeUnder s) {reason : String}
    (h : s.hashOutcome l r = .unavailable reason) : reason = insufficientTokensReason := by
  rcases hashOutcome_cases hs hl hr with ⟨-, hfew⟩ | ⟨-, A, B, -, -, -, -, hscored⟩
  · rw [hfew] at h
    cases h
    rfl
  · rw [hscored] at h
    cases h

/-- Two sources are left undecided only for want of weight. -/
theorem compare_eq_insufficientSignal (hs : s.check = .ok ()) (hl : l.MadeUnder s) (hr : r.MadeUnder s)
    (hα : Number.FractionsUnit α (l.extent + r.extent + 1)) {e : CompareError α} (h : s.compare l r = .error e) :
    ∃ reason, e = .decision (.insufficientSignal reason) := by
  cases hdecide : s.policy.decide (s.outcomes l r) with
  | ok v =>
    rw [compare_eq_ok hdecide] at h
    cases h
  | error e' =>
    rw [compare_eq_error hdecide] at h
    cases h
    obtain ⟨reason, rfl⟩ := Decision.Policy.decide_eq_error
      (fun _ _ hx => isUnit_of_scored hs hl hr hα hx) hdecide
    exact ⟨reason, rfl⟩

end Settings

/-! ### Comparators -/

namespace Comparator

/-- A source is refused only for its text. -/
theorem prepare_eq_error {c : Comparator α} {f : SourceFile} {e : CompareError α} (h : (c.prepare f).1 = .error e) :
    e = .input (.empty f.filename) ∨
      e = .input (.tooLarge f.filename f.text.utf8ByteSize c.settings.maxBytes) := by
  obtain ⟨e', rfl, hcheck⟩ := Settings.exists_of_prepare_eq_error (prepare_of_error h).1
  rcases SourceFile.check_eq_error hcheck with rfl | rfl
  · exact .inl rfl
  · exact .inr rfl

/-- Settings that are accepted rule out every later error of the options or of a score: a comparator is made, and
whatever it was asked for before, it refuses sources only for their text, what it prepares lacks a tree or fingerprints
only for reasons of the source, and two such sources are not decided on only for want of weight. -/
theorem accepted_settings_safe {s : Settings α} (hs : s.check = .ok ()) (number : Nat) :
    s.StagesAccept ∧
      ∃ c, ofSettings s number = .ok c ∧ ∀ calls : List Call,
        (∀ f e, ((c.run calls).prepare f).1 = .error e →
          e = .input (.empty f.filename) ∨ e = .input (.tooLarge f.filename f.text.utf8ByteSize s.maxBytes)) ∧
        (∀ p ∈ c.units calls,
          (∀ e reason, p.artifacts.tree = .error e → e.cause ≠ .invalidOptions reason) ∧
            ∀ e, p.artifacts.prints = .error e ↔ p.tokenCount < s.k ∧ e = .notEnoughTokens s.k p.tokenCount) ∧
        ∀ l ∈ c.units calls, ∀ r ∈ c.units calls,
          (Number.FractionsUnit α (l.extent + r.extent + 1) →
            ∀ e, (c.run calls).compare l r = .error e → ∃ reason, e = .decision (.insufficientSignal reason)) ∧
          ∀ reason, (c.run calls).settings.hashOutcome l r = .unavailable reason →
            reason = insufficientTokensReason := by
  obtain ⟨c, hc⟩ := exists_ofSettings hs number
  obtain ⟨-, hsettings, hempty⟩ := ofSettings_eq_ok hc
  refine ⟨Settings.stagesAccept hs, c, hc, fun calls => ?_⟩
  have hkeeps := (run_madeUnder calls (hempty [])).1
  rw [hsettings] at hkeeps
  have hunits : ∀ p ∈ c.units calls, p.MadeUnder s := fun p hp => madeUnder_of_mem_units hc hp
  refine ⟨?_, ?_, ?_⟩
  · intro f e h
    have herror := prepare_eq_error h
    rwa [hkeeps] at herror
  · intro p hp
    refine ⟨fun e reason h hcause => ?_, s.prints_eq_error_iff hs (hunits p hp)⟩
    have hsource := Settings.tree_eq_error hs (hunits p hp) h
    rw [hcause] at hsource
    cases hsource
  · intro l hl r hr
    rw [Comparator.compare, hkeeps]
    refine ⟨fun hα e h => ?_, fun reason h => ?_⟩
    · exact Settings.compare_eq_insufficientSignal hs (hunits l hl) (hunits r hr) hα h
    · exact Settings.hashOutcome_eq_unavailable hs (hunits l hl) (hunits r hr) h

theorem accepted_settings_safe_short_source :
    let f : SourceFile := { filename := "a.py", text := "x = 1\n" }
    let g : SourceFile := { filename := "b.py", text := " \n" }
    ∃ (c : Comparator Rat) (p : Prepared), ofSettings .default 0 = .ok c ∧ p ∈ c.units [.prepare f] ∧
      ((c.run [.prepare f]).prepare g).1 = .error (.input (.empty "b.py")) ∧
      p.artifacts.prints = .error (.notEnoughTokens 5 3) ∧
      ∀ e, (c.run [.prepare f]).compare p p = .error e → ∃ reason, e = .decision (.insufficientSignal reason) := by
  intro f g
  obtain ⟨-, c, hc, hsafe⟩ := accepted_settings_safe (α := Rat) Settings.default_check 0
  obtain ⟨-, hsettings, hempty⟩ := ofSettings_eq_ok hc
  obtain ⟨-, hunits, hpairs⟩ := hsafe [.prepare f]
  have hf : f.check c.settings.maxBytes = .ok () := by
    rw [hsettings, SourceFile.check_eq_ok_iff]
    decide +kernel
  obtain ⟨kept, store, hprepare, -, hmade⟩ := exists_prepare hf (hempty [])
  have hmem : ⟨f.filename, f.encoding, f.text, kept⟩ ∈ c.units [.prepare f] := by
    simp [units, hprepare, Except.toOption]
  have hderive : Artifacts.derive f.text c.settings.deriveOptions = .ok kept.value :=
    hmade.derive_eq fun t ht _ => by simpa using ht
  have hcount : kept.value.tokenCount = 3 := by
    obtain ⟨htext, htokens, -⟩ := Lex.lex_eq_ok (Artifacts.stream_of_derive hderive).1
    rw [hsettings] at htext
    rw [Artifacts.tokenCount, htokens, htext]
    decide +kernel
  have hrefused : g.check c.settings.maxBytes = .error (.empty "b.py") := by
    rw [hsettings]
    decide +kernel
  have hrun : (c.run [.prepare f]).settings = c.settings := (run_madeUnder _ (hempty [])).1
  refine ⟨c, _, hc, hmem, ?_, ?_, (hpairs _ hmem _ hmem).1 (Number.fractionsUnit_rat _)⟩
  · rw [prepare_of_check_error (by rw [hrun]; exact hrefused)]
  · refine ((hunits _ hmem).2 _).2 ⟨?_, ?_⟩
    · rw [Prepared.tokenCount, Prepared.artifacts, hcount]
      decide
    · rw [Prepared.tokenCount, Prepared.artifacts, hcount]
      rfl

end Comparator
end Likeness
