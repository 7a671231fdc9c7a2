import Likeness.Comparison.Comparator
import Likeness.Proofs.Settings.Check
import Likeness.Proofs.Source.Kept

/-!
# What a comparator has prepared

Everything that a comparator keeps was made under its own settings, of a text that it was asked for
(`run_madeUnder`). So the artifacts of every source that it prepares are those of a text with the same
digest (`madeFor_of_mem_units`, `exists_compareFiles_run`), whatever it has done before.
-/

namespace Likeness

theorem mem_toList_toOption {ε β : Type} {r : Except ε β} {b : β} : b ∈ r.toOption.toList ↔ r = .ok b := by
  cases r <;> simp [Except.toOption, eq_comm]

namespace Comparator

variable {α : Type} [Number α]

/-! ### Calls -/

/-- What a comparator can be asked to do that its store takes part in. -/
inductive Call where
  | prepare (f : SourceFile)
  | compareFiles (left right : SourceFile)
  | clear

/-- The texts that a call asks for. -/
def Call.texts : Call → List String
  | prepare f => [f.text]
  | compareFiles left right => [left.text, right.text]
  | clear => []

/-- The texts that calls ask for. -/
def asked (calls : List Call) : List String := calls.flatMap Call.texts

/-- The comparator after a call. -/
def after (c : Comparator α) : Call → Comparator α
  | .prepare f => (c.prepare f).2
  | .compareFiles left right => (c.compareFiles left right).2
  | .clear => c.clear

/-- The comparator after some calls. -/
def run (c : Comparator α) (calls : List Call) : Comparator α := calls.foldl after c

/-- The sources that are handed out prepared in the course of some calls. -/
def units (c : Comparator α) : List Call → List Prepared
  | [] => []
  | .prepare f :: calls => (c.prepare f).1.toOption.toList ++ units (c.after (.prepare f)) calls
  | call :: calls => units (c.after call) calls

/-! ### One call -/

variable {c : Comparator α} {f g : SourceFile} {texts : List String}

theorem prepare_of_check_error {e : InputError} (he : f.check c.settings.maxBytes = .error e) :
    c.prepare f = (.error (.input e), c) := by
  rw [prepare, Settings.prepare_of_check_error he]

theorem prepare_of_error {e : CompareError α} (h : (c.prepare f).1 = .error e) :
    c.settings.prepare f c.store = .error e ∧ (c.prepare f).2 = c := by
  unfold prepare at h ⊢
  split at h
  · cases h
  · rename_i hprepare
    cases h
    exact ⟨hprepare, rfl⟩

theorem exists_prepare (hf : f.check c.settings.maxBytes = .ok ())
    (hc : c.store.MadeUnder c.settings.deriveOptions texts) :
    ∃ kept store, c.prepare f = (.ok ⟨f.filename, f.encoding, f.text, kept⟩, { c with store }) ∧
      store.MadeUnder c.settings.deriveOptions (texts ++ [f.text]) ∧
      kept.value.MadeFor c.settings.deriveOptions (texts ++ [f.text]) f.text := by
  have hversion : c.settings.deriveOptions.lex.version ≠ 0 := Nat.one_ne_zero
  obtain ⟨kept, store, hstore, hmade, hkept⟩ := hc.getOrDerive hversion f.text
  refine ⟨kept, store, ?_, hmade, hkept⟩
  rw [prepare, Settings.prepare_of_check hf, hstore]
  rfl

/-- Preparing a source changes nothing but the store, in which all is still made under the settings. -/
theorem prepare_madeUnder (f : SourceFile) (hc : c.store.MadeUnder c.settings.deriveOptions texts) :
    (c.prepare f).2.settings = c.settings ∧
      (c.prepare f).2.store.MadeUnder c.settings.deriveOptions (texts ++ [f.text]) := by
  cases hf : f.check c.settings.maxBytes with
  | error e =>
    rw [prepare_of_check_error hf]
    exact ⟨rfl, hc.mono (List.subset_append_left _ _)⟩
  | ok u =>
    obtain ⟨kept, store, hprepare, hmade, -⟩ := exists_prepare hf hc
    rw [hprepare]
    exact ⟨rfl, hmade⟩

theorem exists_compareFiles (hf : f.check c.settings.maxBytes = .ok ()) (hg : g.check c.settings.maxBytes = .ok ())
    (hc : c.store.MadeUnder c.settings.deriveOptions texts) :
    ∃ l r,
      (c.compareFiles f g).1 =
        c.settings.compare ⟨f.filename, f.encoding, f.text, l⟩ ⟨g.filename, g.encoding, g.text, r⟩ ∧
      l.value.MadeFor c.settings.deriveOptions (texts ++ [f.text]) f.text ∧
      r.value.MadeFor c.settings.deriveOptions (texts ++ [f.text] ++ [g.text]) g.text := by
  obtain ⟨l, store, hl, hmade, hleft⟩ := exists_prepare hf hc
  obtain ⟨r, store', hr, -, hright⟩ := exists_prepare (c := { c with store }) hg hmade
  refine ⟨l, r, ?_, hleft, hright⟩
  simp only [compareFiles, hl, hr]
  rfl

theorem snd_compareFiles (f g : SourceFile) : (c.compareFiles f g).2 =
    match (c.prepare f).1 with
    | .error _ => (c.prepare f).2
    | .ok _ => ((c.prepare f).2.prepare g).2 := by
  unfold compareFiles
  split
  · rename_i e c' h
    rw [h]
  · rename_i l c' h
    rw [h]
    split
    · rename_i e c'' h'
      rw [h']
    · rename_i r c'' h'
      rw [h']

theorem after_madeUnder (call : Call) (hc : c.store.MadeUnder c.settings.deriveOptions texts) :
    (c.after call).settings = c.settings ∧
      (c.after call).store.MadeUnder c.settings.deriveOptions (texts ++ call.texts) := by
  cases call with
  | prepare f => exact prepare_madeUnder f hc
  | clear =>
    refine ⟨rfl, ?_⟩
    intro digest kept hmem
    cases hmem
  | compareFiles f g =>
    obtain ⟨hsettings, hmade⟩ := prepare_madeUnder f hc
    rw [after, snd_compareFiles]
    split
    · refine ⟨hsettings, hmade.mono ?_⟩
      simp [Call.texts]
    · rw [← hsettings] at hmade ⊢
      have hright := prepare_madeUnder g hmade
      rwa [List.append_assoc] at hright

/-! ### All calls -/

/-- Calls leave the settings, and all that is kept is made under them of texts that were asked for. -/
theorem run_madeUnder (calls : List Call) (hc : c.store.MadeUnder c.settings.deriveOptions texts) :
    (c.run calls).settings = c.settings ∧
      (c.run calls).store.MadeUnder c.settings.deriveOptions (texts ++ asked calls) := by
  induction calls generalizing c texts with
  | nil => exact ⟨rfl, by simpa [asked, run] using hc⟩
  | cons call calls ih =>
    obtain ⟨hsettings, hmade⟩ := after_madeUnder call hc
    rw [← hsettings] at hmade ⊢
    have hrest := ih hmade
    rwa [List.append_assoc] at hrest

theorem madeFor_of_prepare {p : Prepared} (hc : c.store.MadeUnder c.settings.deriveOptions texts)
    (hp : (c.prepare f).1 = .ok p) :
    p.artifacts.MadeFor c.settings.deriveOptions (texts ++ [f.text]) p.text := by
  cases hf : f.check c.settings.maxBytes with
  | error e =>
    rw [prepare_of_check_error hf] at hp
    cases hp
  | ok u =>
    obtain ⟨kept, store, hprepare, -, hkept⟩ := exists_prepare hf hc
    rw [hprepare] at hp
    cases hp
    exact hkept

/-- A source that is handed out comes from one of the calls. -/
theorem exists_of_mem_units {p : Prepared} {calls : List Call} (hp : p ∈ c.units calls) :
    ∃ before f rest, calls = before ++ .prepare f :: rest ∧ ((c.run before).prepare f).1 = .ok p := by
  induction calls generalizing c with
  | nil => cases hp
  | cons call calls ih =>
    have hlater : p ∈ (c.after call).units calls →
        ∃ before f rest, call :: calls = before ++ .prepare f :: rest ∧ ((c.run before).prepare f).1 = .ok p := by
      intro hp
      obtain ⟨before, f, rest, rfl, hok⟩ := ih hp
      exact ⟨call :: before, f, rest, rfl, hok⟩
    cases call with
    | prepare f =>
      rcases List.mem_append.1 hp with hp | hp
      · exact ⟨[], f, calls, rfl, mem_toList_toOption.1 hp⟩
      · exact hlater hp
    | compareFiles f g => exact hlater hp
    | clear => exact hlater hp

theorem madeFor_of_mem_units {p : Prepared} (calls : List Call)
    (hc : c.store.MadeUnder c.settings.deriveOptions texts) (hp : p ∈ c.units calls) :
    p.artifacts.MadeFor c.settings.deriveOptions (texts ++ asked calls) p.text := by
  obtain ⟨before, f, rest, rfl, hok⟩ := exists_of_mem_units hp
  obtain ⟨hsettings, hmade⟩ := run_madeUnder before hc
  rw [← hsettings] at hmade ⊢
  refine (madeFor_of_prepare hmade hok).mono ?_
  simp [asked, Call.texts]

/-- The check of the settings includes that of the policy, which therefore passes again. -/
theorem exists_ofSettings {s : Settings α} (h : s.check = .ok ()) (number : Nat) :
    ∃ c, ofSettings s number = .ok c := by
  have hpolicy : s.policy.check = .ok () :=
    (Decision.Policy.check_eq_ok_iff _).2 (s.check_eq_ok_iff.1 h).1
  unfold ofSettings
  split
  · rw [hpolicy]
    exact ⟨_, rfl⟩
  · rename_i flaw hflaw
    rw [h] at hflaw
    cases hflaw

/-- A comparator is made with an empty store. -/
theorem ofSettings_eq_ok {s : Settings α} {number : Nat} (h : ofSettings s number = .ok c) :
    s.check = .ok () ∧ c.settings = s ∧ ∀ texts, c.store.MadeUnder c.settings.deriveOptions texts := by
  unfold ofSettings at h
  split at h
  · rename_i hcheck
    obtain ⟨-, h⟩ := mapError_bind_eq_ok.1 h
    cases h
    exact ⟨hcheck, rfl, Store.madeUnder_empty number _⟩
  · cases h

/-- Two sources that pass the check are handed out with the artifacts of their own texts by a comparator that is new, and
new again in between. -/
theorem exists_units_pair {s : Settings α} (hs : s.check = .ok ()) (number : Nat) (hf : f.check s.maxBytes = .ok ())
    (hg : g.check s.maxBytes = .ok ()) :
    ∃ c l r, ofSettings s number = .ok c ∧
      ⟨f.filename, f.encoding, f.text, l⟩ ∈ c.units [.prepare f, .clear, .prepare g] ∧
      ⟨g.filename, g.encoding, g.text, r⟩ ∈ c.units [.prepare f, .clear, .prepare g] ∧
      Artifacts.derive f.text s.deriveOptions = .ok l.value ∧ Artifacts.derive g.text s.deriveOptions = .ok r.value := by
  obtain ⟨c, hc⟩ := exists_ofSettings hs number
  obtain ⟨-, rfl, hempty⟩ := ofSettings_eq_ok hc
  obtain ⟨l, store, hl, -, hleft⟩ := exists_prepare hf (hempty [])
  have hclear : ({ c with store } : Comparator α).clear.store.MadeUnder c.settings.deriveOptions [] := by
    intro digest kept hmem
    cases hmem
  obtain ⟨r, store', hr, -, hright⟩ := exists_prepare (c := ({ c with store } : Comparator α).clear) hg hclear
  refine ⟨c, l, r, hc, ?_, ?_, ?_, ?_⟩
  · simp [units, hl, Except.toOption]
  · simp [units, after, hl, hr, Except.toOption]
  · exact hleft.derive_eq fun t ht _ => by simpa using ht
  · exact hright.derive_eq fun t ht _ => by simpa using ht

/-- After any calls two sources that pass the check are compared by artifacts that were made for them. -/
theorem exists_compareFiles_run {s : Settings α} {number : Nat} (hc : ofSettings s number = .ok c) (calls : List Call)
    (hf : f.check s.maxBytes = .ok ()) (hg : g.check s.maxBytes = .ok ()) :
    ∃ l r,
      ((c.run calls).compareFiles f g).1 =
        s.compare ⟨f.filename, f.encoding, f.text, l⟩ ⟨g.filename, g.encoding, g.text, r⟩ ∧
      l.value.MadeFor s.deriveOptions (asked calls ++ [f.text]) f.text ∧
      r.value.MadeFor s.deriveOptions (asked calls ++ [f.text] ++ [g.text]) g.text := by
  obtain ⟨-, rfl, hempty⟩ := ofSettings_eq_ok hc
  obtain ⟨hsettings, hmade⟩ := run_madeUnder calls (hempty [])
  rw [← hsettings] at hf hg hmade ⊢
  exact exists_compareFiles hf hg hmade

end Comparator
end Likeness
