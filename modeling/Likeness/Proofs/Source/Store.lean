import Mathlib.Data.List.DropRight
import Mathlib.Tactic.Common
import Likeness.Comparison.Pair
import Likeness.Proofs.Source.Artifacts

/-!
# What a store hands out

A store knows a text by its digest, and the options of a call are no part of that. So what it has for
a text was made under the options of the first call that could make it, and every later call gets the
same, until the store is cleared. A store is transparent as long as these options give what those of
the call would give.
-/

namespace Likeness

/-! ### Derivations -/

theorem Fingerprint.PrintSet.run_length_eq {tokens tokens' : List String} {o o' : Options}
    (ho : o.check = .ok ()) (ho' : o'.check = .ok ())
    (h : ofTokens tokens o = ofTokens tokens' o') : o.k = o'.k := by
  unfold ofTokens at h
  rw [ho, ho'] at h
  by_cases hk : tokens.length < o.k <;> by_cases hk' : tokens'.length < o'.k
  · simp only [bind, Except.bind, if_pos hk, if_pos hk'] at h
    injection h with h
    injection h
  · simp [bind, Except.bind, if_pos hk, if_neg hk', pure, Except.pure] at h
  · simp [bind, Except.bind, if_neg hk, if_pos hk', pure, Except.pure] at h
  · simp only [bind, Except.bind, if_neg hk, if_neg hk', pure, Except.pure] at h
    injection h with h
    exact congrArg (fun s : PrintSet => s.origin.k) h

/-- Runs of different lengths never give the same artifacts. -/
theorem Artifacts.derive_ne {text : String} {o o' : DeriveOptions} {a : Artifacts}
    (ho : o.fingerprint.check = .ok ()) (ho' : o'.fingerprint.check = .ok ())
    (hk : o.fingerprint.k ≠ o'.fingerprint.k) (h : derive text o = .ok a) : derive text o' ≠ .ok a := by
  intro h'
  have hp := prints_of_derive h
  rw [prints_of_derive h'] at hp
  exact hk (Fingerprint.PrintSet.run_length_eq ho' ho hp).symm

/-- What a prepared source says, whoever keeps its artifacts. -/
def Prepared.parts (p : Prepared) : String × String × String × Artifacts :=
  (p.filename, p.encoding, p.text, p.artifacts)

theorem Settings.prepare_of_check_error {α : Type} {settings : Settings α} {f : SourceFile} {e : InputError}
    (h : f.check settings.maxBytes = .error e) (s : Store) : settings.prepare f s = .error (.input e) := by
  simp [prepare, h, Except.mapError, bind, Except.bind]

/-- A source that passes the check is prepared with what the store hands out for its text. -/
theorem Settings.prepare_of_check {α : Type} {settings : Settings α} {f : SourceFile}
    (h : f.check settings.maxBytes = .ok ()) (s : Store) :
    settings.prepare f s = ((s.getOrDerive f.text settings.deriveOptions).mapError .lex).map fun r =>
      (⟨f.filename, f.encoding, f.text, r.1⟩, r.2) := by
  simp only [prepare, h]
  cases s.getOrDerive f.text settings.deriveOptions <;> rfl

namespace Store

/-! ### Calls -/

/-- What a store can be asked to do. -/
inductive Call where
  | getOrDerive (text : String) (o : DeriveOptions)
  | get (digest : String)
  | clear
deriving DecidableEq

/-- The store after a call. A call that fails leaves it as it is. -/
def after (s : Store) : Call → Store
  | .getOrDerive text o => match s.getOrDerive text o with
    | .ok (_, s') => s'
    | .error _ => s
  | .get _ => s
  | .clear => s.clear

def run (s : Store) (calls : List Call) : Store := calls.foldl after s

/-- The options of a call that asks for a text, if artifacts can be made under them. -/
def Call.options? (text : String) : Call → Option DeriveOptions
  | .getOrDerive t o => if t = text ∧ (Artifacts.derive text o).isOk then some o else none
  | _ => none

/-- The options of the first call since the last `clear` that can make the artifacts of a text. -/
def firstOptions? (calls : List Call) (text : String) : Option DeriveOptions :=
  (calls.rtakeWhile (· != .clear)).findSome? (Call.options? text)

/-- No other text that the calls ask for has the digest of `text`. -/
def NoClash (calls : List Call) (text : String) : Prop :=
  ∀ t o, .getOrDerive t o ∈ calls → contentDigest t = contentDigest text → t = text

/-- The artifacts that a store has for a text. -/
def value? (s : Store) (text : String) : Option Artifacts :=
  (s.get? (contentDigest text)).map (·.value)

/-! ### One call -/

variable {s : Store} {text t : String} {o : DeriveOptions}

theorem getOrDerive_of_kept {kept : Shared} (h : s.get? (contentDigest text) = some kept) :
    s.getOrDerive text o = .ok (kept, s) := by
  simp [getOrDerive, h]

theorem getOrDerive_of_none (h : s.get? (contentDigest text) = none) :
    s.getOrDerive text o = (Artifacts.derive text o).map fun a =>
      (⟨⟨s.number, s.kept⟩, a⟩,
        { s with
          kept := s.kept + 1
          entries := s.entries ++ [(contentDigest text, ⟨⟨s.number, s.kept⟩, a⟩)] }) := by
  simp only [getOrDerive, h]
  cases Artifacts.derive text o with
  | error p => rfl
  | ok a => simp [bind, Except.bind, pure, Except.pure, Except.map, insertIfAbsent, h]

/-- A store hands out what it has, or else what it derives, which it then keeps under the next stamp. -/
theorem getOrDerive_eq_ok {kept : Shared} {s' : Store} (h : s.getOrDerive text o = .ok (kept, s')) :
    (s.get? (contentDigest text) = some kept ∧ s' = s) ∨
      (s.get? (contentDigest text) = none ∧ Artifacts.derive text o = .ok kept.value ∧
        kept.stamp = ⟨s.number, s.kept⟩ ∧
        s' = { s with kept := s.kept + 1, entries := s.entries ++ [(contentDigest text, kept)] }) := by
  cases hs : s.get? (contentDigest text) with
  | some old =>
    rw [getOrDerive_of_kept hs] at h
    obtain ⟨rfl, rfl⟩ := Prod.mk.inj (Except.ok.inj h)
    exact .inl ⟨rfl, rfl⟩
  | none =>
    rw [getOrDerive_of_none hs] at h
    cases hderive : Artifacts.derive text o with
    | error p => rw [hderive] at h; cases h
    | ok a =>
      rw [hderive] at h
      obtain ⟨rfl, rfl⟩ := Prod.mk.inj (Except.ok.inj h)
      exact .inr ⟨rfl, rfl, rfl, rfl⟩

theorem exists_getOrDerive (s : Store) (text : String) (ho : o.lex.version ≠ 0) :
    ∃ kept s', s.getOrDerive text o = .ok (kept, s') := by
  cases hs : s.get? (contentDigest text) with
  | some kept => exact ⟨kept, s, getOrDerive_of_kept hs⟩
  | none =>
    obtain ⟨a, ha⟩ := Artifacts.exists_derive text ho
    exact ⟨_, _, by rw [getOrDerive_of_none hs, ha]; rfl⟩

theorem getOrDerive_value (s : Store) (text : String) (o : DeriveOptions) :
    (s.getOrDerive text o).map (·.1.value) =
      match s.value? text with
      | some a => .ok a
      | none => Artifacts.derive text o := by
  unfold value?
  cases hs : s.get? (contentDigest text) with
  | some kept => rw [getOrDerive_of_kept hs]; rfl
  | none =>
    rw [getOrDerive_of_none hs]
    cases Artifacts.derive text o with
    | error p => rfl
    | ok a => rfl

theorem value?_after_same (s : Store) (text : String) (o : DeriveOptions) :
    (s.after (.getOrDerive text o)).value? text =
      (s.value? text).or (Artifacts.derive text o).toOption := by
  cases hs : s.get? (contentDigest text) with
  | some kept => simp [after, getOrDerive_of_kept hs, value?, hs]
  | none =>
    simp only [after, getOrDerive_of_none hs]
    cases Artifacts.derive text o with
    | error p => simp [Except.map, Except.toOption]
    | ok a =>
      unfold value? get? at *
      simp [Except.map, Except.toOption, List.lookup_append, hs]

theorem value?_after_other (hne : contentDigest t ≠ contentDigest text) :
    (s.after (.getOrDerive t o)).value? text = s.value? text := by
  cases hs : s.get? (contentDigest t) with
  | some kept => simp [after, getOrDerive_of_kept hs]
  | none =>
    simp only [after, getOrDerive_of_none hs]
    cases Artifacts.derive t o with
    | error p => rfl
    | ok a =>
      have hbeq : (contentDigest text == contentDigest t) = false := by
        simpa using fun h => hne h.symm
      simp [Except.map, value?, get?, List.lookup_append, List.lookup_cons, hbeq]

/-! ### All calls -/

theorem firstOptions?_concat_clear (calls : List Call) (text : String) :
    firstOptions? (calls ++ [.clear]) text = none := by
  simp [firstOptions?]

theorem firstOptions?_concat {c : Call} (calls : List Call) (text : String) (hc : c ≠ .clear) :
    firstOptions? (calls ++ [c]) text = (firstOptions? calls text).or (c.options? text) := by
  unfold firstOptions?
  rw [List.rtakeWhile_concat_pos _ _ _ (by simpa using hc), List.findSome?_append]
  cases h : c.options? text <;> simp [List.findSome?, h]

theorem Call.eq_of_options? {c : Call} (h : c.options? text = some o) :
    c = .getOrDerive text o ∧ ∃ a, Artifacts.derive text o = .ok a := by
  cases c with
  | get d => simp [options?] at h
  | clear => simp [options?] at h
  | getOrDerive t o' =>
    simp only [options?, Option.ite_none_right_eq_some, Option.some.injEq] at h
    obtain ⟨⟨rfl, hok⟩, rfl⟩ := h
    cases hd : Artifacts.derive t o' with
    | error p => rw [hd] at hok; cases hok
    | ok a => exact ⟨rfl, a, rfl⟩

theorem mem_of_firstOptions? {calls : List Call} (h : firstOptions? calls text = some o) :
    .getOrDerive text o ∈ calls ∧ ∃ a, Artifacts.derive text o = .ok a := by
  obtain ⟨c, hc, hoptions⟩ := List.exists_of_findSome?_eq_some h
  obtain ⟨rfl, hderive⟩ := Call.eq_of_options? hoptions
  exact ⟨(List.rtakeWhile_suffix _ _).subset hc, hderive⟩

theorem NoClash.of_concat {calls : List Call} {c : Call} (h : NoClash (calls ++ [c]) text) :
    NoClash calls text :=
  fun t o hmem => h t o (List.mem_append_left _ hmem)

/-- After any calls a store has for a text what the first options that could make it give. -/
theorem value?_run (number : Nat) (calls : List Call) (h : NoClash calls text) :
    (run { number } calls).value? text =
      (firstOptions? calls text).bind fun o => (Artifacts.derive text o).toOption := by
  induction calls using List.reverseRecOn with
  | nil => rfl
  | append_singleton calls c ih =>
    have ih := ih h.of_concat
    have hrun : run { number } (calls ++ [c]) = (run { number } calls).after c := by
      simp [run]
    rw [hrun]
    cases c with
    | clear => rw [firstOptions?_concat_clear]; rfl
    | get d =>
      rw [firstOptions?_concat _ _ (by simp)]
      simpa [Call.options?, after] using ih
    | getOrDerive t o =>
      rw [firstOptions?_concat _ _ (by simp)]
      by_cases ht : t = text
      · subst ht
        rw [value?_after_same, ih]
        cases hfirst : firstOptions? calls t with
        | some o₀ =>
          obtain ⟨-, a, ha⟩ := mem_of_firstOptions? hfirst
          simp [ha, Except.toOption]
        | none =>
          cases hd : Artifacts.derive t o with
          | error p => simp [Call.options?, hd, Except.toOption, Except.isOk, Except.toBool]
          | ok a => simp [Call.options?, hd, Except.toOption, Except.isOk, Except.toBool]
      · have hne : contentDigest t ≠ contentDigest text :=
          fun hdigest => ht (h t o (by simp) hdigest)
        rw [value?_after_other hne, ih]
        simp [Call.options?, ht]

/-! ### Prepared sources -/

variable {α : Type}

theorem prepare_parts (settings : Settings α) (f : SourceFile) (s : Store) :
    (settings.prepare f s).map (·.1.parts) =
      match f.check settings.maxBytes with
      | .error e => .error (.input e)
      | .ok _ =>
        match (s.getOrDerive f.text settings.deriveOptions).map (·.1.value) with
        | .error e => .error (.lex e)
        | .ok a => .ok (f.filename, f.encoding, f.text, a) := by
  unfold Settings.prepare
  cases f.check settings.maxBytes with
  | error e => rfl
  | ok u =>
    cases s.getOrDerive f.text settings.deriveOptions with
    | error p => rfl
    | ok r => rfl

theorem prepare_parts_eq_iff (settings : Settings α) (f : SourceFile) (s s' : Store) :
    (settings.prepare f s).map (·.1.parts) = (settings.prepare f s').map (·.1.parts) ↔
      (f.check settings.maxBytes = .ok () →
        (s.getOrDerive f.text settings.deriveOptions).map (·.1.value) =
          (s'.getOrDerive f.text settings.deriveOptions).map (·.1.value)) := by
  rw [prepare_parts, prepare_parts]
  cases f.check settings.maxBytes with
  | error e => simp
  | ok u =>
    cases (s.getOrDerive f.text settings.deriveOptions).map (·.1.value) <;>
      cases (s'.getOrDerive f.text settings.deriveOptions).map (·.1.value) <;> simp

/-- Every answer for a text, also within `prepare`, is what the first options since the last `clear`
give that could make its artifacts. So a store shows exactly where these give something else. -/
theorem answers_follow_first_options (number : Nat) (calls : List Call) (text : String)
    (h : NoClash calls text) :
    let store := run { number } calls
    let first := firstOptions? calls text
    (∀ o, (store.getOrDerive text o).map (·.1.value) = Artifacts.derive text (first.getD o)) ∧
    (store.get? (contentDigest text)).map (·.value) =
      first.bind (fun o => (Artifacts.derive text o).toOption) ∧
    (∀ o,
      (∀ o', .getOrDerive text o' ∈ calls → Artifacts.derive text o' = Artifacts.derive text o) →
        (store.getOrDerive text o).map (·.1.value) = Artifacts.derive text o) ∧
    ∀ (settings : Settings α) (f : SourceFile), f.text = text →
      ((settings.prepare f store).map (·.1.parts) = (settings.prepare f {}).map (·.1.parts) ↔
        (f.check settings.maxBytes = .ok () →
          Artifacts.derive text (first.getD settings.deriveOptions) =
            Artifacts.derive text settings.deriveOptions)) := by
  intro store first
  have hvalue : store.value? text = first.bind fun o => (Artifacts.derive text o).toOption :=
    value?_run number calls h
  have hanswer : ∀ o,
      (store.getOrDerive text o).map (·.1.value) = Artifacts.derive text (first.getD o) := by
    intro o
    rw [getOrDerive_value, hvalue]
    cases hfirst : first with
    | none => rfl
    | some o₀ =>
      obtain ⟨-, a, ha⟩ := mem_of_firstOptions? hfirst
      simp [ha, Except.toOption]
  refine ⟨hanswer, hvalue, ?_, ?_⟩
  · intro o hsame
    rw [hanswer]
    cases hfirst : first with
    | none => rfl
    | some o₀ => exact hsame o₀ (mem_of_firstOptions? hfirst).1
  · rintro settings f rfl
    rw [prepare_parts_eq_iff, hanswer, getOrDerive_value]
    rfl

theorem answers_follow_first_options_two_texts :
    let calls : List Call := [.getOrDerive "x = 1\n" { fingerprint := { k := 7 } }, .clear,
      .getOrDerive "y = 2\n" {}, .getOrDerive "x = 1\n" { fingerprint := { k := 3 } },
      .get (contentDigest "y = 2\n")]
    NoClash calls "x = 1\n" ∧
      ((run { number := 0 } calls).getOrDerive "x = 1\n" {}).map (·.1.value) =
        Artifacts.derive "x = 1\n" { fingerprint := { k := 3 } } := by
  intro calls
  have hclash : NoClash calls "x = 1\n" := by
    have hdigest : contentDigest "y = 2\n" ≠ contentDigest "x = 1\n" := by decide +kernel
    intro t o hmem heq
    simp only [calls, List.mem_cons, Call.getOrDerive.injEq, reduceCtorEq, false_or,
      List.not_mem_nil, or_false] at hmem
    rcases hmem with ⟨rfl, -⟩ | ⟨rfl, -⟩ | ⟨rfl, -⟩
    · rfl
    · exact absurd heq hdigest
    · rfl
  have hfirst : firstOptions? calls "x = 1\n" = some { fingerprint := { k := 3 } } := by
    decide +kernel
  refine ⟨hclash, ?_⟩
  rw [(answers_follow_first_options (α := Rat) 0 calls _ hclash).1, hfirst]
  rfl

/-- The options of a later call are not looked at. -/
theorem later_options_ignored :
    let calls : List Call := [.getOrDerive "x = 1\n" { fingerprint := { k := 3 } }]
    NoClash calls "x = 1\n" ∧
      ∃ kept s, (run { number := 0 } calls).getOrDerive "x = 1\n" {} = .ok (kept, s) ∧
        Artifacts.derive "x = 1\n" {} ≠ .ok kept.value := by
  intro calls
  have hclash : NoClash calls "x = 1\n" := by simp [NoClash, calls]
  have hfirst : firstOptions? calls "x = 1\n" = some { fingerprint := { k := 3 } } := by
    decide +kernel
  obtain ⟨-, a, ha⟩ := mem_of_firstOptions? hfirst
  have hvalue : (run { number := 0 } calls).value? "x = 1\n" = some a := by
    rw [value?_run 0 calls hclash, hfirst]
    simp [ha, Except.toOption]
  obtain ⟨kept, hkept, rfl⟩ := Option.map_eq_some_iff.mp hvalue
  refine ⟨hclash, kept, _, getOrDerive_of_kept hkept, ?_⟩
  exact Artifacts.derive_ne rfl rfl (by decide) ha

end Store

/-! ### Refusals -/

/-- Only the check of a source refuses it. -/
theorem Settings.exists_of_prepare_eq_error {α : Type} {settings : Settings α} {f : SourceFile} {s : Store}
    {e : CompareError α} (h : settings.prepare f s = .error e) :
    ∃ e', e = .input e' ∧ f.check settings.maxBytes = .error e' := by
  cases hcheck : f.check settings.maxBytes with
  | error e' =>
    rw [prepare_of_check_error hcheck] at h
    cases h
    exact ⟨e', rfl, rfl⟩
  | ok u =>
    have hversion : settings.deriveOptions.lex.version ≠ 0 := Nat.one_ne_zero
    obtain ⟨kept, s', hr⟩ := s.exists_getOrDerive f.text hversion
    rw [prepare_of_check hcheck, hr] at h
    cases h

end Likeness
