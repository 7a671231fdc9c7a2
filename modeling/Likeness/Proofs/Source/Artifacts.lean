import Likeness.Proofs.Fingerprint.Guarantee
import Likeness.Proofs.Lex.Scan
import Likeness.Source.Artifacts

/-!
# Source files and their artifacts

What the tokens of a text are hashed by is told by its pieces (`hashKeys_of_lex`), and there are as many
of these keys as tokens. So a text with `k` tokens or more has fingerprints (`exists_prints`).
-/

namespace Likeness

/-! ### Source files -/

theorem SourceFile.check_eq_ok_iff (f : SourceFile) (maxBytes : Nat) :
    f.check maxBytes = .ok () ↔ f.text.utf8ByteSize ≤ maxBytes ∧ isBlankText f.text.toList = false := by
  unfold check
  by_cases hbytes : maxBytes < f.text.utf8ByteSize
  · simp [hbytes]
  · cases hblank : isBlankText f.text.toList <;> simp [hbytes]
    omega

theorem SourceFile.check_eq_error {f : SourceFile} {maxBytes : Nat} {e : InputError}
    (h : f.check maxBytes = .error e) :
    e = .empty f.filename ∨ e = .tooLarge f.filename f.text.utf8ByteSize maxBytes := by
  unfold check at h
  simp only at h
  split at h
  · cases h
    exact .inr rfl
  · split at h
    · cases h
      exact .inl rfl
    · cases h

/-! ### Streams -/

namespace Lex

theorem lex_eq_ok {source : String} {o : Options} {s : Stream} (h : lex source o = .ok s) :
    s.text = sourceText source o.normalizeUnicode ∧ s.tokens = (scan s.text).1 ∧ s.problems = (scan s.text).2 := by
  unfold lex at h
  cases hcheck : o.check with
  | error p => rw [hcheck] at h; cases h
  | ok u => rw [hcheck] at h; cases h; exact ⟨rfl, rfl, rfl⟩

/-- What the tokens of a text that was read are hashed by is told by its pieces. -/
theorem hashKeys_of_lex {source : String} {o : Options} {s : Stream} (h : lex source o = .ok s) :
    s.hashKeys = hashKeys s.text.toList := by
  obtain ⟨-, htokens, -⟩ := lex_eq_ok h
  rw [Stream.hashKeys, htokens, hashKeysFrom_scan]

theorem length_hashKeys_of_lex {source : String} {o : Options} {s : Stream} (h : lex source o = .ok s) :
    s.hashKeys.length = s.tokens.length := by
  obtain ⟨-, htokens, -⟩ := lex_eq_ok h
  rw [hashKeys_of_lex h, length_hashKeys, ← htokens]

end Lex

/-! ### Artifacts -/

namespace Artifacts

variable {text : String} {o : DeriveOptions} {a : Artifacts}

/-- Only the options of the first stage can be at fault. -/
theorem derive_isOk_iff (text : String) (o : DeriveOptions) :
    (derive text o).isOk = true ↔ o.lex.version ≠ 0 := by
  unfold derive Lex.lex Lex.Options.check
  by_cases hv : o.lex.version = 0
  · simp [hv, bind, Except.bind, Except.isOk, Except.toBool]
  · simp [hv, bind, Except.bind, Except.isOk, Except.toBool, pure, Except.pure]

theorem exists_derive (text : String) (ho : o.lex.version ≠ 0) : ∃ a, derive text o = .ok a := by
  have hok := (derive_isOk_iff text o).2 ho
  cases hderive : derive text o with
  | error p => rw [hderive] at hok; cases hok
  | ok a => exact ⟨a, rfl⟩

theorem stream_of_derive (h : derive text o = .ok a) :
    Lex.lex text o.lex = .ok a.stream ∧ a.digest = contentDigest text := by
  unfold derive at h
  cases hs : Lex.lex text o.lex with
  | error p => rw [hs] at h; cases h
  | ok stream => rw [hs] at h; cases h; exact ⟨rfl, rfl⟩

theorem prints_of_derive (h : derive text o = .ok a) :
    a.prints = Fingerprint.PrintSet.ofTokens a.stream.hashKeys o.fingerprint := by
  unfold derive at h
  cases hs : Lex.lex text o.lex with
  | error p => rw [hs] at h; cases h
  | ok stream => rw [hs] at h; cases h; rfl

theorem tree_of_derive (h : derive text o = .ok a) : a.tree = Parse.normalTree a.stream.text o.parse := by
  unfold derive at h
  cases hs : Lex.lex text o.lex with
  | error p => rw [hs] at h; cases h
  | ok stream => rw [hs] at h; cases h; rfl

theorem length_hashKeys (h : derive text o = .ok a) : a.stream.hashKeys.length = a.tokenCount :=
  Lex.length_hashKeys_of_lex (stream_of_derive h).1

/-- Artifacts have fingerprints if there are enough tokens for one run. -/
theorem exists_prints (h : derive text o = .ok a) (ho : o.fingerprint.check = .ok ())
    (hk : o.fingerprint.k ≤ a.tokenCount) :
    ∃ P, a.prints = .ok P ∧ P.Increasing ∧ ∀ v, v ∈ P.hashes ↔ ∃ m ∈ Fingerprint.winnow
      (Fingerprint.gramHashes a.stream.hashKeys o.fingerprint.k o.fingerprint.seed) o.fingerprint.w, m.hash = v := by
  rw [prints_of_derive h]
  exact Fingerprint.PrintSet.exists_ofTokens ho _ (by rwa [length_hashKeys h])

/-- Artifacts have no fingerprints exactly if there are too few tokens for one run, and this is the reason. -/
theorem prints_eq_error_iff (h : derive text o = .ok a) (ho : o.fingerprint.check = .ok ()) (e : Fingerprint.Error) :
    a.prints = .error e ↔
      a.tokenCount < o.fingerprint.k ∧ e = .notEnoughTokens o.fingerprint.k a.tokenCount := by
  by_cases hk : o.fingerprint.k ≤ a.tokenCount
  · obtain ⟨P, hP, -⟩ := exists_prints h ho hk
    rw [hP]
    constructor
    · intro herror
      cases herror
    · rintro ⟨hfew, -⟩
      omega
  · have hfew : a.tokenCount < o.fingerprint.k := by omega
    have hprints : a.prints = .error (.notEnoughTokens o.fingerprint.k a.tokenCount) := by
      rw [prints_of_derive h, Fingerprint.PrintSet.ofTokens, ho, length_hashKeys h]
      simp [bind, Except.bind, hfew]
    rw [hprints]
    constructor
    · intro herror
      cases herror
      exact ⟨hfew, rfl⟩
    · rintro ⟨-, rfl⟩
      rfl

/-- Artifacts that have fingerprints have one at least. -/
theorem exists_prints_size_pos (h : derive text o = .ok a) (ho : o.fingerprint.check = .ok ())
    (hk : o.fingerprint.k ≤ a.tokenCount) : ∃ P, a.prints = .ok P ∧ P.Increasing ∧ 0 < P.size := by
  obtain ⟨P, hP, hinc, hmem⟩ := exists_prints h ho hk
  exact ⟨P, hP, hinc, Fingerprint.PrintSet.size_pos ho (by rwa [length_hashKeys h]) hmem⟩

/-- Fingerprints that artifacts have grow from mark to mark. -/
theorem prints_increasing (h : derive text o = .ok a) (ho : o.fingerprint.check = .ok ())
    {P : Fingerprint.PrintSet} (hP : a.prints = .ok P) : P.Increasing := by
  by_cases hk : o.fingerprint.k ≤ a.tokenCount
  · obtain ⟨Q, hQ, hinc, -⟩ := exists_prints h ho hk
    rw [hP] at hQ
    exact Except.ok.inj hQ ▸ hinc
  · have hfew := (prints_eq_error_iff h ho _).2 ⟨Nat.lt_of_not_le hk, rfl⟩
    rw [hP] at hfew
    cases hfew

end Artifacts
end Likeness
