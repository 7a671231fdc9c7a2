import Likeness.Proofs.Fingerprint.Gram
import Likeness.Proofs.Fingerprint.Share
import Likeness.Proofs.Fingerprint.Winnow

/-!
# Shared runs give shared fingerprints

A run of `w + k - 1` tokens has `w` hashes, which fill a window.  What winnowing selects of them does not depend on
the tokens around the run, so every fingerprint of the run is a fingerprint of each text that the run stands in
(`hashes_subset_of_part`).  Of the hash of a token nothing is used but that it is a function.
-/

namespace Likeness.Fingerprint

/-! ### Options that are accepted -/

theorem Options.check_eq_ok_iff {o : Options} : o.check = .ok () ↔ 0 < o.version ∧ 0 < o.k ∧ 0 < o.w := by
  rw [Options.check]
  by_cases hv : o.version < 1
  · simp [hv]; omega
  · by_cases hk : o.k < 1
    · simp [hv, hk]; omega
    · by_cases hw : o.w < 1 <;> simp [hv, hk, hw] <;> omega

namespace PrintSet

/-! ### The fingerprints of a sequence -/

/-- Enough tokens have fingerprints: the hashes that winnowing selects, in increasing order. -/
theorem exists_ofTokens {o : Options} (ho : o.check = .ok ()) (tokens : List String) (hk : o.k ≤ tokens.length) :
    ∃ s, ofTokens tokens o = .ok s ∧ s.Increasing ∧
      ∀ v, v ∈ s.hashes ↔ ∃ m ∈ winnow (gramHashes tokens o.k o.seed) o.w, m.hash = v := by
  have hmade : ∃ origin, ofTokens tokens o =
      .ok (ofSelected (winnow (gramHashes tokens o.k o.seed) o.w) origin) := by
    rw [ofTokens, ho]
    simp only [if_neg (Nat.not_lt.2 hk)]
    exact ⟨_, rfl⟩
  obtain ⟨origin, hmade⟩ := hmade
  exact ⟨_, hmade, ofSelected_increasing _ origin, fun v => mem_hashes_ofSelected⟩

/-- Enough tokens have a fingerprint. -/
theorem size_pos {o : Options} (ho : o.check = .ok ()) {tokens : List String} (hk : o.k ≤ tokens.length)
    {s : PrintSet} (hs : ∀ v, v ∈ s.hashes ↔ ∃ m ∈ winnow (gramHashes tokens o.k o.seed) o.w, m.hash = v) :
    0 < s.size := by
  obtain ⟨-, hpos, -⟩ := Options.check_eq_ok_iff.1 ho
  have hgrams : gramHashes tokens o.k o.seed ≠ [] := by
    rw [← List.length_pos_iff, length_gramHashes tokens hpos]
    omega
  obtain ⟨m, hm⟩ := List.exists_mem_of_ne_nil _ fun hnil => hgrams (winnow_eq_nil_iff.1 hnil)
  have hlength := List.length_pos_of_mem ((hs m.hash).2 ⟨m, hm, rfl⟩)
  rwa [hashes, List.length_map] at hlength

/-- The hashes of a run of `w + k - 1` tokens fill a window. -/
theorem window_le_gramHashes {o : Options} (ho : o.check = .ok ()) {x : List String}
    (hx : o.w + o.k - 1 ≤ x.length) : max o.w 1 ≤ (gramHashes x o.k o.seed).length := by
  obtain ⟨-, hk, hw⟩ := Options.check_eq_ok_iff.1 ho
  rw [length_gramHashes x hk]
  omega

/-- A text that a long enough run stands in has all fingerprints of the run. -/
theorem hashes_subset_of_part {o : Options} (ho : o.check = .ok ()) {x : List String}
    (hx : o.w + o.k - 1 ≤ x.length) (p s : List String) {X A : PrintSet}
    (hX : ∀ v, v ∈ X.hashes ↔ ∃ m ∈ winnow (gramHashes x o.k o.seed) o.w, m.hash = v)
    (hA : ∀ v, v ∈ A.hashes ↔ ∃ m ∈ winnow (gramHashes (p ++ x ++ s) o.k o.seed) o.w, m.hash = v) :
    X.hashes ⊆ A.hashes := by
  obtain ⟨-, hk, -⟩ := Options.check_eq_ok_iff.1 ho
  intro v hv
  obtain ⟨m, hm, rfl⟩ := (hX v).1 hv
  exact (hA _).2 (winnow_part (gramHashes_part p x s hk o.seed) (window_le_gramHashes ho hx) hm)

/-- Texts that share a run of `w + k - 1` tokens have fingerprints, share all those of the run, and the run has
some. -/
theorem shared_run_guarantee {o : Options} (ho : o.check = .ok ()) {x : List String}
    (hx : o.w + o.k - 1 ≤ x.length) (p₁ s₁ p₂ s₂ : List String) :
    ∃ X A B, ofTokens x o = .ok X ∧ ofTokens (p₁ ++ x ++ s₁) o = .ok A ∧ ofTokens (p₂ ++ x ++ s₂) o = .ok B ∧
      X.hashes ⊆ A.hashes ∧ X.hashes ⊆ B.hashes ∧ X.size ≤ A.sharedCount B ∧ 1 ≤ X.size ∧
      (0 : ℚ) < (A.jaccard B).value ∧ (0 : Float) < (A.jaccard B).value := by
  obtain ⟨-, hk, hw⟩ := Options.check_eq_ok_iff.1 ho
  obtain ⟨X, hX, hXinc, hXmem⟩ := exists_ofTokens ho x (by omega)
  obtain ⟨A, hA, hAinc, hAmem⟩ := exists_ofTokens ho (p₁ ++ x ++ s₁) (by simp; omega)
  obtain ⟨B, hB, hBinc, hBmem⟩ := exists_ofTokens ho (p₂ ++ x ++ s₂) (by simp; omega)
  have hXA := hashes_subset_of_part ho hx p₁ s₁ hXmem hAmem
  have hXB := hashes_subset_of_part ho hx p₂ s₂ hXmem hBmem
  have hshared := size_le_sharedCount hXinc hAinc hBinc hXA hXB
  have hsome : 1 ≤ X.size := by
    obtain ⟨m, hm⟩ := List.exists_mem_of_ne_nil _ (winnow_ne_nil (window_le_gramHashes ho hx))
    have hmem : m.hash ∈ X.hashes := (hXmem _).2 ⟨m, hm, rfl⟩
    have := List.length_pos_of_mem hmem
    rwa [hashes, List.length_map] at this
  have hpos : 0 < A.sharedCount B := Nat.lt_of_lt_of_le hsome hshared
  exact ⟨X, A, B, hX, hA, hB, hXA, hXB, hshared, hsome, jaccard_pos hAinc hBinc hpos, jaccard_pos hAinc hBinc hpos⟩

theorem shared_run_guarantee_three_tokens :
    let o : Options := { k := 2, w := 2 }
    let x := ["a", "b", "c"]
    o.check = .ok () ∧ o.w + o.k - 1 ≤ x.length ∧
    ∃ X A B, ofTokens x o = .ok X ∧ ofTokens (["p", "b"] ++ x ++ ["c"]) o = .ok A ∧
      ofTokens ([] ++ x ++ ["a", "q"]) o = .ok B ∧
      X.hashes ⊆ A.hashes ∧ X.hashes ⊆ B.hashes ∧ X.size ≤ A.sharedCount B ∧ 1 ≤ X.size ∧
      (0 : ℚ) < (A.jaccard B).value ∧ (0 : Float) < (A.jaccard B).value :=
  ⟨rfl, by decide, shared_run_guarantee rfl (by decide) ["p", "b"] ["c"] [] ["a", "q"]⟩

end PrintSet
end Likeness.Fingerprint
