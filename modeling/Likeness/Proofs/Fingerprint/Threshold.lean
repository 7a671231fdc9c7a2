import Likeness.Proofs.Fingerprint.Guarantee
import Likeness.Proofs.Hash.Xxh3
import Likeness.Proofs.Settings.Check

/-!
# The length that options report as a guarantee

Options report the length from which on a shared run surely gives a shared fingerprint, `w + k - 1`. The sum is taken
in a machine word: where `w + k` is none, the options are accepted and report nothing (`guaranteeThreshold_overflows`).
What they report is the true length and a guarantee, and they report it exactly for `w + k < 2 ^ 64`
(`guaranteeThreshold_true_iff`). Runs of fewer than `k` tokens are no guarantee (`not_guarantees`): the hashes of single
bytes are all different, and so are those of two runs that differ in their last token.
-/

namespace Likeness.Fingerprint

/-! ### Sequences of a single run -/

theorem gramHashes_self {tokens : List String} (h : 0 < tokens.length) (seed : UInt64) :
    gramHashes tokens tokens.length seed = [gram (base seed) (tokens.map (tokenHash seed))] := by
  have hruns := runs_self (tokens.map (tokenHash seed))
  rw [List.length_map] at hruns
  rw [gramHashes_eq _ h, hruns, List.map_singleton]

theorem winnow_singleton (h : UInt64) (w : Nat) : winnow [h] w = [⟨h, 0⟩] := by
  simp [winnow, leastFrom]

theorem tokenHash_a_ne_b (seed : UInt64) : tokenHash seed "a" ≠ tokenHash seed "b" := by
  intro h
  have hbytes : (97 : UInt8) = 98 := (Hash.Xxh3.hash_byte_inj 97 98 seed).1 h
  exact absurd hbytes (by decide)

/-- Runs that differ in their last tokens have different hashes if these have. -/
theorem gram_concat_inj {b t t' : UInt64} {run : List UInt64} :
    gram b (run ++ [t]) = gram b (run ++ [t']) ↔ t = t' := by
  rw [gram_concat, gram_concat]
  exact UInt64.add_right_inj _

namespace PrintSet

/-- As many tokens as a run has give the one fingerprint of this run. -/
theorem exists_ofTokens_single {o : Options} (ho : o.check = .ok ()) {tokens : List String}
    (hk : tokens.length = o.k) :
    ∃ s, ofTokens tokens o = .ok s ∧ s.Increasing ∧
      ∀ v, v ∈ s.hashes ↔ v = gram (base o.seed) (tokens.map (tokenHash o.seed)) := by
  obtain ⟨-, hpos, -⟩ := Options.check_eq_ok_iff.1 ho
  obtain ⟨s, hs, hinc, hmem⟩ := exists_ofTokens ho tokens hk.ge
  refine ⟨s, hs, hinc, fun v => ?_⟩
  rw [hmem, ← hk, gramHashes_self (by omega), winnow_singleton]
  simp [eq_comm]

/-- Sequences of `k` tokens may agree in all but the last token, and share nothing. -/
theorem exists_unshared {o : Options} (ho : o.check = .ok ()) :
    ∃ A B, ofTokens (List.replicate (o.k - 1) "a" ++ ["a"]) o = .ok A ∧
      ofTokens (List.replicate (o.k - 1) "a" ++ ["b"]) o = .ok B ∧ A.sharedCount B = 0 := by
  obtain ⟨-, hpos, -⟩ := Options.check_eq_ok_iff.1 ho
  have hlength : ∀ last : String, (List.replicate (o.k - 1) "a" ++ [last]).length = o.k := by
    intro last
    simp
    omega
  obtain ⟨A, hA, hAinc, hAmem⟩ := exists_ofTokens_single ho (hlength "a")
  obtain ⟨B, hB, hBinc, hBmem⟩ := exists_ofTokens_single ho (hlength "b")
  refine ⟨A, B, hA, hB, ?_⟩
  rw [sharedCount_eq hAinc hBinc, Finset.card_eq_zero, ← Finset.disjoint_iff_inter_eq_empty]
  refine Finset.disjoint_left.2 fun v hv hv' => ?_
  have heq := ((hAmem v).1 (mem_hashes.2 hv)).symm.trans ((hBmem v).1 (mem_hashes.2 hv'))
  rw [List.map_append, List.map_append] at heq
  exact tokenHash_a_ne_b o.seed (gram_concat_inj.1 heq)

end PrintSet

namespace Options

/-! ### Guarantees -/

/-- Sequences of tokens that have fingerprints, and that share a run of `n` tokens, share a fingerprint. -/
def Guarantees (o : Options) (n : Nat) : Prop :=
  ∀ (x p₁ s₁ p₂ s₂ : List String) (A B : PrintSet), x.length = n →
    PrintSet.ofTokens (p₁ ++ x ++ s₁) o = .ok A → PrintSet.ofTokens (p₂ ++ x ++ s₂) o = .ok B →
    1 ≤ A.sharedCount B

theorem guarantees_of_le {o : Options} (ho : o.check = .ok ()) {n : Nat} (hn : o.w + o.k - 1 ≤ n) :
    o.Guarantees n := by
  intro x p₁ s₁ p₂ s₂ A B hx hA hB
  rw [← hx] at hn
  obtain ⟨-, hk, hw⟩ := check_eq_ok_iff.1 ho
  obtain ⟨X, -, hXinc, hXmem⟩ := PrintSet.exists_ofTokens ho x (by omega)
  obtain ⟨A', hA', hAinc, hAmem⟩ := PrintSet.exists_ofTokens ho (p₁ ++ x ++ s₁) (by simp; omega)
  obtain ⟨B', hB', hBinc, hBmem⟩ := PrintSet.exists_ofTokens ho (p₂ ++ x ++ s₂) (by simp; omega)
  obtain rfl := Except.ok.inj (hA.symm.trans hA')
  obtain rfl := Except.ok.inj (hB.symm.trans hB')
  have hleft := PrintSet.hashes_subset_of_part ho hn p₁ s₁ hXmem hAmem
  have hright := PrintSet.hashes_subset_of_part ho hn p₂ s₂ hXmem hBmem
  calc 1 ≤ X.size := PrintSet.size_pos ho (by omega) hXmem
    _ ≤ A.sharedCount B := PrintSet.size_le_sharedCount hXinc hAinc hBinc hleft hright

/-- A run that is shorter than those that are hashed is no guarantee. -/
theorem not_guarantees {o : Options} (ho : o.check = .ok ()) {n : Nat} (hn : n < o.k) : ¬ o.Guarantees n := by
  intro h
  obtain ⟨A, B, hA, hB, hshared⟩ := PrintSet.exists_unshared ho
  -- the shared run stands at the head of both sequences
  have hsplit : ∀ last : String, List.replicate (o.k - 1) "a" ++ [last] =
      [] ++ List.replicate n "a" ++ (List.replicate (o.k - 1 - n) "a" ++ [last]) := by
    intro last
    rw [List.nil_append, ← List.append_assoc, List.replicate_append_replicate, Nat.add_sub_cancel' (by omega)]
  rw [hsplit] at hA hB
  have hsome := h _ _ _ _ _ A B (List.length_replicate ..) hA hB
  omega

/-! ### The reported length -/

theorem guaranteeThreshold_eq_some_iff {o : Options} (ho : o.check = .ok ()) {n : Nat} :
    o.guaranteeThreshold = some n ↔ n = o.w + o.k - 1 ∧ o.w + o.k < 2 ^ 64 := by
  obtain ⟨-, hk, -⟩ := check_eq_ok_iff.1 ho
  have hsize : UInt64.size = 2 ^ 64 := rfl
  rw [guaranteeThreshold, hsize]
  split
  case isTrue hsum => rw [Option.some_inj, and_iff_left hsum.1, eq_comm]
  case isFalse hsum =>
    refine iff_of_false nofun fun h => hsum ⟨h.2, ?_⟩
    omega

theorem guarantees_of_guaranteeThreshold {o : Options} (ho : o.check = .ok ()) {n : Nat}
    (hn : o.guaranteeThreshold = some n) : o.Guarantees n :=
  guarantees_of_le ho ((guaranteeThreshold_eq_some_iff ho).1 hn).1.ge

/-- The length that accepted options report, also those of accepted settings, is the true one and a guarantee. They
report one exactly if `w + k` is a machine word. Lengths below that of a run are no guarantee. -/
theorem guaranteeThreshold_true_iff {α : Type} [Number α] :
    (∀ o : Options, o.check = .ok () →
      (∀ n, o.guaranteeThreshold = some n ↔ n = o.w + o.k - 1 ∧ o.w + o.k < 2 ^ 64) ∧
      (∀ n, o.guaranteeThreshold = some n → o.Guarantees n) ∧ ∀ n < o.k, ¬ o.Guarantees n) ∧
    ∀ s : Settings α, s.check = .ok () →
      (∀ n, s.fingerprintOptions.guaranteeThreshold = some n ↔ n = s.w + s.k - 1 ∧ s.w + s.k < 2 ^ 64) ∧
      (∀ n, s.fingerprintOptions.guaranteeThreshold = some n → s.fingerprintOptions.Guarantees n) ∧
      ∀ n < s.k, ¬ s.fingerprintOptions.Guarantees n := by
  have hoptions : ∀ o : Options, o.check = .ok () →
      (∀ n, o.guaranteeThreshold = some n ↔ n = o.w + o.k - 1 ∧ o.w + o.k < 2 ^ 64) ∧
      (∀ n, o.guaranteeThreshold = some n → o.Guarantees n) ∧ ∀ n < o.k, ¬ o.Guarantees n :=
    fun o ho => ⟨fun _ => guaranteeThreshold_eq_some_iff ho, fun _ => guarantees_of_guaranteeThreshold ho,
      fun _ => not_guarantees ho⟩
  refine ⟨hoptions, fun s hs => ?_⟩
  obtain ⟨-, hk, hw, -⟩ := s.check_eq_ok_iff.1 hs
  exact hoptions s.fingerprintOptions (s.fingerprintOptions_check_eq_ok hk hw)

/-- The longest guarantee that is reported, and that of the settings that hold if nothing is set. -/
theorem guaranteeThreshold_true_at_limit :
    let o : Options := { k := 2 ^ 63, w := 2 ^ 63 - 1 }
    let s : Settings ℚ := .default
    o.check = .ok () ∧ o.guaranteeThreshold = some (2 ^ 64 - 2) ∧ o.Guarantees (2 ^ 64 - 2) ∧
      s.check = .ok () ∧ s.fingerprintOptions.guaranteeThreshold = some 8 ∧ s.fingerprintOptions.Guarantees 8 := by
  intro o s
  have ho : o.check = .ok () := by decide
  have hs : s.check = .ok () := Settings.default_check
  obtain ⟨hlimit, hlimit', -⟩ := (guaranteeThreshold_true_iff (α := ℚ)).1 o ho
  obtain ⟨hdefault, hdefault', -⟩ := (guaranteeThreshold_true_iff (α := ℚ)).2 s hs
  have hvalue : o.guaranteeThreshold = some (2 ^ 64 - 2) := (hlimit _).2 (by decide)
  have hvalue' : s.fingerprintOptions.guaranteeThreshold = some 8 := (hdefault _).2 (by decide)
  exact ⟨ho, hvalue, hlimit' _ hvalue, hs, hvalue', hdefault' _ hvalue'⟩

/-- Past the limit no length is reported, although the options are accepted and there is a guarantee. -/
theorem guaranteeThreshold_overflows :
    let o : Options := { k := 2, w := 2 ^ 64 - 1 }
    o.check = .ok () ∧ o.w + o.k - 1 = 2 ^ 64 ∧ o.Guarantees (2 ^ 64) ∧ o.guaranteeThreshold = none := by
  intro o
  have ho : o.check = .ok () := by decide
  exact ⟨ho, by decide, guarantees_of_le ho (by decide), by decide⟩

end Options
end Likeness.Fingerprint
