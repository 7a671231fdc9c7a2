import Mathlib.Algebra.BigOperators.Fin
import Mathlib.Data.List.Basic
import Mathlib.Data.List.Infix
import Mathlib.Tactic.Common
import Likeness.Fingerprint.Gram

/-!
# The hash of a run depends on the run only

The rolling step takes the hash of a run to the hash of the next one (`gram_roll`), so the rolled hashes are those
of the runs one by one (`gramHashes_eq`).  Hence the hashes of a sequence stand in a row among those of any sequence
that it is a part of (`gramHashes_part`), and each is the value of a polynomial (`gramHashes_polynomial`).
-/

namespace Likeness.Fingerprint

/-! ### One rolling step -/

theorem foldl_gram (b a : UInt64) (run : List UInt64) :
    run.foldl (fun h t => h * b + t) a = a * power b run.length + gram b run := by
  induction run generalizing a with
  | nil => simp [power, gram]
  | cons t run ih =>
    have e : gram b (t :: run) = t * power b run.length + gram b run := by
      rw [gram, List.foldl_cons, ih]
      grind
    rw [List.foldl_cons, ih, e, List.length_cons, power]
    grind

theorem gram_cons (b t : UInt64) (run : List UInt64) :
    gram b (t :: run) = t * power b run.length + gram b run := by
  rw [gram, List.foldl_cons, foldl_gram]
  grind

theorem gram_concat (b t : UInt64) (run : List UInt64) : gram b (run ++ [t]) = gram b run * b + t := by
  simp [gram]

/-- The token that leaves is taken out and the one that enters is put in. -/
theorem gram_roll (b old new : UInt64) (run : List UInt64) :
    (gram b (old :: run) - old * power b run.length) * b + new = gram b (run ++ [new]) := by
  rw [gram_cons, gram_concat]
  grind

/-! ### All runs -/

/-- The runs of `k` elements of a sequence, from left to right. -/
def runs {α : Type} (k : Nat) (xs : List α) : List (List α) :=
  (List.range (xs.length + 1 - k)).map fun i => (xs.drop i).take k

theorem runs_cons {α : Type} {k : Nat} (x : α) {xs : List α} (hk : k ≤ xs.length) :
    runs k (x :: xs) = (x :: xs).take k :: runs k xs := by
  rw [runs, List.length_cons, show xs.length + 1 + 1 - k = xs.length + 1 - k + 1 by omega,
    List.range_succ_eq_map, List.map_cons, List.map_map]
  rfl

theorem runs_self {α : Type} (xs : List α) : runs xs.length xs = [xs] := by
  simp [runs, List.range_succ]

theorem runs_part {α : Type} (k : Nat) (p xs s : List α) :
    runs k xs <:+: runs k (p ++ xs ++ s) := by
  rcases Nat.lt_or_ge xs.length k with hlt | hge
  · simp [runs, show xs.length + 1 - k = 0 by omega]
  · -- the runs before, those inside `xs`, and those after
    have hlen : (p ++ xs ++ s).length + 1 - k = p.length + (xs.length + 1 - k) + s.length := by
      simp; omega
    rw [runs, runs, hlen, List.range_add, List.range_add, List.map_append, List.map_append, List.map_map]
    refine ⟨_, _, congrArg (_ ++ · ++ _) (List.map_congr_left fun i hi => ?_)⟩
    have hi := List.mem_range.1 hi
    simp only [Function.comp, List.append_assoc]
    rw [List.drop_length_add_append, List.drop_append_of_le_length (by omega),
      List.take_append_of_le_length (by simp; omega)]

theorem roll_eq {b : UInt64} {k : Nat} (hk : 0 < k) : ∀ {hs : List UInt64}, k ≤ hs.length →
    roll b (power b (k - 1)) (gram b (hs.take k)) (hs.zip (hs.drop k)) = (runs k hs).map (gram b) := by
  intro hs
  induction hs with
  | nil => intro h; simp at h; omega
  | cons old hs ih =>
    intro hlen
    rcases Nat.lt_or_ge hs.length k with hlt | hge
    · obtain rfl : k = (old :: hs).length := by simp at *; omega
      rw [runs_self, List.drop_length, List.take_length]
      rfl
    · -- the token that enters is the first one behind the run
      obtain ⟨m, rfl⟩ : ∃ m, k = m + 1 := ⟨k - 1, by omega⟩
      have hm : m < hs.length := hge
      have hdrop : (old :: hs).drop (m + 1) = hs[m] :: hs.drop (m + 1) := List.drop_eq_getElem_cons hm
      have htake : hs.take (m + 1) = hs.take m ++ [hs[m]] := (List.take_concat_get' hs m hm).symm
      have hnext := gram_roll b old hs[m] (hs.take m)
      rw [List.length_take, Nat.min_eq_left (Nat.le_of_lt hm), ← htake] at hnext
      rw [hdrop, List.zip_cons_cons, roll, runs_cons old hge, List.map_cons, ← ih hge, Nat.add_sub_cancel,
        List.take_succ_cons, hnext]

theorem gramHashes_eq (tokens : List String) {k : Nat} (hk : 0 < k) (seed : UInt64) :
    gramHashes tokens k seed = (runs k (tokens.map (tokenHash seed))).map (gram (base seed)) := by
  rw [gramHashes]
  split
  · rename_i hshort
    have hlt : tokens.length < k := by simp at hshort; omega
    simp [runs, show tokens.length + 1 - k = 0 by omega]
  · rename_i hlong
    exact roll_eq hk (by simp at hlong ⊢; omega)

theorem length_gramHashes (tokens : List String) {k : Nat} (hk : 0 < k) (seed : UInt64) :
    (gramHashes tokens k seed).length = tokens.length + 1 - k := by
  simp [gramHashes_eq tokens hk, runs]

/-- The hashes of a sequence stand in a row among those of a longer one. -/
theorem gramHashes_part (p xs s : List String) {k : Nat} (hk : 0 < k) (seed : UInt64) :
    gramHashes xs k seed <:+: gramHashes (p ++ xs ++ s) k seed := by
  rw [gramHashes_eq _ hk, gramHashes_eq _ hk, List.map_append, List.map_append]
  exact (runs_part k _ _ _).map _

/-! ### Hashes as polynomials -/

theorem toNat_power (b : UInt64) (n : Nat) : (power b n).toNat = b.toNat ^ n % 2 ^ 64 := by
  induction n with
  | zero => rfl
  | succ n ih => rw [power, UInt64.toNat_mul, ih, pow_succ b.toNat, Nat.mod_mul_mod]

/-- The hash of a run is the value of a polynomial at the base. The first element is the coefficient of the highest
power. -/
theorem toNat_gram_ofFn (b : UInt64) {k : Nat} (t : Fin k → UInt64) :
    (gram b (List.ofFn t)).toNat = (∑ j : Fin k, (t j).toNat * b.toNat ^ (k - 1 - j)) % 2 ^ 64 := by
  induction k with
  | zero => rfl
  | succ k ih =>
    -- the first element has the power `k`, and the others have the powers that they have without it
    have hpower : ∀ j : Fin k, k + 1 - 1 - (j.succ : Nat) = k - 1 - j := by
      intro j
      rw [Fin.val_succ]
      omega
    rw [List.ofFn_succ, gram_cons, UInt64.toNat_add, UInt64.toNat_mul, ih, toNat_power, List.length_ofFn,
      Fin.sum_univ_succ, Nat.mul_mod_mod, ← Nat.add_mod]
    simp only [hpower]
    rfl

theorem take_drop_eq_ofFn {α : Type} {xs : List α} {i k : Nat} (hi : i + k ≤ xs.length) :
    (xs.drop i).take k = List.ofFn fun j : Fin k => xs[i + j] := by
  refine List.ext_getElem (by simp; omega) fun n _ _ => ?_
  simp

theorem getElem?_runs {α : Type} {k i : Nat} {xs : List α} (hi : i + k ≤ xs.length) :
    (runs k xs)[i]? = some ((xs.drop i).take k) := by
  have hlt : i < xs.length + 1 - k := by omega
  simp [runs, hlt]

/-- There is a hash for each run of `k` tokens. It is that of the run alone: the polynomial with the hashes of the
tokens as coefficients, the first one at the highest power, at the base that the seed gives. -/
theorem gramHashes_polynomial (tokens : List String) (k : Nat) (seed : UInt64) :
    (k = 0 ∨ tokens.length < k → gramHashes tokens k seed = []) ∧
      (0 < k → k ≤ tokens.length →
        (gramHashes tokens k seed).length = tokens.length - k + 1 ∧
          ∀ (i : Nat) (hi : i + k ≤ tokens.length), ∃ h : UInt64,
            (gramHashes tokens k seed)[i]? = some h ∧ gramHashes ((tokens.drop i).take k) k seed = [h] ∧
              h.toNat = (∑ j : Fin k, (tokenHash seed tokens[i + j]).toNat *
                (1000003 ^^^ mixSeed seed).toNat ^ (k - 1 - j)) % 2 ^ 64) := by
  constructor
  · rintro (rfl | hshort)
    · rfl
    · simp [gramHashes, hshort]
  · intro hk hlong
    refine ⟨by rw [length_gramHashes tokens hk]; omega, fun i hi => ?_⟩
    let run := (tokens.drop i).take k
    have hlength : run.length = k := by simp [run]; omega
    refine ⟨gram (base seed) (run.map (tokenHash seed)), ?_, ?_, ?_⟩
    · rw [gramHashes_eq tokens hk, List.getElem?_map, getElem?_runs (by simpa using hi), Option.map_some,
        ← List.map_drop, ← List.map_take]
    · have hruns := runs_self (run.map (tokenHash seed))
      rw [List.length_map, hlength] at hruns
      rw [gramHashes_eq _ hk, hruns, List.map_singleton]
    · have hrun : run.map (tokenHash seed) = List.ofFn fun j : Fin k => tokenHash seed tokens[i + j] := by
        simp only [run, take_drop_eq_ofFn hi, List.map_ofFn]
        rfl
      rw [hrun, toNat_gram_ofFn]
      rfl

theorem gramHashes_polynomial_three_tokens :
    let tokens := ["x", "=", "x"]
    let hash := fun t : String => (tokenHash 7 t).toNat
    let b := (1000003 ^^^ mixSeed 7).toNat
    0 < 2 ∧ 2 ≤ tokens.length ∧ gramHashes tokens 0 7 = [] ∧ gramHashes tokens 4 7 = [] ∧
      (gramHashes tokens 2 7).length = 2 ∧
      ∃ h : UInt64, (gramHashes tokens 2 7)[1]? = some h ∧ gramHashes ["=", "x"] 2 7 = [h] ∧
        h.toNat = (hash "=" * b + hash "x") % 2 ^ 64 := by
  intro tokens hash b
  obtain ⟨hcount, hruns⟩ := (gramHashes_polynomial tokens 2 7).2 (by decide) (by decide)
  obtain ⟨h, hat, halone, hvalue⟩ := hruns 1 (by decide)
  refine ⟨by decide, by decide, (gramHashes_polynomial tokens 0 7).1 (.inl rfl),
    (gramHashes_polynomial tokens 4 7).1 (.inr (by decide)), hcount, h, hat, halone, ?_⟩
  rw [hvalue, Fin.sum_univ_two]
  show (hash "=" * b ^ 1 + hash "x" * b ^ 0) % 2 ^ 64 = _
  rw [pow_one, pow_zero, mul_one]

end Likeness.Fingerprint
