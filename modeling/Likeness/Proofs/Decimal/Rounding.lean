import Mathlib.Algebra.Order.Ring.Nat
import Mathlib.Tactic.Linarith
import Mathlib.Tactic.Ring

/-!
# Rounding to 53 binary digits

A fraction is rounded to the nearest multiple of that power of two which leaves it 53 binary digits, or to the nearest
number where it has fewer (`RoundsTo`); of two that are equally near the even one is taken (`nearest`). Rounding keeps
the order of fractions (`RoundsTo.le`) and changes no number of 53 digits (`roundsTo_self`).
-/

namespace Likeness.Rounding

variable {n d n' d' r r' k : ℕ}

/-! ### The nearest natural number -/

/-- The natural number nearest to a fraction; of two the even one. -/
def nearest (n d : ℕ) : ℕ :=
  if 2 * (n % d) < d then n / d else if 2 * (n % d) = d then n / d + n / d % 2 else n / d + 1

theorem div_le_nearest (n d : ℕ) : n / d ≤ nearest n d := by
  unfold nearest
  split_ifs <;> omega

theorem nearest_le_succ (n d : ℕ) : nearest n d ≤ n / d + 1 := by
  unfold nearest
  split_ifs <;> omega

theorem nearest_mono (hd : 0 < d) (hd' : 0 < d') (h : n * d' ≤ n' * d) : nearest n d ≤ nearest n' d' := by
  have hquot : n / d ≤ n' / d' := by
    rw [Nat.le_div_iff_mul_le hd']
    refine Nat.le_of_mul_le_mul_right ?_ hd
    calc n / d * d' * d = n / d * d * d' := by ring
      _ ≤ n * d' := Nat.mul_le_mul_right d' (Nat.div_mul_le_self n d)
      _ ≤ n' * d := h
  rcases hquot.lt_or_eq with hlt | heq
  · exact (nearest_le_succ n d).trans ((Nat.succ_le_of_lt hlt).trans (div_le_nearest n' d'))
  · -- of two fractions between the same numbers the remainders tell which is greater
    have hrest : n % d * d' ≤ n' % d' * d := by
      have hn := Nat.div_add_mod n d
      have hn' := Nat.div_add_mod n' d'
      rw [← hn, ← hn', heq] at h
      linarith [mul_comm d d', mul_assoc d (n' / d') d', mul_assoc d' (n' / d') d,
        (by ring : d * (n' / d') * d' = d' * (n' / d') * d)]
    have hhalf : 2 * (n' % d') < d' → 2 * (n % d) < d := by
      intro hlt
      by_contra hge
      nlinarith
    have htie : 2 * (n' % d') = d' → 2 * (n % d) ≤ d := by
      intro htie
      by_contra hgt
      nlinarith
    unfold nearest
    rw [heq]
    split_ifs <;> omega

theorem nearest_congr (hd : 0 < d) (hd' : 0 < d') (h : n * d' = n' * d) : nearest n d = nearest n' d' :=
  le_antisymm (nearest_mono hd hd' h.le) (nearest_mono hd' hd h.ge)

theorem nearest_mul_self (m : ℕ) (hd : 0 < d) : nearest (m * d) d = m := by
  unfold nearest
  rw [Nat.mul_mod_left, Nat.mul_div_cancel m hd, if_pos (by omega)]

/-! ### Rounding at a power of two -/

/-- The power of two at which a fraction has 53 binary digits, or 0 where it has fewer. -/
structure Scale (n d k : ℕ) : Prop where
  upper : n < d * 2 ^ (k + 53)
  lower : k = 0 ∨ d * 2 ^ (k + 52) ≤ n

/-- A fraction is rounded to 53 binary digits. -/
def RoundsTo (n d r : ℕ) : Prop := ∃ k, Scale n d k ∧ r = nearest n (d * 2 ^ k) * 2 ^ k

theorem Scale.nearest_le (h : Scale n d k) (hd : 0 < d) : nearest n (d * 2 ^ k) ≤ 2 ^ 53 := by
  have hdiv : n / (d * 2 ^ k) < 2 ^ 53 := by
    rw [Nat.div_lt_iff_lt_mul (Nat.mul_pos hd (Nat.two_pow_pos k))]
    calc n < d * 2 ^ (k + 53) := h.upper
      _ = 2 ^ 53 * (d * 2 ^ k) := by ring
  exact (nearest_le_succ n (d * 2 ^ k)).trans hdiv

theorem Scale.le_nearest (h : Scale n d k) (hd : 0 < d) (hk : k ≠ 0) : 2 ^ 52 ≤ nearest n (d * 2 ^ k) := by
  have hdiv : 2 ^ 52 ≤ n / (d * 2 ^ k) := by
    rw [Nat.le_div_iff_mul_le (Nat.mul_pos hd (Nat.two_pow_pos k))]
    calc 2 ^ 52 * (d * 2 ^ k) = d * 2 ^ (k + 52) := by ring
      _ ≤ n := h.lower.resolve_left hk
  exact hdiv.trans (div_le_nearest n (d * 2 ^ k))

/-- The quotient tells the scale of a fraction, also when the fraction is moved by a power of two. -/
theorem scale_of_div {s i j : ℕ} (hd : 0 < d) (hsum : s + j = k + i) (hupper : n / d < 2 ^ (s + 53))
    (hlower : k = 0 ∨ 2 ^ (s + 52) ≤ n / d) : Scale (n * 2 ^ j) (d * 2 ^ i) k := by
  refine ⟨?_, hlower.imp_right fun hlower => ?_⟩
  · calc n * 2 ^ j < 2 ^ (s + 53) * d * 2 ^ j :=
          Nat.mul_lt_mul_of_pos_right ((Nat.div_lt_iff_lt_mul hd).1 hupper) (Nat.two_pow_pos j)
      _ = 2 ^ (s + j) * (d * 2 ^ 53) := by ring
      _ = d * 2 ^ i * 2 ^ (k + 53) := by rw [hsum]; ring
  · calc d * 2 ^ i * 2 ^ (k + 52) = 2 ^ (s + j) * (d * 2 ^ 52) := by rw [hsum]; ring
      _ = 2 ^ (s + 52) * d * 2 ^ j := by ring
      _ ≤ n * 2 ^ j := Nat.mul_le_mul_right _ ((Nat.le_div_iff_mul_le hd).1 hlower)

/-- Rounding keeps the order of fractions, also where they are rounded at different powers of two. -/
theorem RoundsTo.le (h : RoundsTo n d r) (h' : RoundsTo n' d' r') (hd : 0 < d) (hd' : 0 < d')
    (hle : n * d' ≤ n' * d) : r ≤ r' := by
  obtain ⟨k, hscale, rfl⟩ := h
  obtain ⟨k', hscale', rfl⟩ := h'
  rcases Nat.lt_trichotomy k k' with hlt | rfl | hgt
  · -- the power of two between the fractions separates them also when they are rounded
    calc nearest n (d * 2 ^ k) * 2 ^ k ≤ 2 ^ 53 * 2 ^ k := Nat.mul_le_mul_right _ (hscale.nearest_le hd)
      _ = 2 ^ 52 * 2 ^ (k + 1) := by ring
      _ ≤ nearest n' (d' * 2 ^ k') * 2 ^ k' :=
          Nat.mul_le_mul (hscale'.le_nearest hd' (by omega)) (Nat.pow_le_pow_right (by omega) hlt)
  · refine Nat.mul_le_mul_right _ (nearest_mono (Nat.mul_pos hd (Nat.two_pow_pos k))
      (Nat.mul_pos hd' (Nat.two_pow_pos k)) ?_)
    calc n * (d' * 2 ^ k) = n * d' * 2 ^ k := by ring
      _ ≤ n' * d * 2 ^ k := Nat.mul_le_mul_right _ hle
      _ = n' * (d * 2 ^ k) := by ring
  · exfalso
    have hlower : d * 2 ^ (k + 52) ≤ n := hscale.lower.resolve_left (by omega)
    have hpow : 2 ^ (k' + 53) ≤ 2 ^ (k + 52) := Nat.pow_le_pow_right (by omega) (by omega)
    have hlt : n' * d < n * d' := by
      calc n' * d < d' * 2 ^ (k' + 53) * d := Nat.mul_lt_mul_of_pos_right hscale'.upper hd
        _ ≤ d' * 2 ^ (k + 52) * d := Nat.mul_le_mul_right _ (Nat.mul_le_mul_left _ hpow)
        _ = d * 2 ^ (k + 52) * d' := by ring
        _ ≤ n * d' := Nat.mul_le_mul_right _ hlower
    omega

theorem RoundsTo.unique (h : RoundsTo n d r) (h' : RoundsTo n' d' r') (hd : 0 < d) (hd' : 0 < d')
    (heq : n * d' = n' * d) : r = r' :=
  le_antisymm (h.le h' hd hd' heq.le) (h'.le h hd' hd heq.ge)

/-- What a fraction is rounded to does not depend on how it is written. -/
theorem RoundsTo.congr (h : RoundsTo n d r) (hd : 0 < d) (hd' : 0 < d') (heq : n * d' = n' * d) :
    RoundsTo n' d' r := by
  obtain ⟨k, hscale, rfl⟩ := h
  have hk := Nat.two_pow_pos k
  refine ⟨k, ⟨?_, hscale.lower.imp id ?_⟩, ?_⟩
  · refine Nat.lt_of_mul_lt_mul_right (a := d) ?_
    calc n' * d = n * d' := heq.symm
      _ < d * 2 ^ (k + 53) * d' := Nat.mul_lt_mul_of_pos_right hscale.upper hd'
      _ = d' * 2 ^ (k + 53) * d := by ring
  · intro hlower
    refine Nat.le_of_mul_le_mul_right ?_ hd
    calc d' * 2 ^ (k + 52) * d = d * 2 ^ (k + 52) * d' := by ring
      _ ≤ n * d' := Nat.mul_le_mul_right _ hlower
      _ = n' * d := heq
  · rw [nearest_congr (Nat.mul_pos hd hk) (Nat.mul_pos hd' hk)]
    calc n * (d' * 2 ^ k) = n * d' * 2 ^ k := by ring
      _ = n' * (d * 2 ^ k) := by rw [heq]; ring

theorem roundsTo_self {m j : ℕ} (hm : m < 2 ^ 53) (hj : j = 0 ∨ 2 ^ 52 ≤ m) : RoundsTo (m * 2 ^ j) 1 (m * 2 ^ j) := by
  refine ⟨j, ⟨?_, hj.imp id ?_⟩, ?_⟩
  · calc m * 2 ^ j < 2 ^ 53 * 2 ^ j := Nat.mul_lt_mul_of_pos_right hm (Nat.two_pow_pos j)
      _ = 1 * 2 ^ (j + 53) := by ring
  · intro hm
    calc 1 * 2 ^ (j + 52) = 2 ^ 52 * 2 ^ j := by ring
      _ ≤ m * 2 ^ j := Nat.mul_le_mul_right _ hm
  · rw [one_mul, nearest_mul_self m (Nat.two_pow_pos j)]

/-- A number of at most 53 digits is kept at any power of two. -/
theorem roundsTo_mul_two_pow {m : ℕ} (hm : m < 2 ^ 53) (j : ℕ) : RoundsTo (m * 2 ^ j) 1 (m * 2 ^ j) := by
  rcases Nat.eq_zero_or_pos m with rfl | hpos
  · rw [Nat.zero_mul]
    exact roundsTo_self (m := 0) (j := 0) (by omega) (.inl rfl)
  · have hlog : m.log2 < 53 := (Nat.log2_lt hpos.ne').2 hm
    -- as many digits are moved into the mantissa as it has room for
    obtain ⟨t, ht⟩ : ∃ t, min j (52 - m.log2) = t := ⟨_, rfl⟩
    have hmove : m * 2 ^ j = m * 2 ^ t * 2 ^ (j - t) := by
      rw [Nat.mul_assoc, ← Nat.pow_add]
      congr 2
      omega
    rw [hmove]
    refine roundsTo_self ?_ ?_
    · calc m * 2 ^ t < 2 ^ (m.log2 + 1) * 2 ^ t := Nat.mul_lt_mul_of_pos_right Nat.lt_log2_self (Nat.two_pow_pos t)
        _ = 2 ^ (m.log2 + 1 + t) := by rw [← Nat.pow_add]
        _ ≤ 2 ^ 53 := Nat.pow_le_pow_right (by omega) (by omega)
    · by_cases hj : j - t = 0
      · exact .inl hj
      · refine .inr ?_
        calc 2 ^ 52 = 2 ^ m.log2 * 2 ^ t := by rw [← Nat.pow_add]; congr 1; omega
          _ ≤ m * 2 ^ t := Nat.mul_le_mul_right _ (Nat.log2_self_le hpos.ne')

theorem exists_roundsTo (n : ℕ) (hd : 0 < d) : ∃ r, RoundsTo n d r := by
  refine ⟨_, (n / d).log2 - 52, ⟨?_, ?_⟩, rfl⟩
  · have hlog : n / d < 2 ^ ((n / d).log2 + 1) := Nat.lt_log2_self
    have hpow : 2 ^ ((n / d).log2 + 1) ≤ 2 ^ ((n / d).log2 - 52 + 53) := Nat.pow_le_pow_right (by omega) (by omega)
    rw [mul_comm]
    exact (Nat.div_lt_iff_lt_mul hd).1 (hlog.trans_le hpow)
  · by_cases hk : (n / d).log2 - 52 = 0
    · exact .inl hk
    · have hne : n / d ≠ 0 := by
        intro hzero
        rw [hzero] at hk
        exact hk rfl
      have hsum : (n / d).log2 - 52 + 52 = (n / d).log2 := by omega
      rw [hsum, mul_comm]
      exact .inr ((Nat.le_div_iff_mul_le hd).1 (Nat.log2_self_le hne))

end Likeness.Rounding
