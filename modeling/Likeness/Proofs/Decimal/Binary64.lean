import Mathlib
import Likeness.Proofs.Decimal.Rounding

/-!
# Floating-point numbers counted in units

A floating-point number that is not negative is a whole number of units of `2 ^ (-1074)`, the least of them
(`Counts`); infinity counts as the first power of two that is too large. In these units sums and quotients are rounded
as fractions are (`counts_add`, `counts_div`), up to `limit`.
-/

namespace Likeness.Binary64

open Rounding
open Float.Model Float.Model.UnpackedFloat

/-! ### Shifting a mantissa to the right -/

/-- A mantissa and what is known of the digits behind it stand for a fraction. -/
structure StandsFor (em : ExtendedMantissa) (n d : ℕ) : Prop where
  mantissa : em.mantissa = n / d
  round : em.roundBit = decide (d ≤ 2 * (n % d))
  sticky : em.stickyBit = decide (2 * (n % d) ≠ 0 ∧ 2 * (n % d) ≠ d)

variable {em : ExtendedMantissa} {n d : ℕ}

theorem standsFor_fraction (n : ℕ) (hd : 0 < d) :
    StandsFor (.ofMantissaAndAccuracy (n / d) (accuracyOfFraction (n % d) d)) n d := by
  unfold accuracyOfFraction
  split_ifs with hzero
  · refine ⟨rfl, ?_, ?_⟩ <;> simp [ExtendedMantissa.ofMantissaAndAccuracy, hzero]
    omega
  · rcases Nat.lt_trichotomy (2 * (n % d)) d with hlt | heq | hgt
    · have hcompare : compare (2 * (n % d)) d = .lt := Nat.compare_eq_lt.2 hlt
      rw [hcompare]
      refine ⟨rfl, ?_, ?_⟩ <;> simp [ExtendedMantissa.ofMantissaAndAccuracy] <;> omega
    · have hcompare : compare (2 * (n % d)) d = .eq := Nat.compare_eq_eq.2 heq
      rw [hcompare]
      refine ⟨rfl, ?_, ?_⟩ <;> simp [ExtendedMantissa.ofMantissaAndAccuracy] <;> omega
    · have hcompare : compare (2 * (n % d)) d = .gt := Nat.compare_eq_gt.2 hgt
      rw [hcompare]
      refine ⟨rfl, ?_, ?_⟩ <;> simp [ExtendedMantissa.ofMantissaAndAccuracy] <;> omega

/-- The remainder for twice the denominator has one more digit, the last of the quotient. -/
theorem mod_mul_two (n d : ℕ) : n % (d * 2) = n / d % 2 * d + n % d := by
  rw [Nat.mod_mul, mul_comm d, Nat.add_comm]

theorem StandsFor.shiftRightOne (h : StandsFor em n d) (hd : 0 < d) : StandsFor em.shiftRightOne n (d * 2) := by
  have hlt : n % d < d := Nat.mod_lt n hd
  have hrest := mod_mul_two n d
  have hdigit : n / d % 2 = 0 ∨ n / d % 2 = 1 := by omega
  refine ⟨?_, ?_, ?_⟩
  · show em.mantissa / 2 = n / (d * 2)
    rw [h.mantissa, Nat.div_div_eq_div_mul]
  · show (em.mantissa % 2 != 0) = decide (d * 2 ≤ 2 * (n % (d * 2)))
    rw [h.mantissa, hrest, Bool.eq_iff_iff, bne_iff_ne, decide_eq_true_eq]
    rcases hdigit with h0 | h1
    · rw [h0]
      omega
    · rw [h1]
      omega
  · show (em.roundBit || em.stickyBit) = decide (2 * (n % (d * 2)) ≠ 0 ∧ 2 * (n % (d * 2)) ≠ d * 2)
    rw [h.round, h.sticky, hrest, Bool.eq_iff_iff, Bool.or_eq_true, decide_eq_true_eq, decide_eq_true_eq,
      decide_eq_true_eq]
    rcases hdigit with h0 | h1
    · rw [h0]
      omega
    · rw [h1]
      omega

theorem StandsFor.shiftRight (h : StandsFor em n d) (hd : 0 < d) (s : ℕ) : StandsFor (em >>> s) n (d * 2 ^ s) := by
  induction s with
  | zero =>
    rw [Nat.pow_zero, Nat.mul_one]
    exact h
  | succ s ih =>
    rw [Nat.pow_succ, ← Nat.mul_assoc]
    exact ih.shiftRightOne (Nat.mul_pos hd (Nat.two_pow_pos s))

theorem StandsFor.roundedMantissa (h : StandsFor em n d) (hd : 0 < d) : em.roundedMantissa = nearest n d := by
  obtain ⟨m, round, sticky⟩ := em
  obtain ⟨rfl, rfl, rfl⟩ := h
  show Accuracy.roundToNearestEven (n / d) (ExtendedMantissa.accuracy ⟨n / d, _, _⟩) = nearest n d
  unfold nearest
  rcases Nat.lt_trichotomy (2 * (n % d)) d with hlt | heq | hgt
  · have hround : decide (d ≤ 2 * (n % d)) = false := decide_eq_false (by omega)
    rw [hround, if_pos hlt]
    cases decide (2 * (n % d) ≠ 0 ∧ 2 * (n % d) ≠ d) <;> rfl
  · have hround : decide (d ≤ 2 * (n % d)) = true := decide_eq_true (by omega)
    have hsticky : decide (2 * (n % d) ≠ 0 ∧ 2 * (n % d) ≠ d) = false := decide_eq_false (by omega)
    rw [hround, hsticky, if_neg (by omega), if_pos heq]
    rfl
  · have hround : decide (d ≤ 2 * (n % d)) = true := decide_eq_true (by omega)
    have hsticky : decide (2 * (n % d) ≠ 0 ∧ 2 * (n % d) ≠ d) = true := decide_eq_true (by omega)
    rw [hround, hsticky, if_neg (by omega), if_neg (by omega)]
    rfl

/-! ### Rounding a mantissa -/

/-- A number is so many units, all the digits of its mantissa being in their places. It may be too large. -/
def Rounded : UnpackedFloat → ℕ → Prop
  | .zero _, n => n = 0
  | .finite .positive m e _, n =>
    n = m * 2 ^ (e + 1074).toNat ∧ m < 2 ^ 53 ∧ -1074 ≤ e ∧ (2 ^ 52 ≤ m ∨ e = -1074)
  | _, _ => False

theorem Rounded.eq_zero_or_finite {x : UnpackedFloat} {n : ℕ} (h : Rounded x n) :
    (∃ s, x = .zero s ∧ n = 0) ∨ ∃ m e hpos, x = .finite .positive m e hpos := by
  cases x with
  | notANumber => exact h.elim
  | infinity s => exact h.elim
  | zero s => exact .inl ⟨s, rfl, h⟩
  | finite s m e hpos =>
    cases s with
    | negative => exact h.elim
    | positive => exact .inr ⟨m, e, hpos, rfl⟩

/-- The exponent at which a mantissa has 53 digits, or the least one. -/
def target (m : ℕ) (e : ℤ) : ℤ := max (m.log2 + 1 + e - 53) (-1074)

theorem shiftToTargetExponent_eq (m : ℕ) (e : ℤ) (accuracy : Accuracy) :
    shiftToTargetExponent .binary64 m e accuracy =
      (ExtendedMantissa.ofMantissaAndAccuracy m accuracy >>> (target m e - e).toNat, max e (target m e)) := by
  show (_, e + ((target m e - e).toNat : ℤ)) = _
  congr 1
  omega

theorem log2_lt_of_lt {m k : ℕ} (hk : 0 < k) (h : m < 2 ^ k) : m.log2 < k := by
  rcases Nat.eq_zero_or_pos m with rfl | hpos
  · exact hk
  · exact (Nat.log2_lt hpos.ne').2 h

/-- A mantissa of at most 53 digits is settled by at most one more shift. -/
theorem settle_eq {m : ℕ} {t : ℤ} (hm : m ≤ 2 ^ 53) (ht : -1074 ≤ t) :
    (m < 2 ^ 53 ∧ shiftToTargetExponent .binary64 m t .exact = (⟨m, false, false⟩, t)) ∨
      (m = 2 ^ 53 ∧ shiftToTargetExponent .binary64 m t .exact = (⟨2 ^ 52, false, false⟩, t + 1)) := by
  rw [shiftToTargetExponent_eq]
  rcases hm.lt_or_eq with hlt | rfl
  · have hlog := log2_lt_of_lt (by omega) hlt
    have htarget : target m t ≤ t := by
      unfold target
      omega
    have hshift : (target m t - t).toNat = 0 := by omega
    rw [hshift, max_eq_left htarget]
    exact .inl ⟨hlt, rfl⟩
  · have htarget : target (2 ^ 53) t = t + 1 := by
      unfold target
      rw [Nat.log2_two_pow]
      omega
    have hshift : (t + 1 - t).toNat = 1 := by omega
    rw [htarget, hshift, max_eq_right (by omega)]
    exact .inr ⟨rfl, rfl⟩

theorem rounded_mantissa {m n : ℕ} {e : ℤ} (hn : n = m * 2 ^ (e + 1074).toNat) (hm : m < 2 ^ 53) (he : -1074 ≤ e)
    (hlow : 2 ^ 52 ≤ m ∨ e = -1074) :
    Rounded (if h : m = 0 then .zero .positive else .finite .positive m e (Nat.pos_of_ne_zero h)) n := by
  split_ifs with hzero
  · show n = 0
    rw [hn, hzero, Nat.zero_mul]
  · exact ⟨hn, hm, he, hlow⟩

/-- A mantissa that is rounded to at most 53 digits, none of them behind the least exponent, is settled. -/
theorem rounded_settle {m r : ℕ} {e t : ℤ} {accuracy : Accuracy}
    (hfirst : shiftToTargetExponent .binary64 m e accuracy = (em, t)) (hround : em.roundedMantissa = r)
    (hr : r ≤ 2 ^ 53) (ht : -1074 ≤ t) (hlow : 2 ^ 52 ≤ r ∨ t = -1074) :
    Rounded (roundWithAccuracy .binary64 .positive m e accuracy) (r * 2 ^ (t + 1074).toNat) := by
  have hsettled : ∀ {q f}, shiftToTargetExponent .binary64 r t .exact = (⟨q, false, false⟩, f) →
      roundWithAccuracy .binary64 .positive m e accuracy =
        if h : q = 0 then .zero .positive else .finite .positive q f (Nat.pos_of_ne_zero h) := by
    intro q f hsettle
    unfold roundWithAccuracy
    simp only [hfirst, hround, hsettle]
  rcases settle_eq hr ht with ⟨hlt, hsettle⟩ | ⟨heq, hsettle⟩
  · rw [hsettled hsettle]
    exact rounded_mantissa rfl hlt ht hlow
  · rw [hsettled hsettle]
    refine rounded_mantissa ?_ (by omega) (by omega) (.inl le_rfl)
    have hexponent : (t + 1 + 1074).toNat = (t + 1074).toNat + 1 := by omega
    rw [heq, hexponent]
    ring

/-- Moved to its target exponent a mantissa has 53 digits, or fewer at the least exponent. -/
theorem digits_of_target {q s : ℕ} {e : ℤ} (hs : (target q e - e).toNat = s) (he : e ≤ target q e) :
    q < 2 ^ (s + 53) ∧ (target q e = -1074 ∨ 2 ^ (s + 52) ≤ q) := by
  have htarget : target q e = max (q.log2 + 1 + e - 53) (-1074) := rfl
  constructor
  · exact Nat.lt_log2_self.trans_le (Nat.pow_le_pow_right (by omega) (by omega))
  · by_cases hleast : target q e = -1074
    · exact .inl hleast
    · have hlog : q.log2 = s + 52 := by omega
      have hne : q ≠ 0 := by
        intro hzero
        rw [hzero, Nat.log2_zero] at hlog
        omega
      rw [← hlog]
      exact .inr (Nat.log2_self_le hne)

/-- A fraction with enough digits in its quotient is rounded to 53 digits, whatever the power of two it is given with. -/
theorem rounded_fraction {e : ℤ} {i j : ℕ} (hd : 0 < d) (he : e ≤ target (n / d) e) (hij : e + 1074 = j - i) :
    ∃ r, RoundsTo (n * 2 ^ j) (d * 2 ^ i) r ∧
      Rounded (roundWithAccuracy .binary64 .positive (n / d) e (accuracyOfFraction (n % d) d)) r := by
  obtain ⟨s, hs⟩ : ∃ s : ℕ, (target (n / d) e - e).toNat = s := ⟨_, rfl⟩
  obtain ⟨hupper, hlower⟩ := digits_of_target hs he
  have htlow : -1074 ≤ target (n / d) e := le_max_right _ _
  have hfirst : shiftToTargetExponent .binary64 (n / d) e (accuracyOfFraction (n % d) d) =
      (ExtendedMantissa.ofMantissaAndAccuracy (n / d) (accuracyOfFraction (n % d) d) >>> s, target (n / d) e) := by
    rw [shiftToTargetExponent_eq, hs, max_eq_right he]
  generalize target (n / d) e = t at hs hlower htlow hfirst he
  obtain ⟨k, hk⟩ : ∃ k : ℕ, (t + 1074).toNat = k := ⟨_, rfl⟩
  have hsum : s + j = k + i := by omega
  have hds : 0 < d * 2 ^ s := Nat.mul_pos hd (Nat.two_pow_pos s)
  have hdi : 0 < d * 2 ^ i := Nat.mul_pos hd (Nat.two_pow_pos i)
  have hscale : Scale (n * 2 ^ j) (d * 2 ^ i) k := scale_of_div hd hsum hupper (hlower.imp_left fun h => by omega)
  -- the digits behind the mantissa tell where the fraction lies between two multiples of the power
  have hround := ((standsFor_fraction n hd).shiftRight hd s).roundedMantissa hds
  have hvalue : nearest n (d * 2 ^ s) = nearest (n * 2 ^ j) (d * 2 ^ i * 2 ^ k) := by
    refine nearest_congr hds (Nat.mul_pos hdi (Nat.two_pow_pos k)) ?_
    calc n * (d * 2 ^ i * 2 ^ k) = n * d * 2 ^ (k + i) := by ring
      _ = n * 2 ^ j * (d * 2 ^ s) := by rw [← hsum]; ring
  rw [hvalue] at hround
  refine ⟨nearest (n * 2 ^ j) (d * 2 ^ i * 2 ^ k) * 2 ^ k, ⟨k, hscale, rfl⟩, ?_⟩
  rw [← hk] at hscale hround ⊢
  refine rounded_settle hfirst hround (hscale.nearest_le hdi) htlow ?_
  by_cases hleast : t = -1074
  · exact .inr hleast
  · exact .inl (hscale.le_nearest hdi (by omega))

/-! ### Packing -/

theorem toNat_one_append (m : BitVec 52) : (1#1 ++ m).toNat = 2 ^ 52 + m.toNat := by
  rw [BitVec.toNat_append, ← Nat.shiftLeft_add_eq_or_of_lt m.isLt]
  rfl

/-- What is read of a word whose exponent is not the greatest. -/
theorem unpack_packComponents (s : Sign) {e : BitVec 11} (m : BitVec 52) (he : e ≠ -1#11) :
    unpack .binary64 (packComponents .binary64 s e m) =
      if e = 0#11 then
        if h : m.toNat = 0 then .zero s else .finite s m.toNat (-1074) (Nat.pos_of_ne_zero h)
      else .finite s (2 ^ 52 + m.toNat) (e.toNat - 1075) (by omega) := by
  unfold UnpackedFloat.unpack
  simp only [unpackMantissa_packComponents, unpackExponent_packComponents, unpackSign_packComponents,
    Sign.ofBitVec_toBitVec, if_neg he]
  by_cases hzero : e = 0#11
  · rw [if_pos hzero, if_pos hzero, hzero]
    by_cases hm : m = 0#52
    · rw [dif_pos hm, dif_pos (by rw [hm]; rfl)]
    · have hne : ¬ m.toNat = 0 := fun h => hm (BitVec.eq_of_toNat_eq h)
      rw [dif_neg hm, dif_neg hne]
      rfl
  · rw [if_neg hzero, if_neg hzero]
    congr 1
    exact toNat_one_append m

section

variable {s : Sign} {m : ℕ} {e : ℤ} (hpos : 0 < m)

theorem pack_finite :
    UnpackedFloat.pack .binary64 (.finite s m e hpos) =
      if 2 ^ 11 ≤ (e + 1075).toNat + 1 then packedInfinity .binary64 s
      else if m.log2 + 1 = 53 then
        packComponents .binary64 s (BitVec.ofNat 11 (e + 1075).toNat) (BitVec.ofNat 52 m)
      else packComponents .binary64 s 0#11 (BitVec.ofNat 52 m) := by
  have hbias : e + 1075 = e + (1023 : ℕ) + (52 : ℕ) := by omega
  rw [hbias]
  rfl

theorem unpack_pack_normal (hm : m < 2 ^ 53) (hlow : 2 ^ 52 ≤ m) (he : -1074 ≤ e) (he' : e ≤ 971) :
    UnpackedFloat.unpack .binary64 (UnpackedFloat.pack .binary64 (.finite s m e hpos)) = .finite s m e hpos := by
  have hlog : m.log2 = 52 := (Nat.log2_eq_iff (by omega)).2 ⟨hlow, hm⟩
  have hexponent : (BitVec.ofNat 11 (e + 1075).toNat).toNat = (e + 1075).toNat := by
    rw [BitVec.toNat_ofNat]
    omega
  have hmantissa : 2 ^ 52 + (BitVec.ofNat 52 m).toNat = m := by
    rw [BitVec.toNat_ofNat]
    omega
  have hne : ∀ {w : BitVec 11}, (e + 1075).toNat ≠ w.toNat → BitVec.ofNat 11 (e + 1075).toNat ≠ w :=
    fun hne h => hne (hexponent.symm.trans (congrArg BitVec.toNat h))
  have hgreatest : BitVec.ofNat 11 (e + 1075).toNat ≠ -1#11 := hne (by show (e + 1075).toNat ≠ 2047; omega)
  have hzero : BitVec.ofNat 11 (e + 1075).toNat ≠ 0#11 := hne (by show (e + 1075).toNat ≠ 0; omega)
  rw [pack_finite, if_neg (by omega), if_pos (by omega), unpack_packComponents s _ hgreatest, if_neg hzero]
  congr 1
  omega

theorem unpack_pack_subnormal (hm : m < 2 ^ 52) :
    UnpackedFloat.unpack .binary64 (UnpackedFloat.pack .binary64 (.finite s m (-1074) hpos)) =
      .finite s m (-1074) hpos := by
  have hlog := log2_lt_of_lt (by omega) hm
  have hmantissa : (BitVec.ofNat 52 m).toNat = m := by
    rw [BitVec.toNat_ofNat]
    omega
  rw [pack_finite, if_neg (by decide), if_neg (by omega), unpack_packComponents s _ (by decide), if_pos rfl,
    dif_neg (by omega)]
  congr 1

theorem unpack_pack_large (he : 971 < e) :
    UnpackedFloat.unpack .binary64 (UnpackedFloat.pack .binary64 (.finite s m e hpos)) = .infinity s := by
  rw [pack_finite, if_pos (by omega)]
  cases s <;> rfl

end

/-- The first power of two that is too large. -/
def limit : ℕ := 2 ^ 2098

theorem limit_eq {a b : ℕ} (h : a + b = 2098) : limit = 2 ^ a * 2 ^ b := by rw [limit, ← Nat.pow_add, h]

theorem limit_pos : 0 < limit := pow_pos two_pos 2098

/-- A number is so many units; infinity counts as the limit. -/
inductive Counts : UnpackedFloat → ℕ → Prop
  | infinity : Counts (.infinity .positive) limit
  | rounded {x : UnpackedFloat} {n : ℕ} : Rounded x n → n < limit → Counts x n

theorem Counts.le_limit {x : UnpackedFloat} {n : ℕ} (h : Counts x n) : n ≤ limit := by
  cases h with
  | infinity => exact le_refl limit
  | rounded _ hlt => exact hlt.le

theorem rounded_lt_limit_iff {m n : ℕ} {e : ℤ} {hpos : 0 < m} (h : Rounded (.finite .positive m e hpos) n) :
    n < limit ↔ e ≤ 971 := by
  obtain ⟨rfl, hm, he, hlow⟩ := h
  constructor
  · intro hlt
    by_contra hlarge
    refine absurd hlt (not_lt.2 ?_)
    have hm : 2 ^ 52 ≤ m := hlow.resolve_right (by omega)
    calc limit = 2 ^ 52 * 2 ^ 2046 := limit_eq rfl
      _ ≤ m * 2 ^ (e + 1074).toNat := Nat.mul_le_mul hm (pow_le_pow_right₀ one_le_two (by omega))
  · intro hle
    calc m * 2 ^ (e + 1074).toNat < 2 ^ 53 * 2 ^ (e + 1074).toNat :=
          Nat.mul_lt_mul_of_pos_right hm (Nat.two_pow_pos _)
      _ ≤ 2 ^ 53 * 2 ^ 2045 := by
          gcongr
          · exact one_le_two
          · omega
      _ = limit := (limit_eq rfl).symm

/-- Packing keeps the number of units up to the limit. -/
theorem counts_pack {x : UnpackedFloat} {n : ℕ} (h : Rounded x n) : Counts (Float.Model.pack x).unpack (min n limit) := by
  rcases h.eq_zero_or_finite with ⟨s, rfl, rfl⟩ | ⟨m, e, hpos, rfl⟩
  · have hzero : (Float.Model.pack (.zero s)).unpack = .zero s := by cases s <;> rfl
    rw [hzero, Nat.zero_min]
    exact .rounded rfl limit_pos
  · have hlimit := rounded_lt_limit_iff h
    by_cases hlarge : e ≤ 971
    · have hpack : (Float.Model.pack (.finite .positive m e hpos)).unpack = .finite .positive m e hpos := by
        obtain ⟨-, hm, he, hlow⟩ := h
        rcases Nat.lt_or_ge m (2 ^ 52) with hlt | hge
        · obtain rfl : e = -1074 := hlow.resolve_left (by omega)
          exact unpack_pack_subnormal hpos hlt
        · exact unpack_pack_normal hpos hm hge he hlarge
      rw [hpack, min_eq_left (hlimit.2 hlarge).le]
      exact .rounded h (hlimit.2 hlarge)
    · have hpack : (Float.Model.pack (.finite .positive m e hpos)).unpack = .infinity .positive :=
        unpack_pack_large hpos (by omega)
      rw [hpack, min_eq_right (not_lt.1 fun hlt => hlarge (hlimit.1 hlt))]
      exact .infinity

/-! ### Sums -/

theorem log2_mul_two_pow {m : ℕ} (hm : m ≠ 0) (s : ℕ) : (m * 2 ^ s).log2 = m.log2 + s := by
  have hs := Nat.two_pow_pos s
  rw [Nat.log2_eq_iff (Nat.mul_ne_zero hm hs.ne')]
  constructor
  · rw [Nat.pow_add]
    exact Nat.mul_le_mul_right _ (Nat.log2_self_le hm)
  · calc m * 2 ^ s < 2 ^ (m.log2 + 1) * 2 ^ s := Nat.mul_lt_mul_of_pos_right Nat.lt_log2_self hs
      _ = 2 ^ (m.log2 + s + 1) := by ring

/-- A whole number of units is rounded to 53 digits. -/
theorem rounded_round {m : ℕ} {e : ℤ} (hm : m ≠ 0) (he : -1074 ≤ e) :
    ∃ r, RoundsTo (m * 2 ^ (e + 1074).toNat) 1 r ∧ Rounded (UnpackedFloat.round .binary64 .positive m e) r := by
  obtain ⟨s, hs⟩ : ∃ s : ℕ, (e - target m e).toNat = s := ⟨_, rfl⟩
  have htarget : target (m * 2 ^ s) (e - s) = target m e := by
    unfold target
    rw [log2_mul_two_pow hm]
    congr 1
    omega
  have hround : UnpackedFloat.round .binary64 .positive m e =
      roundWithAccuracy .binary64 .positive (m * 2 ^ s / 1) (e - s) (accuracyOfFraction (m * 2 ^ s % 1) 1) := by
    have hshift : m <<< s = m * 2 ^ s := Nat.shiftLeft_eq m s
    rw [Nat.div_one, Nat.mod_one, ← hshift, ← hs]
    rfl
  have hleast : -1074 ≤ target m e := le_max_right _ _
  obtain ⟨r, hr, hrounded⟩ := rounded_fraction (n := m * 2 ^ s) (d := 1) (e := e - s) (i := 0)
    (j := (e - s + 1074).toNat) Nat.one_pos (by rw [Nat.div_one, htarget]; omega) (by omega)
  refine ⟨r, ?_, by rw [hround]; exact hrounded⟩
  have hunits : m * 2 ^ s * 2 ^ (e - s + 1074).toNat = m * 2 ^ (e + 1074).toNat := by
    rw [Nat.mul_assoc, ← Nat.pow_add]
    congr 2
    omega
  rwa [hunits] at hr

theorem Rounded.roundsTo {x : UnpackedFloat} {n : ℕ} (h : Rounded x n) : RoundsTo n 1 n := by
  rcases h.eq_zero_or_finite with ⟨s, rfl, rfl⟩ | ⟨m, e, hpos, rfl⟩
  · exact roundsTo_self (m := 0) (j := 0) (by omega) (.inl rfl)
  · obtain ⟨rfl, hm, he, hlow⟩ := h
    exact roundsTo_self hm (hlow.symm.imp_left fun h => by omega)

theorem normalize_natCast {m : ℕ} (hm : 0 < m) (e : ℤ) (s : Sign) :
    UnpackedFloat.normalize .binary64 (m : ℤ) e s = UnpackedFloat.round .binary64 .positive m e := by
  have hgt : compare (m : ℤ) 0 = .gt := compare_gt_iff_gt.2 (Int.natCast_pos.2 hm)
  unfold UnpackedFloat.normalize
  rw [hgt]
  rfl

theorem rounded_add_finite {m₁ m₂ : ℕ} {e₁ e₂ : ℤ} (hpos₁ : 0 < m₁) (hpos₂ : 0 < m₂) (he₁ : -1074 ≤ e₁)
    (he₂ : -1074 ≤ e₂) :
    ∃ r, RoundsTo (m₁ * 2 ^ (e₁ + 1074).toNat + m₂ * 2 ^ (e₂ + 1074).toNat) 1 r ∧
      Rounded (UnpackedFloat.add .binary64 (.finite .positive m₁ e₁ hpos₁) (.finite .positive m₂ e₂ hpos₂)) r := by
  obtain ⟨e, he⟩ : ∃ e, min e₁ e₂ = e := ⟨_, rfl⟩
  have hleast : -1074 ≤ e := he ▸ le_min he₁ he₂
  have hpos : 0 < m₁ * 2 ^ (e₁ - e).toNat + m₂ * 2 ^ (e₂ - e).toNat := by positivity
  have hadd : UnpackedFloat.add .binary64 (.finite .positive m₁ e₁ hpos₁) (.finite .positive m₂ e₂ hpos₂) =
      UnpackedFloat.normalize .binary64 ((m₁ * 2 ^ (e₁ - e).toNat + m₂ * 2 ^ (e₂ - e).toNat : ℕ) : ℤ) e .positive := by
    rw [← Nat.shiftLeft_eq, ← Nat.shiftLeft_eq, ← he]
    rfl
  obtain ⟨r, hr, hrounded⟩ := rounded_round hpos.ne' hleast
  refine ⟨r, ?_, by rw [hadd, normalize_natCast hpos]; exact hrounded⟩
  have hunits : ∀ (m : ℕ) (f : ℤ), e ≤ f →
      m * 2 ^ (f - e).toNat * 2 ^ (e + 1074).toNat = m * 2 ^ (f + 1074).toNat := by
    intro m f hf
    rw [Nat.mul_assoc, ← Nat.pow_add]
    congr 2
    omega
  rwa [Nat.add_mul, hunits m₁ e₁ (by omega), hunits m₂ e₂ (by omega)] at hr

theorem rounded_add {x y : UnpackedFloat} {a b : ℕ} (hx : Rounded x a) (hy : Rounded y b) :
    ∃ r, RoundsTo (a + b) 1 r ∧ Rounded (UnpackedFloat.add .binary64 x y) r := by
  rcases hx.eq_zero_or_finite with ⟨s, rfl, rfl⟩ | ⟨m₁, e₁, hpos₁, rfl⟩
  · rw [Nat.zero_add]
    refine ⟨b, hy.roundsTo, ?_⟩
    rcases hy.eq_zero_or_finite with ⟨t, rfl, rfl⟩ | ⟨m₂, e₂, hpos₂, rfl⟩
    · cases s <;> cases t <;> rfl
    · exact hy
  · rcases hy.eq_zero_or_finite with ⟨t, rfl, rfl⟩ | ⟨m₂, e₂, hpos₂, rfl⟩
    · exact ⟨a, hx.roundsTo, hx⟩
    · obtain ⟨rfl, -, he₁, -⟩ := hx
      obtain ⟨rfl, -, he₂, -⟩ := hy
      exact rounded_add_finite hpos₁ hpos₂ he₁ he₂

theorem roundsTo_limit : RoundsTo limit 1 limit := by
  rw [limit_eq (a := 52) (b := 2046) rfl]
  exact roundsTo_self (by omega) (.inr le_rfl)

theorem Counts.roundsTo {x : UnpackedFloat} {n : ℕ} (h : Counts x n) : RoundsTo n 1 n := by
  cases h with
  | infinity => exact roundsTo_limit
  | rounded h _ => exact h.roundsTo

/-- Infinity and anything that counts make infinity. -/
theorem add_infinity {x : UnpackedFloat} {n : ℕ} (h : Counts x n) :
    UnpackedFloat.add .binary64 (.infinity .positive) x = .infinity .positive ∧
      UnpackedFloat.add .binary64 x (.infinity .positive) = .infinity .positive := by
  cases h with
  | infinity => exact ⟨rfl, rfl⟩
  | rounded h _ =>
    rcases h.eq_zero_or_finite with ⟨s, rfl, rfl⟩ | ⟨m, e, hpos, rfl⟩ <;> exact ⟨rfl, rfl⟩

/-- A sum is rounded to 53 digits, up to the limit. -/
theorem counts_add {x y : Float.Model} {a b : ℕ} (hx : Counts x.unpack a) (hy : Counts y.unpack b) :
    ∃ r, RoundsTo (a + b) 1 r ∧ Counts (x + y).unpack (min r limit) := by
  have hsum : x + y = Float.Model.pack (UnpackedFloat.add .binary64 x.unpack y.unpack) := rfl
  have hlarge : ∀ {n : ℕ}, limit ≤ n → x + y = Float.Model.pack (.infinity .positive) →
      ∃ r, RoundsTo n 1 r ∧ Counts (x + y).unpack (min r limit) := by
    intro n hn hinf
    obtain ⟨r, hr⟩ := exists_roundsTo n Nat.one_pos
    have hlimit : limit ≤ r := roundsTo_limit.le hr Nat.one_pos Nat.one_pos (by omega)
    have hpack : (Float.Model.pack (.infinity .positive)).unpack = .infinity .positive := rfl
    refine ⟨r, hr, ?_⟩
    rw [hinf, hpack, min_eq_right hlimit]
    exact .infinity
  generalize x.unpack = u at hx hsum
  generalize y.unpack = w at hy hsum
  cases hx with
  | infinity => exact hlarge (Nat.le_add_right _ _) (by rw [hsum, (add_infinity hy).1])
  | rounded hu hlt =>
    cases hy with
    | infinity => exact hlarge (Nat.le_add_left _ _) (by rw [hsum, (add_infinity (.rounded hu hlt)).2])
    | rounded hw _ =>
      obtain ⟨r, hr, hrounded⟩ := rounded_add hu hw
      exact ⟨r, hr, by rw [hsum]; exact counts_pack hrounded⟩

/-! ### Quotients -/

/-- The number 1 in units. -/
def one : ℕ := 2 ^ 1074

theorem zero_lt_units_one : 0 < one := by
  rw [one]
  exact pow_pos two_pos 1074

theorem one_lt_limit : one < limit := by
  rw [one, limit]
  exact pow_lt_pow_right₀ one_lt_two (by omega)

theorem one_eq : one = 2 ^ 52 * 2 ^ 1022 := by
  rw [one, ← pow_add]

theorem rounded_div_finite {m₁ m₂ : ℕ} {e₁ e₂ : ℤ} (hpos₁ : 0 < m₁) (hpos₂ : 0 < m₂) (he₁ : -1074 ≤ e₁)
    (he₂ : -1074 ≤ e₂) :
    ∃ r, RoundsTo (m₁ * 2 ^ (e₁ + 1074).toNat * one) (m₂ * 2 ^ (e₂ + 1074).toNat) r ∧
      Rounded (UnpackedFloat.div .binary64 (.finite .positive m₁ e₁ hpos₁) (.finite .positive m₂ e₂ hpos₂)) r := by
  obtain ⟨t, ht⟩ : ∃ t : ℤ, min (e₁ - e₂) (max (m₁.log2 + 1 + e₁ - (m₂.log2 + 1 + e₂) - 53) (-1074)) = t := ⟨_, rfl⟩
  obtain ⟨s, hs⟩ : ∃ s : ℕ, (e₁ - e₂ - t).toNat = s := ⟨_, rfl⟩
  have hdiv : UnpackedFloat.div .binary64 (.finite .positive m₁ e₁ hpos₁) (.finite .positive m₂ e₂ hpos₂) =
      roundWithAccuracy .binary64 .positive (m₁ * 2 ^ s / m₂) t (accuracyOfFraction (m₁ * 2 ^ s % m₂) m₂) := by
    rw [← Nat.shiftLeft_eq, ← hs, ← ht]
    rfl
  have hshift : (s : ℤ) = e₁ - e₂ - t := by omega
  have henough : t ≤ target (m₁ * 2 ^ s / m₂) t := by
    by_cases hleast : t ≤ -1074
    · exact hleast.trans (le_max_right _ _)
    · have hlog : 52 ≤ (m₁ * 2 ^ s / m₂).log2 := by
        have hquot : 2 ^ 52 ≤ m₁ * 2 ^ s / m₂ := by
          rw [Nat.le_div_iff_mul_le hpos₂]
          calc 2 ^ 52 * m₂ ≤ 2 ^ 52 * 2 ^ (m₂.log2 + 1) := Nat.mul_le_mul_left _ Nat.lt_log2_self.le
            _ = 2 ^ (52 + (m₂.log2 + 1)) := by rw [← Nat.pow_add]
            _ ≤ 2 ^ (m₁.log2 + s) := Nat.pow_le_pow_right (by omega) (by omega)
            _ = 2 ^ m₁.log2 * 2 ^ s := by rw [Nat.pow_add]
            _ ≤ m₁ * 2 ^ s := Nat.mul_le_mul_right _ (Nat.log2_self_le hpos₁.ne')
        exact (Nat.le_log2 (by omega)).2 hquot
      unfold target
      omega
  obtain ⟨r, hr, hrounded⟩ := rounded_fraction (n := m₁ * 2 ^ s) (i := (e₂ + 1074).toNat + s)
    (j := (e₁ + 1074).toNat + 1074) hpos₂ henough (by omega)
  refine ⟨r, hr.congr (by positivity) (by positivity) ?_, by rw [hdiv]; exact hrounded⟩
  have hone : 2 ^ ((e₁ + 1074).toNat + 1074) = 2 ^ (e₁ + 1074).toNat * one := pow_add 2 _ 1074
  rw [hone]
  ring

/-- A quotient of a number that is not infinite by one that is neither infinite nor zero is rounded to 53 digits, up to the
limit. -/
theorem counts_div {x y : Float.Model} {a b : ℕ} (hx : Counts x.unpack a) (hy : Counts y.unpack b) (ha : a < limit)
    (hb : b < limit) (hpos : 0 < b) :
    ∃ r, RoundsTo (a * one) b r ∧ Counts (x / y).unpack (min r limit) := by
  have hquot : x / y = Float.Model.pack (UnpackedFloat.div .binary64 x.unpack y.unpack) := rfl
  generalize x.unpack = u at hx hquot
  generalize y.unpack = w at hy hquot
  cases hx with
  | infinity => exact absurd ha (lt_irrefl _)
  | rounded hu _ =>
    cases hy with
    | infinity => exact absurd hb (lt_irrefl _)
    | rounded hw _ =>
      rcases hw.eq_zero_or_finite with ⟨t, rfl, rfl⟩ | ⟨m₂, e₂, hpos₂, rfl⟩
      · exact absurd hpos (lt_irrefl 0)
      · rcases hu.eq_zero_or_finite with ⟨s, rfl, rfl⟩ | ⟨m₁, e₁, hpos₁, rfl⟩
        · have hzero : Rounded (UnpackedFloat.div .binary64 (.zero s) (.finite .positive m₂ e₂ hpos₂)) 0 := rfl
          rw [Nat.zero_mul, hquot]
          exact ⟨0, hzero.roundsTo.congr Nat.one_pos hpos (by rw [Nat.zero_mul, Nat.zero_mul]), counts_pack hzero⟩
        · obtain ⟨r, hr, hrounded⟩ := rounded_div_finite hpos₁ hpos₂ hu.2.2.1 hw.2.2.1
          rw [← hu.1, ← hw.1] at hr
          exact ⟨r, hr, by rw [hquot]; exact counts_pack hrounded⟩

/-! ### Order -/

section

variable {m₁ m₂ a b : ℕ} {e₁ e₂ : ℤ} {hpos₁ : 0 < m₁} {hpos₂ : 0 < m₂}

/-- Of numbers with their digits in their places the one with the greater exponent is greater. -/
theorem lt_of_exponent_lt (hx : Rounded (.finite .positive m₁ e₁ hpos₁) a)
    (hy : Rounded (.finite .positive m₂ e₂ hpos₂) b) (h : e₁ < e₂) : a < b := by
  obtain ⟨rfl, hm₁, he₁, -⟩ := hx
  obtain ⟨rfl, -, -, hlow⟩ := hy
  have hm₂ : 2 ^ 52 ≤ m₂ := hlow.resolve_right (by omega)
  calc m₁ * 2 ^ (e₁ + 1074).toNat < 2 ^ 53 * 2 ^ (e₁ + 1074).toNat :=
        Nat.mul_lt_mul_of_pos_right hm₁ (Nat.two_pow_pos _)
    _ = 2 ^ 52 * 2 ^ ((e₁ + 1074).toNat + 1) := by ring
    _ ≤ m₂ * 2 ^ (e₂ + 1074).toNat := Nat.mul_le_mul hm₂ (Nat.pow_le_pow_right (by omega) (by omega))

theorem compare_finite (hx : Rounded (.finite .positive m₁ e₁ hpos₁) a)
    (hy : Rounded (.finite .positive m₂ e₂ hpos₂) b) : (compare e₁ e₂).then (compare m₁ m₂) = compare a b := by
  rcases lt_trichotomy e₁ e₂ with hlt | rfl | hgt
  · rw [compare_lt_iff_lt.2 hlt, compare_lt_iff_lt.2 (lt_of_exponent_lt hx hy hlt)]
    rfl
  · obtain ⟨rfl, -⟩ := hx
    obtain ⟨rfl, -⟩ := hy
    have hk := Nat.two_pow_pos (e₁ + 1074).toNat
    rw [compare_eq_iff_eq.2 rfl]
    show compare m₁ m₂ = _
    rcases lt_trichotomy m₁ m₂ with hlt | rfl | hgt
    · rw [compare_lt_iff_lt.2 hlt, compare_lt_iff_lt.2 (Nat.mul_lt_mul_of_pos_right hlt hk)]
    · rw [compare_eq_iff_eq.2 rfl, compare_eq_iff_eq.2 rfl]
    · rw [compare_gt_iff_gt.2 hgt, compare_gt_iff_gt.2 (Nat.mul_lt_mul_of_pos_right hgt hk)]
  · rw [compare_gt_iff_gt.2 hgt, compare_gt_iff_gt.2 (lt_of_exponent_lt hy hx hgt)]
    rfl

end

theorem compare_rounded {x y : UnpackedFloat} {a b : ℕ} (hx : Rounded x a) (hy : Rounded y b) :
    x.compare y = some (compare a b) := by
  rcases hx.eq_zero_or_finite with ⟨s, rfl, rfl⟩ | ⟨m₁, e₁, hpos₁, rfl⟩
  · rcases hy.eq_zero_or_finite with ⟨t, rfl, rfl⟩ | ⟨m₂, e₂, hpos₂, rfl⟩
    · rfl
    · have hpos : 0 < b := hy.1 ▸ Nat.mul_pos hpos₂ (Nat.two_pow_pos _)
      exact congrArg some (compare_lt_iff_lt.2 hpos).symm
  · rcases hy.eq_zero_or_finite with ⟨t, rfl, rfl⟩ | ⟨m₂, e₂, hpos₂, rfl⟩
    · have hpos : 0 < a := hx.1 ▸ Nat.mul_pos hpos₁ (Nat.two_pow_pos _)
      exact congrArg some (compare_gt_iff_gt.2 hpos).symm
    · exact congrArg some (compare_finite hx hy)

/-- Numbers are compared as their units are. -/
theorem compare_eq {x y : UnpackedFloat} {a b : ℕ} (hx : Counts x a) (hy : Counts y b) :
    x.compare y = some (compare a b) := by
  cases hx with
  | infinity =>
    cases hy with
    | infinity => exact congrArg some (compare_eq_iff_eq.2 rfl).symm
    | rounded hw hlt =>
      rw [compare_gt_iff_gt.2 hlt]
      rcases hw.eq_zero_or_finite with ⟨t, rfl, -⟩ | ⟨m, e, hpos, rfl⟩ <;> rfl
  | rounded hu hlt =>
    cases hy with
    | infinity =>
      rw [compare_lt_iff_lt.2 hlt]
      rcases hu.eq_zero_or_finite with ⟨t, rfl, -⟩ | ⟨m, e, hpos, rfl⟩ <;> rfl
    | rounded hw _ => exact compare_rounded hu hw

/-! ### Words -/

theorem counts_finite {s : Sign} {m : ℕ} {e : ℤ} {hpos : 0 < m} (hm : m < 2 ^ 53) (he : -1074 ≤ e) (he' : e ≤ 971)
    (hlow : 2 ^ 52 ≤ m ∨ e = -1074) (h : UnpackedFloat.le (.zero .positive) (.finite s m e hpos) = true) :
    ∃ n, Counts (.finite s m e hpos) n := by
  cases s with
  | negative => cases h
  | positive =>
    have hrounded : Rounded (.finite .positive m e hpos) (m * 2 ^ (e + 1074).toNat) := ⟨rfl, hm, he, hlow⟩
    exact ⟨_, .rounded hrounded ((rounded_lt_limit_iff hrounded).2 he')⟩

/-- What is read of a word has its digits in their places, so that it counts if it is not negative. -/
theorem exists_counts (w : BitVec 64) (h : UnpackedFloat.le (.zero .positive) (UnpackedFloat.unpack .binary64 w) = true) :
    ∃ n, Counts (UnpackedFloat.unpack .binary64 w) n := by
  have hmantissa : (@unpackMantissa .binary64 w).toNat < 2 ^ 52 := (@unpackMantissa .binary64 w).isLt
  have hbias : ((Format.binary64.exponentBias : ℕ) : ℤ) + ((52 : ℕ) : ℤ) = 1075 := rfl
  revert h
  unfold UnpackedFloat.unpack
  dsimp only
  split
  · split
    · intro h
      generalize Sign.ofBitVec (@unpackSign .binary64 w) = s at h
      cases s with
      | negative => cases h
      | positive => exact ⟨limit, .infinity⟩
    · intro h
      cases h
  · rename_i hgreatest
    split
    · rename_i hzero
      split
      · exact fun _ => ⟨0, .rounded rfl limit_pos⟩
      · have hexponent : (@unpackExponent .binary64 w).toNat = 0 := congrArg BitVec.toNat hzero
        exact counts_finite (by omega) (by omega) (by omega) (.inr (by omega))
    · rename_i hzero
      have hlow : (@unpackExponent .binary64 w).toNat ≠ 0 := fun h => hzero (BitVec.eq_of_toNat_eq h)
      have hhigh : (@unpackExponent .binary64 w).toNat ≠ 2047 := fun h => hgreatest (BitVec.eq_of_toNat_eq h)
      have hlt : (@unpackExponent .binary64 w).toNat < 2 ^ 11 := (@unpackExponent .binary64 w).isLt
      have happend := toNat_one_append (@unpackMantissa .binary64 w)
      exact counts_finite (by omega) (by omega) (by omega) (.inl (by omega))

/-- What is not a number is not at least 0. -/
theorem not_nonneg_of_isNaN {x : Float} (h : x.isNaN = true) : ¬ (0 : Float) ≤ x := by
  intro hle
  have hle : UnpackedFloat.le (.zero .positive) x.toModel.unpack = true := decide_eq_true_iff.1 hle
  change x.toModel.unpack.isNaN = true at h
  generalize x.toModel.unpack = u at h hle
  cases u with
  | notANumber => cases hle
  | infinity s => cases h
  | zero s => cases h
  | finite s m e hpos => cases h

end Likeness.Binary64
