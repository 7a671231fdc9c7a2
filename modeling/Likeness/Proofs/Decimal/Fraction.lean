import Likeness.Proofs.Decimal.Float
import Likeness.Proofs.Decimal.Number

/-!
# Fractions of counts as floating-point numbers

Natural numbers below `2 ^ 53` are floating-point numbers (`units_ofNat`), greater ones are rounded to such
(`exists_units_ofNat`). A fraction of counts that is at most 1 lies between 0 and 1, and is 0 only for a part of 0, for
all counts that are no longer than machine words (`exists_units_fraction`, `fraction_eq_zero_iff`). Where the counts are
not rounded it is 1 only for equal numbers, whatever else is rounded (`fraction_eq_one_iff`).
-/

namespace Likeness.Binary64

open Rounding
open Float.Model Float.Model.UnpackedFloat

/-! ### Natural numbers -/

theorem mul_one_lt_limit {n : ℕ} (hn : n < 2 ^ 53) : n * one < limit := by
  rw [limit_eq (a := 1024) (b := 1074) rfl, one]
  refine Nat.mul_lt_mul_of_pos_right (hn.trans ?_) (pow_pos two_pos 1074)
  exact pow_lt_pow_right₀ one_lt_two (by omega)

theorem roundsTo_mul_one {n : ℕ} (hn : n < 2 ^ 53) : RoundsTo (n * one) 1 (n * one) := by
  rw [one]
  exact roundsTo_mul_two_pow hn 1074

theorem two_pow_mul_one_lt_limit : 2 ^ 64 * one < limit := by
  rw [one, limit, ← pow_add]
  exact pow_lt_pow_right₀ one_lt_two (by omega)

theorem roundsTo_two_pow_mul_one : RoundsTo (2 ^ 64 * one) 1 (2 ^ 64 * one) := by
  have hone : 2 ^ 64 * one = 1 * 2 ^ (64 + 1074) := by rw [one, one_mul, pow_add]
  rw [hone]
  exact roundsTo_mul_two_pow (by omega) _

/-- The product with 1 has the same units. -/
theorem rounded_mul_one {x : UnpackedFloat} {n : ℕ} (h : Rounded x n) :
    Rounded (UnpackedFloat.mul .binary64 x (.finite .positive (2 ^ 52) (-52) (by decide))) n := by
  rcases h.eq_zero_or_finite with ⟨s, rfl, rfl⟩ | ⟨m, e, hpos, rfl⟩
  · rfl
  · have henough : e - 52 ≤ target (m * 2 ^ 52 / 1) (e - 52) := by
      unfold target
      rw [Nat.div_one, log2_mul_two_pow hpos.ne']
      omega
    have hleast := h.2.2.1
    obtain ⟨r, hr, hrounded⟩ := rounded_fraction (n := m * 2 ^ 52) (d := 1) (i := 52) (j := (e + 1074).toNat)
      Nat.one_pos henough (by omega)
    have hsame : r = n := hr.unique h.roundsTo (by positivity) Nat.one_pos (by rw [h.1]; ring)
    rw [Nat.div_one, Nat.mod_one, hsame] at hrounded
    exact hrounded

theorem Counts.of_lt {x : UnpackedFloat} {n : ℕ} (h : Counts x n) (hn : n < limit) : Rounded x n := by
  cases h with
  | infinity => exact absurd hn (lt_irrefl limit)
  | rounded h _ => exact h

/-- A natural number of at most 53 digits is that number of units of 1. -/
theorem units_ofNat {n : ℕ} (hn : n < 2 ^ 53) : Units (Float.ofNat n) (n * one) := by
  have hlimit := mul_one_lt_limit hn
  rcases Nat.eq_zero_or_pos n with rfl | hpos
  · rw [Nat.zero_mul]
    exact units_zero
  · have hword : n.toUInt64.toNat = n := by
      rw [Nat.toUInt64_eq, UInt64.toNat_ofNat']
      omega
    have hwhole : Counts n.toUInt64.toFloat.toModel.unpack (n * one) := by
      obtain ⟨r, hr, hrounded⟩ := rounded_round (e := 0) hpos.ne' (by omega)
      have hexponent : ((0 : ℤ) + 1074).toNat = 1074 := rfl
      rw [hexponent, ← one] at hr
      have hsame : r = n * one := hr.unique (roundsTo_mul_one hn) Nat.one_pos Nat.one_pos rfl
      have hpack : n.toUInt64.toFloat.toModel =
          Float.Model.pack (UnpackedFloat.normalize .binary64 (n.toUInt64.toNat : ℤ) 0 .positive) := rfl
      rw [hword, normalize_natCast hpos] at hpack
      have hcounts := counts_pack hrounded
      rw [hsame, min_eq_left hlimit.le] at hcounts
      rw [hpack]
      exact hcounts
    have hproduct : Float.ofNat n = n.toUInt64.toFloat * Float.ofBits 4607182418800017408 := by
      show Float.ofScientific n false 0 = _
      unfold Float.ofScientific
      rw [dif_pos ⟨hn, by omega⟩]
      rfl
    have hone : (Float.ofBits 4607182418800017408).toModel.unpack = .finite .positive (2 ^ 52) (-52) (by decide) := rfl
    have hmul := counts_pack (rounded_mul_one (hwhole.of_lt hlimit))
    rw [min_eq_left hlimit.le, ← hone] at hmul
    rw [hproduct]
    exact hmul

theorem mul_ten_pow_zero {m : ℕ} {e : ℤ} (hm : 0 < m) (hten : 0 < 10 ^ (0 : ℤ).toNat) :
    UnpackedFloat.mul .binary64 (.finite .positive m e hm) (.finite .positive (10 ^ (0 : ℤ).toNat) 0 hten) =
      roundWithAccuracy .binary64 .positive m e .exact := by
  show roundWithAccuracy .binary64 .positive (m * 10 ^ (0 : ℤ).toNat) (e + 0) .exact = _
  rw [Int.toNat_zero, pow_zero, Nat.mul_one, Int.add_zero]

theorem ofScientific_natural {n : ℕ} (hn : 0 < n) :
    UnpackedFloat.ofScientific .binary64 n 0 = roundWithAccuracy .binary64 .positive (n * 2 ^ 53) (-53) .exact := by
  have hbits : (2 : ℤ) ^ Format.binary64.exponentBits = 2048 := rfl
  have hmantissa : Format.binary64.mantissaBits = 53 := rfl
  unfold UnpackedFloat.ofScientific
  rw [hbits, dif_neg hn.ne', if_neg (by omega), if_neg (by omega), if_pos le_rfl, mul_ten_pow_zero, Nat.shiftLeft_eq,
    hmantissa, Nat.cast_ofNat]

theorem rounded_ofScientific {n : ℕ} (hn : 0 < n) :
    ∃ r, RoundsTo (n * one) 1 r ∧ Rounded (UnpackedFloat.ofScientific .binary64 n 0) r := by
  obtain ⟨j, hj⟩ : ∃ j : ℕ, j = 1074 := ⟨_, rfl⟩
  have henough : -53 ≤ target (n * 2 ^ 53 / 1) (-53) := by
    unfold target
    rw [Nat.div_one, log2_mul_two_pow hn.ne']
    omega
  obtain ⟨r, hr, hrounded⟩ := rounded_fraction (i := 53) (j := j) Nat.one_pos henough (by omega)
  rw [Nat.div_one, Nat.mod_one] at hrounded
  have hone : 2 ^ j = one := by rw [one, hj]
  refine ⟨r, hr.congr (by positivity) Nat.one_pos ?_, by rw [ofScientific_natural hn]; exact hrounded⟩
  rw [hone]
  ring

/-- Natural numbers up to `2 ^ 64` are rounded to 53 digits. -/
theorem exists_units_ofNat {n : ℕ} (hn : n ≤ 2 ^ 64) :
    ∃ r, RoundsTo (n * one) 1 r ∧ r ≤ 2 ^ 64 * one ∧ Units (Float.ofNat n) r := by
  rcases Nat.lt_or_ge n (2 ^ 53) with hshort | hlong
  · exact ⟨n * one, roundsTo_mul_one hshort, Nat.mul_le_mul_right one hn, units_ofNat hshort⟩
  · obtain ⟨r, hr, hrounded⟩ := rounded_ofScientific (n := n) (by omega)
    have hle : r ≤ 2 ^ 64 * one := hr.le roundsTo_two_pow_mul_one Nat.one_pos Nat.one_pos
      (Nat.mul_le_mul_right 1 (Nat.mul_le_mul_right one hn))
    have hvalue : Float.ofNat n = .ofModel (.pack (UnpackedFloat.ofScientific .binary64 n 0)) := by
      show Float.ofScientific n false 0 = _
      unfold Float.ofScientific
      rw [dif_neg (by omega)]
      rfl
    have hcounts := counts_pack hrounded
    rw [min_eq_left (hle.trans two_pow_mul_one_lt_limit.le)] at hcounts
    refine ⟨r, hr, hle, ?_⟩
    rw [hvalue]
    exact hcounts

/-! ### Fractions -/

theorem zero_div {y : Float} {b : ℕ} (hy : Units y b) (hpos : 0 < b) (hlt : b < limit) : (0 : Float) / y = 0 := by
  have hquot : ((0 : Float) / y).toModel =
      Float.Model.pack (UnpackedFloat.div .binary64 (.zero .positive) y.toModel.unpack) := rfl
  unfold Units at hy
  generalize y.toModel.unpack = u at hy hquot
  rcases (hy.of_lt hlt).eq_zero_or_finite with ⟨s, -, rfl⟩ | ⟨m, e, hm, rfl⟩
  · exact absurd hpos (lt_irrefl 0)
  · exact congrArg Float.ofModel hquot

/-- A part of 1, of which short multiples are not rounded. One of `2 ^ 53` is the distance to the next smaller number. -/
theorem exists_step {k : ℕ} (hk : k ≤ 1074) :
    ∃ u, 0 < u ∧ one = 2 ^ k * u ∧ ∀ m < 2 ^ 53, RoundsTo (m * u) 1 (m * u) := by
  refine ⟨2 ^ (1074 - k), pow_pos two_pos _, ?_, fun m hm => roundsTo_mul_two_pow hm _⟩
  rw [one, ← pow_add, Nat.add_sub_cancel' hk]

variable {p q : ℕ}

section

variable (hle : p ≤ q) (hq : 0 < q) (hlt : q < 2 ^ 53)
include hle hq hlt

theorem units_fraction : ∃ r, RoundsTo (p * one) q r ∧ r ≤ one ∧ Units (Float.ofNat p / Float.ofNat q) r := by
  have hpos := zero_lt_units_one
  have hp := mul_one_lt_limit (hle.trans_lt hlt)
  obtain ⟨r, hr, hquot⟩ := counts_div (units_ofNat (hle.trans_lt hlt)) (units_ofNat hlt) hp (mul_one_lt_limit hlt)
    (Nat.mul_pos hq hpos)
  have hr : RoundsTo (p * one) q r := hr.congr (Nat.mul_pos hq hpos) hq (by ring)
  have hone := le_one_of_part hr hle hq
  rw [min_eq_left (hone.trans one_lt_limit.le)] at hquot
  exact ⟨r, hr, hone, hquot⟩

/-- A fraction below 1 is not rounded to 1: the next smaller number is not below it. -/
theorem fraction_eq_one_iff : Float.ofNat p / Float.ofNat q = 1 ↔ p = q := by
  obtain ⟨r, hr, hone, hquot⟩ := units_fraction hle hq hlt
  obtain ⟨u, hu, hunits, hstep⟩ := exists_step (k := 53) (by omega)
  constructor
  · intro heq
    rw [heq] at hquot
    by_contra hne
    have hrle : r ≤ (2 ^ 53 - 1) * u := by
      refine hr.le (hstep _ (by omega)) hq Nat.one_pos ?_
      have hmul : p * 2 ^ 53 ≤ (2 ^ 53 - 1) * q := by omega
      calc p * one * 1 = p * 2 ^ 53 * u := by rw [hunits]; ring
        _ ≤ (2 ^ 53 - 1) * q * u := Nat.mul_le_mul_right u hmul
        _ = (2 ^ 53 - 1) * u * q := by ring
    have hless : (2 ^ 53 - 1) * u < 2 ^ 53 * u := Nat.mul_lt_mul_of_pos_right (by omega) hu
    have hsame := hquot.unique units_one
    omega
  · rintro rfl
    rw [eq_one_of_whole hr hq] at hquot
    exact hquot.eq units_one zero_lt_units_one

end

/-- A count that is rounded stays 1 at least. -/
theorem one_le_of_roundsTo {n c : Nat} (hn : 0 < n) (hc : RoundsTo (n * one) 1 c) : one ≤ c := by
  refine units_one.roundsTo.le hc Nat.one_pos Nat.one_pos (Nat.mul_le_mul_right 1 ?_)
  exact Nat.le_mul_of_pos_left one hn

/-- Fractions of rounded counts are rounded once more, and not to 0. -/
theorem exists_units_fraction (hle : p ≤ q) (hq : 0 < q) (hlimit : q ≤ 2 ^ 64) :
    ∃ r, r ≤ one ∧ (0 < p → 0 < r) ∧ Units (Float.ofNat p / Float.ofNat q) r := by
  obtain ⟨a, ha, halimit, hx⟩ := exists_units_ofNat (hle.trans hlimit)
  obtain ⟨b, hb, hblimit, hy⟩ := exists_units_ofNat hlimit
  have hab : a ≤ b := ha.le hb Nat.one_pos Nat.one_pos (Nat.mul_le_mul_right 1 (Nat.mul_le_mul_right one hle))
  have hbpos : 0 < b := zero_lt_units_one.trans_le (one_le_of_roundsTo hq hb)
  have hlarge := two_pow_mul_one_lt_limit
  obtain ⟨r, hr, hquot⟩ := counts_div hx hy (halimit.trans_lt hlarge) (hblimit.trans_lt hlarge) hbpos
  have hone := le_one_of_part hr hab hbpos
  rw [min_eq_left (hone.trans one_lt_limit.le)] at hquot
  refine ⟨r, hone, fun hp => ?_, hquot⟩
  -- the quotient is at least one part of 2 ^ 64, which is not rounded
  obtain ⟨u, hu, hunits, hstep⟩ := exists_step (k := 64) (by omega)
  have hur : 1 * u ≤ r := by
    refine (hstep 1 (by omega)).le hr Nat.one_pos hbpos ?_
    calc 1 * u * b ≤ 1 * u * (2 ^ 64 * one) := Nat.mul_le_mul_left (1 * u) hblimit
      _ = 2 ^ 64 * u * one * 1 := by ring
      _ ≤ a * one * 1 := Nat.mul_le_mul_right 1 (Nat.mul_le_mul_right one (hunits ▸ one_le_of_roundsTo hp ha))
  omega

/-- A fraction is 0 only for a part of 0, also of counts that are rounded. -/
theorem fraction_eq_zero_iff (hle : p ≤ q) (hq : 0 < q) (hlimit : q ≤ 2 ^ 64) :
    Float.ofNat p / Float.ofNat q = 0 ↔ p = 0 := by
  constructor
  · intro heq
    obtain ⟨r, -, hpos, hquot⟩ := exists_units_fraction hle hq hlimit
    rw [heq] at hquot
    by_contra hne
    have hsome : 0 < r := hpos (Nat.pos_of_ne_zero hne)
    exact hsome.ne' (hquot.unique units_zero)
  · rintro rfl
    obtain ⟨b, hb, hblimit, hy⟩ := exists_units_ofNat hlimit
    have hbpos : 0 < b := zero_lt_units_one.trans_le (one_le_of_roundsTo hq hb)
    exact zero_div hy hbpos (hblimit.trans_lt two_pow_mul_one_lt_limit)

/-- Fractions of counts up to `2 ^ 64` lie between 0 and 1. -/
theorem fractionsUnit_float : Number.FractionsUnit Float (2 ^ 64) where
  zero := by decide +kernel
  fraction := by
    intro p q hle hq hlimit
    obtain ⟨r, hone, -, hquot⟩ := exists_units_fraction hle hq hlimit
    have hlow : (0 : Float) ≤ Float.ofNat p / Float.ofNat q := nonneg_iff.2 ⟨r, hquot⟩
    have hhigh : Float.ofNat p / Float.ofNat q ≤ (1 : Float) := (hquot.le_iff units_one).2 hone
    exact Bool.and_eq_true_iff.2 ⟨decide_eq_true hlow, decide_eq_true hhigh⟩

theorem fractionsWhole_float : Number.FractionsWhole Float (2 ^ 53 - 1) where
  eq_one_iff hle hq hlimit := fraction_eq_one_iff hle hq (by omega)

instance : Number.PositiveFractions Float where
  pos := by
    intro p q hp hle hlimit
    obtain ⟨r, -, hpos, hquot⟩ := exists_units_fraction hle (hp.trans_le hle) hlimit
    exact (units_zero.lt_iff hquot).2 (hpos hp)

end Likeness.Binary64
