import Mathlib
import Likeness.Proofs.Decimal.Binary64

/-!
# Sums and quotients of floating-point numbers

What sums of floating-point numbers that are not negative share with exact ones: they grow with their terms
(`foldl_add_le`), and a part of a finite whole is a share between 0 and 1 (`div_unit`), the whole being all of it
(`div_eq_one`). Each is read off the units in which sums and quotients are rounded.
-/

namespace Likeness.Binary64

open Rounding
open Float.Model

variable {x y z : Float} {a b : ℕ}

/-! ### Units -/

/-- A floating-point number is so many units, infinity being as many as the limit. -/
def Units (x : Float) (n : ℕ) : Prop := Counts x.toModel.unpack n

theorem Units.le_iff (hx : Units x a) (hy : Units y b) : x ≤ y ↔ a ≤ b := by
  have hle : x ≤ y ↔ UnpackedFloat.le x.toModel.unpack y.toModel.unpack = true := decide_eq_true_iff
  rw [hle, UnpackedFloat.le, compare_eq hx hy, Option.any_some]
  exact Nat.isLE_compare

theorem Units.lt_iff (hx : Units x a) (hy : Units y b) : x < y ↔ a < b := by
  have hlt : x < y ↔ UnpackedFloat.lt x.toModel.unpack y.toModel.unpack = true := decide_eq_true_iff
  rw [hlt, UnpackedFloat.lt, compare_eq hx hy, beq_iff_eq, Option.some.injEq]
  exact compare_lt_iff_lt

theorem Units.unique (hx : Units x a) (hx' : Units x b) : a = b := by
  have h := (compare_eq hx hx').symm.trans (compare_eq hx hx)
  rw [compare_eq_iff_eq.2 rfl] at h
  exact compare_eq_iff_eq.1 (Option.some.inj h)

theorem units_zero : Units 0 0 := .rounded rfl limit_pos

theorem units_one : Units 1 one := by
  have hunpack : (1 : Float).toModel.unpack = .finite .positive (2 ^ 52) (-52) (by decide) := rfl
  have hexponent : ((-52 : ℤ) + 1074).toNat = 1022 := rfl
  refine .rounded ?_ one_lt_limit
  rw [hunpack]
  exact ⟨by rw [hexponent, one_eq], by decide, by decide, .inl le_rfl⟩

theorem zero_ne_one_float : (0 : Float) ≠ 1 := by
  intro h
  have hone := units_one
  rw [← h] at hone
  exact zero_lt_units_one.ne (units_zero.unique hone)

theorem nonneg_iff : (0 : Float) ≤ x ↔ ∃ n, Units x n := by
  constructor
  · intro h
    exact exists_counts _ (decide_eq_true_iff.1 h)
  · rintro ⟨n, hn⟩
    exact (units_zero.le_iff hn).2 (Nat.zero_le n)

theorem zero_le_zero_float : (0 : Float) ≤ 0 := nonneg_iff.2 ⟨0, units_zero⟩

theorem Units.isFinite_iff (hx : Units x a) : x.isFinite = true ↔ a < limit := by
  show x.toModel.unpack.isFinite = true ↔ _
  unfold Units at hx
  generalize x.toModel.unpack = u at hx
  cases hx with
  | infinity => simp [UnpackedFloat.isFinite]
  | rounded h hlt =>
    rcases h.eq_zero_or_finite with ⟨s, rfl, -⟩ | ⟨m, e, hpos, rfl⟩ <;> simpa [UnpackedFloat.isFinite] using hlt

/-- Numbers of equally many units, which is not 0, are the same. -/
theorem Units.eq (hx : Units x a) (hy : Units y a) (hpos : 0 < a) : x = y := by
  have hbeq : (x == y) = true := by
    show UnpackedFloat.beq x.toModel.unpack y.toModel.unpack = true
    rw [UnpackedFloat.beq, compare_eq hx hy, compare_eq_iff_eq.2 rfl]
    rfl
  have hneg : Units (-0) 0 := .rounded (x := .zero .negative) rfl limit_pos
  rcases (Float.beq_iff_ne_nan_and_eq.1 hbeq).2.2 with heq | ⟨rfl, -⟩ | ⟨rfl, -⟩
  · exact heq
  · exact absurd (hx.unique units_zero) hpos.ne'
  · exact absurd (hx.unique hneg) hpos.ne'

/-- A finite number that is not below 0 is at least 0. -/
theorem nonneg_of_not_neg (h : x.isFinite = true) (hneg : ¬ x < (0 : Float)) : (0 : Float) ≤ x := by
  have hlt : ¬ UnpackedFloat.lt x.toModel.unpack (.zero .positive) = true := fun hlt => hneg (decide_eq_true_iff.2 hlt)
  refine decide_eq_true_iff.2 ?_
  show UnpackedFloat.le (.zero .positive) x.toModel.unpack = true
  change x.toModel.unpack.isFinite = true at h
  generalize x.toModel.unpack = u at h hlt
  cases u with
  | notANumber => cases h
  | infinity s => cases h
  | zero s => rfl
  | finite s m e hpos =>
    cases s with
    | negative => exact absurd rfl hlt
    | positive => rfl

/-! ### Sums -/

theorem le_trans_of_nonneg (hx : (0 : Float) ≤ x) (hy : (0 : Float) ≤ y) (hz : (0 : Float) ≤ z) (hxy : x ≤ y)
    (hyz : y ≤ z) : x ≤ z := by
  obtain ⟨a, ha⟩ := nonneg_iff.1 hx
  obtain ⟨b, hb⟩ := nonneg_iff.1 hy
  obtain ⟨c, hc⟩ := nonneg_iff.1 hz
  rw [ha.le_iff hb] at hxy
  rw [hb.le_iff hc] at hyz
  exact (ha.le_iff hc).2 (hxy.trans hyz)

theorem add_nonneg (hx : (0 : Float) ≤ x) (hy : (0 : Float) ≤ y) : (0 : Float) ≤ x + y := by
  obtain ⟨a, ha⟩ := nonneg_iff.1 hx
  obtain ⟨b, hb⟩ := nonneg_iff.1 hy
  obtain ⟨r, -, hsum⟩ := counts_add ha hb
  exact nonneg_iff.2 ⟨_, hsum⟩

theorem le_add_right (hx : (0 : Float) ≤ x) (hy : (0 : Float) ≤ y) : x ≤ x + y := by
  obtain ⟨a, ha⟩ := nonneg_iff.1 hx
  obtain ⟨b, hb⟩ := nonneg_iff.1 hy
  obtain ⟨r, hr, hsum⟩ := counts_add ha hb
  have hle : a ≤ r := ha.roundsTo.le hr Nat.one_pos Nat.one_pos (by omega)
  exact (ha.le_iff hsum).2 (le_min hle ha.le_limit)

theorem add_le_add_right (hx : (0 : Float) ≤ x) (hy : (0 : Float) ≤ y) (hz : (0 : Float) ≤ z) (h : x ≤ y) :
    x + z ≤ y + z := by
  obtain ⟨a, ha⟩ := nonneg_iff.1 hx
  obtain ⟨b, hb⟩ := nonneg_iff.1 hy
  obtain ⟨c, hc⟩ := nonneg_iff.1 hz
  obtain ⟨r, hr, hsum⟩ := counts_add ha hc
  obtain ⟨r', hr', hsum'⟩ := counts_add hb hc
  rw [ha.le_iff hb] at h
  have hle : r ≤ r' := hr.le hr' Nat.one_pos Nat.one_pos (by omega)
  exact (Units.le_iff hsum hsum').2 (min_le_min_right limit hle)

theorem zero_add_le (hx : (0 : Float) ≤ x) : 0 + x ≤ x ∧ x ≤ 0 + x := by
  obtain ⟨a, ha⟩ := nonneg_iff.1 hx
  obtain ⟨r, hr, hsum⟩ := counts_add units_zero ha
  obtain rfl : r = a := hr.unique ha.roundsTo Nat.one_pos Nat.one_pos (by omega)
  rw [min_eq_left ha.le_limit] at hsum
  exact ⟨(Units.le_iff hsum ha).2 le_rfl, (Units.le_iff ha hsum).2 le_rfl⟩

/-- Sums grow with what they begin with and with the numbers that are added. -/
theorem foldl_add_le {xs ys : List Float} (h : xs.Sublist ys) (hys : ∀ z ∈ ys, (0 : Float) ≤ z) {x y : Float}
    (hx : (0 : Float) ≤ x) (hy : (0 : Float) ≤ y) (hxy : x ≤ y) :
    (0 : Float) ≤ xs.foldl (· + ·) x ∧ xs.foldl (· + ·) x ≤ ys.foldl (· + ·) y := by
  induction h generalizing x y with
  | slnil => exact ⟨hx, hxy⟩
  | cons z _ ih =>
    have hz := hys z List.mem_cons_self
    refine ih (fun w hw => hys w (List.mem_cons_of_mem z hw)) hx (add_nonneg hy hz) ?_
    exact le_trans_of_nonneg hx hy (add_nonneg hy hz) hxy (le_add_right hy hz)
  | cons_cons z _ ih =>
    have hz := hys z List.mem_cons_self
    exact ih (fun w hw => hys w (List.mem_cons_of_mem z hw)) (add_nonneg hx hz) (add_nonneg hy hz)
      (add_le_add_right hx hy hz hxy)

/-! ### Shares -/

theorem isFinite_of_le (hx : (0 : Float) ≤ x) (hy : (0 : Float) ≤ y) (hxy : x ≤ y) (h : y.isFinite = true) :
    x.isFinite = true := by
  obtain ⟨a, ha⟩ := nonneg_iff.1 hx
  obtain ⟨b, hb⟩ := nonneg_iff.1 hy
  rw [ha.le_iff hb] at hxy
  rw [hb.isFinite_iff] at h
  exact ha.isFinite_iff.2 (hxy.trans_lt h)

theorem pos_of_not_nonpos (hx : (0 : Float) ≤ x) (h : ¬ x ≤ (0 : Float)) : (0 : Float) < x := by
  obtain ⟨a, ha⟩ := nonneg_iff.1 hx
  rw [ha.le_iff units_zero] at h
  exact (units_zero.lt_iff ha).2 (by omega)

theorem nonneg_of_pos (h : (0 : Float) < x) : (0 : Float) ≤ x := by
  have hlt : UnpackedFloat.lt (0 : Float).toModel.unpack x.toModel.unpack = true := decide_eq_true_iff.1 h
  refine decide_eq_true_iff.2 ?_
  show UnpackedFloat.le (0 : Float).toModel.unpack x.toModel.unpack = true
  rw [UnpackedFloat.lt, beq_iff_eq] at hlt
  rw [UnpackedFloat.le, hlt]
  rfl

theorem le_one_of_part {r : ℕ} (hr : RoundsTo (a * one) b r) (hle : a ≤ b) (hb : 0 < b) : r ≤ one := by
  refine hr.le units_one.roundsTo hb Nat.one_pos ?_
  calc a * one * 1 ≤ b * one * 1 := Nat.mul_le_mul_right 1 (Nat.mul_le_mul_right one hle)
    _ = one * b := by ring

theorem eq_one_of_whole {r : ℕ} (hr : RoundsTo (a * one) a r) (ha : 0 < a) : r = one :=
  hr.unique units_one.roundsTo ha Nat.one_pos (by ring)

section

variable (hx : (0 : Float) ≤ x) (hxy : x ≤ y) (hpos : (0 : Float) < y) (hy : y.isFinite = true)
include hx hxy hpos hy

/-- A part of a whole that is finite and not 0 is rounded as a fraction of the whole. -/
theorem exists_units_div :
    ∃ a b r, Units x a ∧ Units y b ∧ a ≤ b ∧ 0 < b ∧ RoundsTo (a * one) b r ∧ Units (x / y) (min r limit) := by
  obtain ⟨a, ha⟩ := nonneg_iff.1 hx
  obtain ⟨b, hb⟩ := nonneg_iff.1 (nonneg_of_pos hpos)
  rw [ha.le_iff hb] at hxy
  rw [units_zero.lt_iff hb] at hpos
  rw [hb.isFinite_iff] at hy
  obtain ⟨r, hr, hquot⟩ := counts_div ha hb (hxy.trans_lt hy) hy hpos
  exact ⟨a, b, r, ha, hb, hxy, hpos, hr, hquot⟩

theorem div_unit : (0 : Float) ≤ x / y ∧ x / y ≤ (1 : Float) := by
  obtain ⟨a, b, r, -, -, hle, hb, hr, hquot⟩ := exists_units_div hx hxy hpos hy
  have hone : min r limit ≤ one := (min_le_left r limit).trans (le_one_of_part hr hle hb)
  exact ⟨nonneg_iff.2 ⟨_, hquot⟩, (hquot.le_iff units_one).2 hone⟩

/-- The whole is all of itself. -/
theorem div_eq_one (hyx : y ≤ x) : x / y = 1 := by
  obtain ⟨a, b, r, ha, hb, hle, hpos, hr, hquot⟩ := exists_units_div hx hxy hpos hy
  obtain rfl : a = b := le_antisymm hle ((hb.le_iff ha).1 hyx)
  rw [eq_one_of_whole hr hpos, min_eq_left one_lt_limit.le] at hquot
  exact hquot.eq units_one zero_lt_units_one

end

end Likeness.Binary64
