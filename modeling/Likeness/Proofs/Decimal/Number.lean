import Mathlib.Algebra.BigOperators.Group.List.Basic
import Mathlib.Algebra.Order.BigOperators.Group.List
import Mathlib.Algebra.Order.Field.Basic
import Mathlib.Algebra.Order.Field.Rat
import Mathlib.Tactic.Linarith
import Likeness.Decimal.Number

/-!
# Numbers for scores over the rationals

What is computed of scores and weights, told of rational numbers: sums of lists, the numbers between
0 and 1, and the least and the greatest number of a list.
-/

namespace Likeness.Number

theorem isUnit_iff (x : ℚ) : isUnit x = true ↔ 0 ≤ x ∧ x ≤ 1 := by
  simp only [isUnit, Bool.and_eq_true, decide_eq_true_eq]

theorem bounds_of_isUnit {α : Type} [Number α] {x : α} (h : isUnit x = true) : (0 : α) ≤ x ∧ x ≤ (1 : α) := by
  simpa [isUnit] using h

/-- The fractions of counts up to `limit` lie between 0 and 1. They do where division rounds to the nearest number, as
long as the counts themselves are numbers. -/
structure FractionsUnit (α : Type) [Number α] (limit : Nat) : Prop where
  zero : isUnit (0 : α) = true
  fraction : ∀ {p q : Nat}, p ≤ q → 0 < q → q ≤ limit → isUnit (ofNat p / ofNat q : α) = true

theorem fractionsUnit_rat (limit : Nat) : FractionsUnit ℚ limit where
  zero := by decide
  fraction := by
    intro p q hle hpos _
    have hq : (0 : ℚ) < q := Nat.cast_pos.2 hpos
    refine (isUnit_iff _).2 ⟨?_, ?_⟩
    · exact div_nonneg (Nat.cast_nonneg p) hq.le
    · exact (div_le_one hq).2 (Nat.cast_le.2 hle)

/-- The fractions of counts up to `limit` are 1 only for the whole. -/
structure FractionsWhole (α : Type) [Number α] (limit : Nat) : Prop where
  eq_one_iff : ∀ {p q : Nat}, p ≤ q → 0 < q → q ≤ limit → ((ofNat p / ofNat q : α) = (1 : α) ↔ p = q)

theorem fractionsWhole_rat (limit : Nat) : FractionsWhole ℚ limit where
  eq_one_iff := by
    intro p q _ hpos _
    have hne : (q : ℚ) ≠ 0 := Nat.cast_ne_zero.2 hpos.ne'
    exact (div_eq_one_iff_eq hne).trans Nat.cast_inj

/-- A fraction of counts is positive if its part is, as long as the counts are no longer than machine words. -/
class PositiveFractions (α : Type) [Number α] : Prop where
  pos : ∀ {p q : Nat}, 0 < p → p ≤ q → q ≤ 2 ^ 64 → (0 : α) < ofNat p / ofNat q

instance : PositiveFractions ℚ where
  pos hp hle _ := div_pos (Nat.cast_pos.2 hp) (Nat.cast_pos.2 (hp.trans_le hle))

theorem foldl_add (a : ℚ) (xs : List ℚ) : xs.foldl (fun x y : ℚ => x + y) a = a + xs.sum := by
  induction xs generalizing a with
  | nil => simp
  | cons x xs ih => rw [List.foldl_cons, ih, List.sum_cons, add_assoc]

theorem sum_eq (xs : List ℚ) : sum xs = xs.sum := by
  cases xs with
  | nil => rfl
  | cons x xs => exact foldl_add x xs

theorem clamp_of_unit {x : ℚ} (h : 0 ≤ x ∧ x ≤ 1) : clamp x = x := by
  have hlow : ¬ x < 0 := not_lt.2 h.1
  have hhigh : ¬ 1 < x := not_lt.2 h.2
  unfold clamp
  rw [if_neg hlow, if_neg hhigh]

theorem clamp_eq (x : ℚ) : clamp x = max 0 (min x 1) := by
  rcases lt_or_ge x 0 with hneg | hnonneg
  · have hclamp : clamp x = 0 := if_pos hneg
    rw [hclamp, max_eq_left ((min_le_left x 1).trans hneg.le)]
  · rcases lt_or_ge 1 x with hlarge | hle
    · have hclamp : clamp x = 1 := (if_neg (not_lt.2 hnonneg)).trans (if_pos hlarge)
      rw [hclamp, min_eq_right hlarge.le, max_eq_right zero_le_one]
    · rw [clamp_of_unit ⟨hnonneg, hle⟩, min_eq_left hle, max_eq_right hnonneg]

theorem clamp_mono {x y : ℚ} (h : x ≤ y) : clamp x ≤ clamp y := by
  rw [clamp_eq, clamp_eq]
  exact max_le_max_left 0 (min_le_min_right 1 h)

/-- Among equal numbers each is the least. -/
theorem least_of_forall_eq {x : ℚ} {xs : List ℚ} (h : ∀ y ∈ xs, y = x) : least x xs = x := by
  induction xs with
  | nil => rfl
  | cons y xs ih =>
    obtain rfl : y = x := h y (by simp)
    have hstep : least y (y :: xs) = least y xs := by simp only [least, List.foldl_cons, ite_self]
    rw [hstep, ih fun z hz => h z (List.mem_cons_of_mem _ hz)]

/-- Among equal numbers each is the greatest. -/
theorem greatest_of_forall_eq {x : ℚ} {xs : List ℚ} (h : ∀ y ∈ xs, y = x) : greatest x xs = x := by
  induction xs with
  | nil => rfl
  | cons y xs ih =>
    obtain rfl : y = x := h y (by simp)
    have hstep : greatest y (y :: xs) = greatest y xs := by simp only [greatest, List.foldl_cons, ite_self]
    rw [hstep, ih fun z hz => h z (List.mem_cons_of_mem _ hz)]

section Choice

variable (better le : ℚ → ℚ → Prop) [DecidableRel better]

theorem foldl_choice_mem (x : ℚ) (xs : List ℚ) : xs.foldl (fun b y => if better y b then y else b) x ∈ x :: xs := by
  induction xs generalizing x with
  | nil => exact List.mem_singleton.2 rfl
  | cons y xs ih =>
    rw [List.foldl_cons]
    split
    · exact List.mem_cons_of_mem x (ih y)
    · rcases List.mem_cons.1 (ih x) with h | h
      · rw [h]
        exact List.mem_cons_self
      · exact List.mem_cons_of_mem x (List.mem_cons_of_mem y h)

/-- What is chosen of a list is no worse than any of its numbers. -/
theorem foldl_choice_le (hrefl : ∀ x, le x x) (htrans : ∀ {x y z}, le x y → le y z → le x z)
    (hyes : ∀ {x y}, better y x → le y x) (hno : ∀ {x y}, ¬ better y x → le x y) {x : ℚ} {xs : List ℚ} :
    ∀ z ∈ x :: xs, le (xs.foldl (fun b y => if better y b then y else b) x) z := by
  induction xs generalizing x with
  | nil =>
    intro z hz
    rw [List.mem_singleton.1 hz]
    exact hrefl x
  | cons y xs ih =>
    have hchoice : le (if better y x then y else x) x ∧ le (if better y x then y else x) y := by
      split
      · rename_i h
        exact ⟨hyes h, hrefl y⟩
      · rename_i h
        exact ⟨hrefl x, hno h⟩
    intro z hz
    rw [List.foldl_cons]
    rcases List.mem_cons.1 hz with rfl | hz
    · exact htrans (ih _ List.mem_cons_self) hchoice.1
    · rcases List.mem_cons.1 hz with rfl | hz
      · exact htrans (ih _ List.mem_cons_self) hchoice.2
      · exact ih z (List.mem_cons_of_mem _ hz)

end Choice

theorem least_mem (x : ℚ) (xs : List ℚ) : least x xs ∈ x :: xs := foldl_choice_mem (fun y b => y < b) x xs

theorem least_le {x : ℚ} {xs : List ℚ} : ∀ z ∈ x :: xs, least x xs ≤ z :=
  foldl_choice_le (fun y b => y < b) (· ≤ ·) le_refl le_trans le_of_lt not_lt.1

theorem greatest_mem (x : ℚ) (xs : List ℚ) : greatest x xs ∈ x :: xs :=
  foldl_choice_mem (fun y b => b < y) x xs

theorem le_greatest {x : ℚ} {xs : List ℚ} : ∀ z ∈ x :: xs, z ≤ greatest x xs :=
  foldl_choice_le (fun y b => b < y) (· ≥ ·) le_refl ge_trans le_of_lt not_lt.1

/-- A sum of numbers that are not negative is 0 only if each of them is. -/
theorem sum_nonpos_iff {xs : List ℚ} (h : ∀ x ∈ xs, 0 ≤ x) : xs.sum ≤ 0 ↔ ∀ x ∈ xs, x = 0 := by
  induction xs with
  | nil => simp
  | cons x xs ih =>
    have hx : 0 ≤ x := h x (by simp)
    have hrest : ∀ y ∈ xs, 0 ≤ y := fun y hy => h y (List.mem_cons_of_mem _ hy)
    have hsum : 0 ≤ xs.sum := List.sum_nonneg hrest
    rw [List.sum_cons, List.forall_mem_cons, ← ih hrest]
    constructor
    · intro hle
      exact ⟨by linarith, by linarith⟩
    · rintro ⟨hzero, hle⟩
      linarith

end Likeness.Number
