import Mathlib.Algebra.Order.Field.Basic
import Mathlib.Algebra.Order.Field.Rat
import Likeness.Overlap.Metric
import Likeness.Proofs.Decimal.Number
import Likeness.Proofs.Overlap.Subsequence

/-!
# Overlaps as rational numbers

The value of a ratio over the rationals, and when an overlap by subsequences is whole: exactly for equal sequences
(`value_overlap_lcs_eq_one_iff`). Under each metric an overlap is the same from both sides (`overlap_comm`), a part of
the whole (`overlap_part_le_whole`), and the whole for a sequence and itself (`overlap_self`).
-/

namespace Likeness.Overlap

open Std (HashSet)

/-! ### Ratios -/

namespace Ratio

theorem value_eq_div {β : Type} [Number β] {r : Ratio} (hwhole : 0 < r.whole) :
    (r.value : β) = Number.ofNat r.part / Number.ofNat r.whole := by
  rw [value, if_neg]
  simpa using Nat.ne_of_gt hwhole

theorem value_rat (r : Ratio) : (r.value : ℚ) = if r.whole = 0 then 0 else (r.part : ℚ) / r.whole := by
  simp only [value, beq_iff_eq]
  rfl

theorem value_pos {β : Type} [Number β] [Number.PositiveFractions β] {r : Ratio} (hpart : 0 < r.part)
    (hle : r.part ≤ r.whole) (hwhole : r.whole ≤ 2 ^ 64) : (0 : β) < r.value := by
  rw [value_eq_div (hpart.trans_le hle)]
  exact Number.PositiveFractions.pos hpart hle hwhole

theorem value_eq_one_iff {r : Ratio} (hwhole : 0 < r.whole) : (r.value : ℚ) = 1 ↔ r.part = r.whole := by
  have hne : (r.whole : ℚ) ≠ 0 := Nat.cast_ne_zero.2 (Nat.ne_of_gt hwhole)
  rw [value_rat, if_neg (Nat.ne_of_gt hwhole), div_eq_one_iff_eq hne, Nat.cast_inj]

/-- The value of a ratio lies between 0 and 1 where the fractions of counts up to its whole do. -/
theorem isUnit_value {β : Type} [Number β] {limit : Nat} (hβ : Number.FractionsUnit β limit) {r : Ratio}
    (hpart : r.part ≤ r.whole) (hwhole : r.whole ≤ limit) : Number.isUnit (r.value : β) = true := by
  unfold value
  split
  · exact hβ.zero
  · rename_i hne
    exact hβ.fraction hpart (Nat.pos_of_ne_zero (by simpa using hne)) hwhole

end Ratio

/-! ### Overlap by subsequences -/

section Lcs

variable {α : Type} [BEq α] [Hashable α]

theorem overlap_lcs {a b : List α} (ha : a ≠ []) (hb : b ≠ []) :
    overlap a b .lcs = ⟨2 * commonLength a b, a.length + b.length⟩ := by
  simp [overlap, ha, hb]

/-- Sequences overlap wholly only if they are equal. -/
theorem value_overlap_lcs_eq_one_iff [LawfulBEq α] {β : Type} [Number β] {limit : Nat}
    (hβ : Number.FractionsWhole β limit) {a b : List α} (ha : a ≠ []) (hb : b ≠ [])
    (hlimit : a.length + b.length ≤ limit) : ((overlap a b .lcs).value : β) = (1 : β) ↔ a = b := by
  have hpos : 0 < a.length + b.length := Nat.add_pos_left (List.length_pos_iff.2 ha) _
  have hpart : 2 * commonLength a b ≤ a.length + b.length := by
    have hleft := commonLength_le_left a b
    have hright := commonLength_le_right a b
    omega
  rw [overlap_lcs ha hb, Ratio.value_eq_div hpos, hβ.eq_one_iff hpart hpos hlimit]
  exact two_mul_commonLength_eq_iff

end Lcs

/-! ### Overlap by groups -/

section Groups

theorem tails_ne_nil {α : Type} (xs : List α) : groups.tails xs ≠ [] := by
  cases xs <;> simp [groups.tails]

theorem length_tails {α : Type} (xs : List α) : (groups.tails xs).length = xs.length + 1 := by
  induction xs with
  | nil => rfl
  | cons x xs ih => rw [groups.tails, List.length_cons, ih, List.length_cons]

/-- A sequence has no more groups than elements, but for the one group of a short sequence. -/
theorem length_groups_le {α : Type} {n : Nat} (hn : 0 < n) {xs : List α} (hxs : xs ≠ []) :
    (groups n xs).length ≤ xs.length := by
  have hpos := List.length_pos_iff.2 hxs
  rw [groups]
  split
  · rw [List.length_singleton]
    exact hpos
  · rw [List.length_zipWith, List.length_range, length_tails]
    omega

theorem groups_ne_nil {α : Type} (n : Nat) (xs : List α) : groups n xs ≠ [] := by
  rw [groups]
  split
  · simp
  · have hlen : xs.length + 1 - n ≠ 0 := by omega
    simp [tails_ne_nil, hlen]

variable {α : Type} [BEq α] [Hashable α] [LawfulBEq α]

theorem nodup_toList (s : HashSet α) : s.toList.Nodup := s.distinct_toList.imp fun hne => by simpa using hne

/-- The elements of one set that another set holds are as many as those of the other that the one holds. -/
theorem length_filter_contains_comm (a b : HashSet α) :
    (a.toList.filter (b.contains ·)).length = (b.toList.filter (a.contains ·)).length := by
  apply List.Perm.length_eq
  rw [List.perm_ext_iff_of_nodup ((nodup_toList a).filter _) ((nodup_toList b).filter _)]
  intro x
  simp [and_comm]

theorem jaccard_comm (a b : List α) : jaccard a b = jaccard b a := by
  simp only [jaccard]
  rw [length_filter_contains_comm, Nat.add_comm]

theorem jaccard_part_le_whole (a b : List α) : (jaccard a b).part ≤ (jaccard a b).whole := by
  have hleft := List.length_filter_le (fun x => (HashSet.ofList b).contains x) (HashSet.ofList a).toList
  have hright := List.length_filter_le (fun x => (HashSet.ofList a).contains x) (HashSet.ofList b).toList
  rw [← length_filter_contains_comm] at hright
  rw [HashSet.length_toList] at hleft hright
  simp only [jaccard]
  omega

theorem jaccard_self (a : List α) : (jaccard a a).part = (jaccard a a).whole := by
  have hall : (HashSet.ofList a).toList.filter ((HashSet.ofList a).contains ·) = (HashSet.ofList a).toList := by
    rw [List.filter_eq_self]
    intro x hx
    simpa using hx
  simp only [jaccard]
  rw [hall, HashSet.length_toList]
  omega

theorem jaccard_whole_pos {a : List α} (ha : a ≠ []) (b : List α) : 0 < (jaccard a b).whole := by
  have hright := List.length_filter_le (fun x => (HashSet.ofList a).contains x) (HashSet.ofList b).toList
  rw [← length_filter_contains_comm, HashSet.length_toList] at hright
  have hsize : 0 < (HashSet.ofList a).size := by
    obtain ⟨x, a, rfl⟩ := List.exists_cons_of_ne_nil ha
    have hmem : x ∈ (HashSet.ofList (x :: a)).toList := by simp
    have := List.length_pos_of_mem hmem
    rwa [HashSet.length_toList] at this
  simp only [jaccard]
  omega

theorem jaccard_whole_le (a b : List α) : (jaccard a b).whole ≤ a.length + b.length := by
  have hleft : (HashSet.ofList a).size ≤ a.length := HashSet.size_ofList_le
  have hright : (HashSet.ofList b).size ≤ b.length := HashSet.size_ofList_le
  simp only [jaccard]
  omega

end Groups

/-! ### Overlap under any metric -/

section Any

variable {α : Type} [BEq α] [Hashable α] [LawfulBEq α]

theorem overlap_comm (a b : List α) (m : Metric) : overlap a b m = overlap b a m := by
  unfold overlap
  rw [Bool.or_comm]
  cases m with
  | lcs => rw [commonLength_comm, Nat.add_comm a.length]
  | ngramJaccard n => simp only [jaccard_comm (groups (max n 1) a)]

/-- An overlap is a part of a whole that is not nothing. -/
theorem overlap_part_le_whole (a b : List α) (m : Metric) :
    (overlap a b m).part ≤ (overlap a b m).whole ∧ 0 < (overlap a b m).whole := by
  unfold overlap
  split
  · exact ⟨Nat.zero_le 1, Nat.one_pos⟩
  · rename_i hne
    cases m with
    | lcs =>
      have ha : 0 < a.length := List.length_pos_iff.2 (by rintro rfl; simp at hne)
      have hleft := commonLength_le_left a b
      have hright := commonLength_le_right a b
      show 2 * commonLength a b ≤ a.length + b.length ∧ 0 < a.length + b.length
      omega
    | ngramJaccard n =>
      exact ⟨jaccard_part_le_whole _ _, jaccard_whole_pos (groups_ne_nil _ a) _⟩

/-- The whole is not more than both sequences together. -/
theorem overlap_whole_le (a b : List α) (m : Metric) : (overlap a b m).whole ≤ a.length + b.length + 1 := by
  unfold overlap
  split
  · exact Nat.le_add_left 1 _
  · rename_i hne
    obtain ⟨ha, hb⟩ : a ≠ [] ∧ b ≠ [] := by simpa using hne
    cases m with
    | lcs => exact Nat.le_add_right _ 1
    | ngramJaccard n =>
      have hpos : 0 < max n 1 := by omega
      have hwhole := jaccard_whole_le (groups (max n 1) a) (groups (max n 1) b)
      have hleft := length_groups_le hpos ha
      have hright := length_groups_le hpos hb
      show (jaccard (groups (max n 1) a) (groups (max n 1) b)).whole ≤ a.length + b.length + 1
      omega

/-- A sequence overlaps wholly with itself. -/
theorem overlap_self {a : List α} (ha : a ≠ []) (m : Metric) : (overlap a a m).part = (overlap a a m).whole := by
  cases m with
  | lcs =>
    rw [overlap_lcs ha ha, commonLength_self]
    exact Nat.two_mul _
  | ngramJaccard n =>
    have hempty : (a.isEmpty || a.isEmpty) = false := by simp [ha]
    simp only [overlap, hempty, Bool.false_eq_true, if_false]
    exact jaccard_self _

namespace Options

variable (o : Options)

theorem metricFor_comm (m n : Nat) : o.metricFor m n = o.metricFor n m := by
  rw [metricFor, metricFor, Nat.max_comm]

theorem compare_comm (a b : List α) : o.compare a b = o.compare b a := by
  rw [compare, compare, overlap_comm, metricFor_comm]

theorem value_compare_self {a : List α} (ha : a ≠ []) : ((o.compare a a).value : ℚ) = 1 := by
  rw [compare, Ratio.value_eq_one_iff (overlap_part_le_whole a a _).2]
  exact overlap_self ha _

theorem isUnit_value_compare {β : Type} [Number β] {limit : Nat} (hβ : Number.FractionsUnit β limit) {a b : List α}
    (hlimit : a.length + b.length + 1 ≤ limit) : Number.isUnit ((o.compare a b).value : β) = true :=
  Ratio.isUnit_value hβ (overlap_part_le_whole a b _).1 ((overlap_whole_le a b _).trans hlimit)

end Options
end Any
end Likeness.Overlap
