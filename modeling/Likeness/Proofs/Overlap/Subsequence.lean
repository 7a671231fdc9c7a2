import Mathlib.Data.List.Basic
import Mathlib.Tactic.Common
import Likeness.Overlap.Subsequence

/-!
# The table gives the length of a longest common subsequence

* `longest` is the recursion on both sequences that the table stands for, and `rowFrom` the row of the table for one
  of them; `nextRow_eq` is one row from the one before, `lastRow_eq` the run over all rows;
* `commonLength_longest` : `commonLength` is the greatest length of a common subsequence.
-/

namespace Likeness.Overlap

variable {α : Type} [BEq α]

/-! ### The recursion behind the table -/

/-- The length of a longest common subsequence, by the first elements. -/
def longest : List α → List α → Nat
  | [], _ => 0
  | _, [] => 0
  | x :: xs, y :: ys => if x == y then longest xs ys + 1 else max (longest xs (y :: ys)) (longest (x :: xs) ys)
termination_by xs ys => xs.length + ys.length

@[simp] theorem longest_nil_left (ys : List α) : longest [] ys = 0 := by
  rw [longest]

@[simp] theorem longest_nil_right (xs : List α) : longest xs [] = 0 := by
  cases xs <;> simp [longest]

/-- The row of the table for `seen`, from behind `done` on. The elements that are seen and done stand in reverse. -/
def rowFrom (seen done : List α) : List α → List Nat
  | [] => []
  | y :: ys => longest seen (y :: done) :: rowFrom seen (y :: done) ys

theorem rowFrom_nil (done ys : List α) : rowFrom [] done ys = List.replicate ys.length 0 := by
  induction ys generalizing done with
  | nil => rfl
  | cons y ys ih => rw [rowFrom, ih, longest_nil_left, List.length_cons, List.replicate_succ]

/-- One more element `x` seen takes the row to the next one. -/
theorem nextRow_eq (x : α) (seen done ys : List α) :
    nextRow x ys (rowFrom seen done ys) (longest seen done) (longest (x :: seen) done) =
      rowFrom (x :: seen) done ys := by
  induction ys generalizing done with
  | nil => rfl
  | cons y ys ih =>
    have hhere : (if x == y then longest seen done + 1
        else max (longest seen (y :: done)) (longest (x :: seen) done)) = longest (x :: seen) (y :: done) := by
      rw [longest]
    rw [rowFrom, nextRow, rowFrom]
    simp only [hhere]
    rw [ih]

theorem foldl_nextRow_eq (seen outer inner : List α) :
    outer.foldl (fun row x => nextRow x inner row 0 0) (rowFrom seen [] inner) =
      rowFrom (outer.reverse ++ seen) [] inner := by
  induction outer generalizing seen with
  | nil => rfl
  | cons x outer ih =>
    have hrow := nextRow_eq x seen [] inner
    rw [longest_nil_right, longest_nil_right] at hrow
    rw [List.foldl_cons, hrow, ih, List.reverse_cons, List.append_assoc, List.singleton_append]

theorem lastRow_eq (outer inner : List α) : lastRow outer inner = rowFrom outer.reverse [] inner := by
  rw [lastRow, ← rowFrom_nil [], foldl_nextRow_eq, List.append_nil]

theorem getLastD_rowFrom (seen done ys : List α) :
    (rowFrom seen done ys).getLastD (longest seen done) = longest seen (ys.reverse ++ done) := by
  induction ys generalizing done with
  | nil => rfl
  | cons y ys ih => rw [rowFrom, List.getLastD_cons, ih, List.reverse_cons, List.append_assoc, List.singleton_append]

theorem lastRow_getLastD (outer inner : List α) :
    (lastRow outer inner).getLastD 0 = longest outer.reverse inner.reverse := by
  have hlast := getLastD_rowFrom outer.reverse [] inner
  rwa [longest_nil_right, List.append_nil, ← lastRow_eq] at hlast

theorem commonLength_cases (a b : List α) :
    commonLength a b = longest a.reverse b.reverse ∨ commonLength a b = longest b.reverse a.reverse := by
  rw [commonLength]
  split
  rename_i outer inner e
  split at e
  · obtain ⟨rfl, rfl⟩ := Prod.mk.inj e
    exact .inl (lastRow_getLastD _ _)
  · obtain ⟨rfl, rfl⟩ := Prod.mk.inj e
    exact .inr (lastRow_getLastD _ _)

/-! ### Common subsequences -/

variable [LawfulBEq α]

theorem exists_longest (xs ys : List α) : ∃ s : List α, s.Sublist xs ∧ s.Sublist ys ∧ s.length = longest xs ys := by
  fun_induction longest xs ys with
  | case1 ys => exact ⟨[], List.nil_sublist _, List.nil_sublist _, rfl⟩
  | case2 xs => exact ⟨[], List.nil_sublist _, List.nil_sublist _, rfl⟩
  | case3 x xs y ys hxy ih =>
    obtain ⟨s, hs, hs', hlen⟩ := ih
    obtain rfl : x = y := by simpa using hxy
    exact ⟨x :: s, hs.cons_cons x, hs'.cons_cons x, by rw [List.length_cons, hlen]⟩
  | case4 x xs y ys _ ih1 ih2 =>
    obtain ⟨s, hs, hs', hlen⟩ := ih1
    obtain ⟨t, ht, ht', hlen'⟩ := ih2
    rcases Nat.le_total (longest xs (y :: ys)) (longest (x :: xs) ys) with hle | hle
    · exact ⟨t, ht, ht'.cons y, by omega⟩
    · exact ⟨s, hs.cons x, hs', by omega⟩

theorem length_le_longest {s xs ys : List α} (hs : s.Sublist xs) (hs' : s.Sublist ys) :
    s.length ≤ longest xs ys := by
  fun_induction longest xs ys generalizing s with
  | case1 ys => simp [List.sublist_nil.1 hs]
  | case2 xs => simp [List.sublist_nil.1 hs']
  | case3 x xs y ys _ ih =>
    have hlen := ih hs.tail hs'.tail
    rw [List.length_tail] at hlen
    omega
  | case4 x xs y ys hxy ih1 ih2 =>
    have hne : x ≠ y := by simpa using hxy
    -- `s` cannot begin with both `x` and `y`
    rcases List.sublist_cons_iff.1 hs with hs | ⟨r, rfl, hr⟩
    · exact Nat.le_trans (ih1 hs hs') (Nat.le_max_left _ _)
    · rcases List.sublist_cons_iff.1 hs' with hs' | ⟨r', hr', -⟩
      · exact Nat.le_trans (ih2 hs hs') (Nat.le_max_right _ _)
      · exact absurd (List.cons.inj hr').1 hne

theorem exists_common_sublist (a b : List α) :
    ∃ s : List α, s.Sublist a ∧ s.Sublist b ∧ s.length = commonLength a b := by
  rcases commonLength_cases a b with h | h
  · obtain ⟨s, hs, hs', hlen⟩ := exists_longest a.reverse b.reverse
    exact ⟨s.reverse, List.reverse_sublist.1 (by simpa using hs), List.reverse_sublist.1 (by simpa using hs'),
      by rw [List.length_reverse, hlen, h]⟩
  · obtain ⟨s, hs, hs', hlen⟩ := exists_longest b.reverse a.reverse
    exact ⟨s.reverse, List.reverse_sublist.1 (by simpa using hs'), List.reverse_sublist.1 (by simpa using hs),
      by rw [List.length_reverse, hlen, h]⟩

theorem length_le_commonLength {s a b : List α} (ha : s.Sublist a) (hb : s.Sublist b) :
    s.length ≤ commonLength a b := by
  rw [← List.length_reverse]
  rcases commonLength_cases a b with h | h
  · exact h ▸ length_le_longest ha.reverse hb.reverse
  · exact h ▸ length_le_longest hb.reverse ha.reverse

/-- Some common subsequence has the length that the table gives, and none is longer. -/
theorem commonLength_longest (a b : List α) :
    (∃ s : List α, s.Sublist a ∧ s.Sublist b ∧ s.length = commonLength a b) ∧
      ∀ s : List α, s.Sublist a → s.Sublist b → s.length ≤ commonLength a b :=
  ⟨exists_common_sublist a b, fun _ => length_le_commonLength⟩

theorem commonLength_longest_letters :
    let a := ['a', 'b', 'c', 'b', 'd', 'a', 'b']
    let b := ['b', 'd', 'c', 'a', 'b', 'a']
    let s := ['b', 'c', 'b', 'a']
    LawfulBEq Char ∧ s.Sublist a ∧ s.Sublist b ∧ s.length ≤ commonLength a b ∧ commonLength a b = 4 ∧
      ∃ t : List Char, t.Sublist a ∧ t.Sublist b ∧ t.length = commonLength a b := by
  intro a b s
  have ha : s.Sublist a := by decide
  have hb : s.Sublist b := by decide
  obtain ⟨hsome, hall⟩ := commonLength_longest a b
  exact ⟨inferInstance, ha, hb, hall s ha hb, by decide, hsome⟩

theorem commonLength_le_left (a b : List α) : commonLength a b ≤ a.length := by
  obtain ⟨s, hs, -, hlen⟩ := exists_common_sublist a b
  exact hlen ▸ hs.length_le

theorem commonLength_le_right (a b : List α) : commonLength a b ≤ b.length := by
  obtain ⟨s, -, hs, hlen⟩ := exists_common_sublist a b
  exact hlen ▸ hs.length_le

/-- What is common to both is so whichever comes first. -/
theorem commonLength_comm (a b : List α) : commonLength a b = commonLength b a := by
  have hle : ∀ a b : List α, commonLength a b ≤ commonLength b a := by
    intro a b
    obtain ⟨s, ha, hb, hlen⟩ := exists_common_sublist a b
    rw [← hlen]
    exact length_le_commonLength hb ha
  exact Nat.le_antisymm (hle a b) (hle b a)

theorem commonLength_self (a : List α) : commonLength a a = a.length :=
  Nat.le_antisymm (commonLength_le_left a a)
    (length_le_commonLength (List.Sublist.refl a) (List.Sublist.refl a))

/-- Only equal sequences have everything in common. -/
theorem two_mul_commonLength_eq_iff {a b : List α} : 2 * commonLength a b = a.length + b.length ↔ a = b := by
  constructor
  · intro h
    have hleft := commonLength_le_left a b
    have hright := commonLength_le_right a b
    obtain ⟨s, hs, hs', hlen⟩ := exists_common_sublist a b
    rw [← hs.eq_of_length (by omega), hs'.eq_of_length (by omega)]
  · rintro rfl
    rw [commonLength_self]
    omega

/-- Nothing is common exactly to sequences without a common element. -/
theorem commonLength_eq_zero_iff {a b : List α} : commonLength a b = 0 ↔ a.Disjoint b := by
  constructor
  · intro h x ha hb
    have hle := length_le_commonLength (List.singleton_sublist.2 ha) (List.singleton_sublist.2 hb)
    rw [List.length_singleton] at hle
    omega
  · intro h
    obtain ⟨s, ha, hb, hlen⟩ := exists_common_sublist a b
    cases s with
    | nil => exact hlen.symm
    | cons x s => exact absurd (hb.subset List.mem_cons_self) (h (ha.subset List.mem_cons_self))

end Likeness.Overlap
