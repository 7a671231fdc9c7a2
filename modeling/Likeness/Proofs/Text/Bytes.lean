import Mathlib.Tactic.Common
import Likeness.Text.Bytes

/-!
# Parts of a text and their places

The bytes of a text add up over its parts (`byteSize_append`), so each part is found again at its place
(`slice_of_standsAt`).
-/

namespace Likeness.Text

/-! ### Bytes -/

theorem foldl_utf8Size (n : Nat) (cs : List Char) :
    cs.foldl (fun n c => n + c.utf8Size) n = n + byteSize cs := by
  unfold byteSize
  induction cs generalizing n with
  | nil => rfl
  | cons c cs ih =>
    rw [List.foldl_cons, List.foldl_cons, ih, ih (0 + c.utf8Size)]
    omega

@[simp] theorem byteSize_nil : byteSize [] = 0 := rfl

@[simp] theorem byteSize_cons (c : Char) (cs : List Char) : byteSize (c :: cs) = c.utf8Size + byteSize cs := by
  unfold byteSize
  rw [List.foldl_cons, foldl_utf8Size, Nat.zero_add]
  rfl

@[simp] theorem byteSize_append (a b : List Char) : byteSize (a ++ b) = byteSize a + byteSize b := by
  unfold byteSize
  rw [List.foldl_append, foldl_utf8Size]
  rfl

theorem byteSize_pos {cs : List Char} (h : cs ≠ []) : 0 < byteSize cs := by
  obtain ⟨c, cs, rfl⟩ := List.exists_cons_of_ne_nil h
  have := c.utf8Size_pos
  rw [byteSize_cons]
  omega

theorem byteSize_replicate (n : Nat) (c : Char) : byteSize (List.replicate n c) = n * c.utf8Size := by
  induction n with
  | zero => simp
  | succ n ih => rw [List.replicate_succ, byteSize_cons, ih, Nat.succ_mul, Nat.add_comm]

/-! ### Parts -/

/-- A text has `part` from byte `i` up to byte `j`, and `after` behind it. -/
def StandsAt (whole part after : List Char) (i j : Nat) : Prop :=
  ∃ before, whole = before ++ part ++ after ∧ byteSize before = i ∧ byteSize (before ++ part) = j

@[simp] theorem dropBytes_append (a b : List Char) : dropBytes (byteSize a) (a ++ b) = some b := by
  induction a with
  | nil => simp [dropBytes]
  | cons c a ih =>
    obtain ⟨n, hn⟩ : ∃ n, byteSize (c :: a) = n + 1 := ⟨_, (Nat.sub_add_cancel (byteSize_pos (by simp))).symm⟩
    have hsize : c.utf8Size + byteSize a = n + 1 := by simpa using hn
    rw [hn, List.cons_append, dropBytes, if_pos (by omega), show n + 1 - c.utf8Size = byteSize a by omega, ih]

@[simp] theorem takeBytes_append (a b : List Char) : takeBytes (byteSize a) (a ++ b) = some a := by
  induction a with
  | nil => simp [takeBytes]
  | cons c a ih =>
    obtain ⟨n, hn⟩ : ∃ n, byteSize (c :: a) = n + 1 := ⟨_, (Nat.sub_add_cancel (byteSize_pos (by simp))).symm⟩
    have hsize : c.utf8Size + byteSize a = n + 1 := by simpa using hn
    rw [hn, List.cons_append, takeBytes, if_pos (by omega), show n + 1 - c.utf8Size = byteSize a by omega, ih]
    rfl

theorem slice_of_standsAt {whole part after : List Char} {i j : Nat} (h : StandsAt whole part after i j) :
    slice whole i j = some part := by
  obtain ⟨before, rfl, rfl, rfl⟩ := h
  have hlen : byteSize (before ++ part) - byteSize before = byteSize part := by simp
  rw [slice, if_pos (by simp), List.append_assoc, dropBytes_append, hlen]
  exact takeBytes_append part after

end Likeness.Text
