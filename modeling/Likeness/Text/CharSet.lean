/-!
# Sets of characters

A set of characters is a list of ranges of code points, in increasing order and with gaps between
them. `CharSet.contains` is membership; `CharSet.normal` brings any list of ranges into that form.
-/

namespace Likeness.Text

/-- A set of characters: ranges of code points, both ends included, in increasing order. -/
structure CharSet where
  ranges : List (Nat × Nat)
deriving BEq, Hashable, Inhabited

namespace CharSet

/-- Joins neighbouring ranges of a list that is sorted by lower ends. -/
def join : List (Nat × Nat) → List (Nat × Nat)
  | [] => []
  | r :: rs =>
    match join rs with
    | [] => [r]
    | s :: ss => if s.1 ≤ r.2 + 1 then (r.1, max r.2 s.2) :: ss else r :: s :: ss

/-- The set that a list of ranges covers. -/
def normal (rs : List (Nat × Nat)) : CharSet :=
  ⟨join (rs.mergeSort fun a b => a.1 ≤ b.1)⟩

def range (lo hi : Char) : CharSet := ⟨[(lo.toNat, hi.toNat)]⟩

def single (c : Char) : CharSet := range c c

def ofString (s : String) : CharSet := normal (s.toList.map fun c => (c.toNat, c.toNat))

def union (a b : CharSet) : CharSet := normal (a.ranges ++ b.ranges)

/-- The gaps from `lo` up to the last code point that a list of ranges leaves. -/
def gaps (lo : Nat) : List (Nat × Nat) → List (Nat × Nat)
  | [] => if lo ≤ 0x10FFFF then [(lo, 0x10FFFF)] else []
  | r :: rs => if lo < r.1 then (lo, r.1 - 1) :: gaps (r.2 + 1) rs else gaps (r.2 + 1) rs

/-- All characters outside a set. -/
def compl (a : CharSet) : CharSet := ⟨gaps 0 a.ranges⟩

def contains (a : CharSet) (c : Char) : Bool :=
  a.ranges.any fun r => r.1 ≤ c.toNat && c.toNat ≤ r.2

instance : Append CharSet := ⟨union⟩

end CharSet
end Likeness.Text
