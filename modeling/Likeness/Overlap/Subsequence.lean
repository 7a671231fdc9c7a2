/-!
# Longest common subsequences

`commonLength` is the length of a longest common subsequence of two sequences. It goes over the
table of the lengths for all beginnings of the two, row by row, and keeps one row.
-/

namespace Likeness.Overlap

variable {α : Type} [BEq α]

/-- The next row of the table, for one more element `x` of the longer sequence. The elements of the
shorter one come with the entries of the row before; `corner` is the entry before them, and `left`
is the entry of this row before the next. -/
def nextRow (x : α) : List α → List Nat → (corner left : Nat) → List Nat
  | y :: ys, up :: ups, corner, left =>
    let here := if x == y then corner + 1 else max up left
    here :: nextRow x ys ups up here
  | _, _, _, _ => []

/-- The last row of the table for `outer` and `inner`. -/
def lastRow (outer inner : List α) : List Nat :=
  outer.foldl (fun row x => nextRow x inner row 0 0) (List.replicate inner.length 0)

/-- The length of a longest common subsequence. -/
def commonLength (a b : List α) : Nat :=
  let (outer, inner) := if b.length ≤ a.length then (a, b) else (b, a)
  (lastRow outer inner).getLastD 0

end Likeness.Overlap
