import Likeness.Decimal.Number
import Likeness.Overlap.Subsequence
import Std.Data.HashSet

/-!
# How alike two sequences are

The overlap of two sequences is a ratio between 0 and 1. It is the share that a longest common
subsequence has in the two, or the share of the groups of `n` neighbours that both have among those
that one of them has. Long sequences are always compared by groups, since a longest common
subsequence takes time in the product of their lengths.
-/

namespace Likeness.Overlap

open Std (HashSet)

/-- A ratio of two counts. -/
structure Ratio where
  part : Nat
  whole : Nat
deriving BEq, DecidableEq, Inhabited, Repr

namespace Ratio

def zero : Ratio := ⟨0, 1⟩

/-- The value of a ratio, 0 where there is nothing to share. -/
def value {α : Type} [Number α] (r : Ratio) : α :=
  if r.whole == 0 then 0 else Number.ofNat r.part / Number.ofNat r.whole

end Ratio

/-- How two sequences are compared. -/
inductive Metric where
  | lcs
  | ngramJaccard (n : Nat)
deriving BEq, DecidableEq, Inhabited, Repr

/-- The groups of `n` neighbours of a sequence. A shorter sequence is one group. -/
def groups {α : Type} (n : Nat) (xs : List α) : List (List α) :=
  if xs.length < n then [xs]
  else (List.range (xs.length + 1 - n)).zipWith (fun _ t => t.take n) (tails xs)
where
  tails : List α → List (List α)
    | [] => [[]]
    | x :: xs => (x :: xs) :: tails xs

/-- The ratio of what both sets hold to what one of them holds. -/
def jaccard {α : Type} [BEq α] [Hashable α] (a b : List α) : Ratio :=
  let a : HashSet α := .ofList a
  let b : HashSet α := .ofList b
  let shared := (a.toList.filter (b.contains ·)).length
  ⟨shared, a.size + b.size - shared⟩

/-- How alike two sequences are. An empty one is like nothing. -/
def overlap {α : Type} [BEq α] [Hashable α] (a b : List α) (metric : Metric) : Ratio :=
  if a.isEmpty || b.isEmpty then .zero
  else match metric with
    | .lcs => ⟨2 * commonLength a b, a.length + b.length⟩
    | .ngramJaccard n => jaccard (groups (max n 1) a) (groups (max n 1) b)

/-! ### Choosing a metric -/

inductive Error where
  | invalidOptions (reason : String)
deriving BEq, DecidableEq, Inhabited, Repr

def Error.message : Error → String
  | invalidOptions r => s!"invalid similarity configuration: {r}"

/-- Which metric to use. A sequence longer than `maxLength` is not compared by subsequences but by
groups of `fallback`. -/
structure Options where
  version : Nat := 1
  metric : Metric := .lcs
  maxLength : Nat := 5000
  fallback : Nat := 3
deriving BEq, DecidableEq, Inhabited, Repr

namespace Options

def check (o : Options) : Except Error Unit :=
  if o.version == 0 then .error (.invalidOptions "config version must be >= 1")
  else if o.metric == .ngramJaccard 0 then .error (.invalidOptions "ngram size must be >= 1")
  else if o.fallback == 0 then .error (.invalidOptions "fallback ngram size must be >= 1")
  else .ok ()

/-- The metric for sequences of the given lengths. -/
def metricFor (o : Options) (a b : Nat) : Metric :=
  if o.metric == .lcs && o.maxLength < max a b then .ngramJaccard o.fallback else o.metric

/-- How alike two sequences are under the metric for their lengths. -/
def compare {α : Type} [BEq α] [Hashable α] (o : Options) (a b : List α) : Ratio :=
  overlap a b (o.metricFor a.length b.length)

end Options
end Likeness.Overlap
