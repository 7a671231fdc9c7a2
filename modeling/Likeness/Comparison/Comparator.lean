import Likeness.Comparison.Pair

/-!
# Comparators

A comparator has settings without a flaw, and a store in which it keeps the artifacts of the sources
that it prepares.
-/

namespace Likeness

variable {α : Type} [Number α]

structure Comparator (α : Type) [Number α] where
  settings : Settings α
  accepted : settings.check = .ok ()
  store : Store

namespace Comparator

/-- A comparator with an empty store of the given number. What decides on pairs checks its policy once
more. -/
def ofSettings (s : Settings α) (number : Nat) : Except (Flaw α) (Comparator α) :=
  match h : s.check with
  | .ok _ => do
    s.policy.check.mapError .policy
    return ⟨s, h, { number }⟩
  | .error flaw => .error flaw

/-- Prepares a source with the artifacts in the comparator's store. -/
def prepare (c : Comparator α) (f : SourceFile) :
    Except (CompareError α) Prepared × Comparator α :=
  match c.settings.prepare f c.store with
  | .ok (p, store) => (.ok p, { c with store })
  | .error e => (.error e, c)

def compare (c : Comparator α) (l r : Prepared) : Except (CompareError α) (PairVerdict α) :=
  c.settings.compare l r

/-- Prepares two sources and compares them. The second is prepared only after the first. -/
def compareFiles (c : Comparator α) (left right : SourceFile) :
    Except (CompareError α) (PairVerdict α) × Comparator α :=
  match c.prepare left with
  | (.error e, c) => (.error e, c)
  | (.ok l, c) =>
    match c.prepare right with
    | (.error e, c) => (.error e, c)
    | (.ok r, c) => (c.compare l r, c)

def clear (c : Comparator α) : Comparator α := { c with store := c.store.clear }

end Comparator

/-- Compares two sources under settings that may have a flaw. -/
def compareSources (s : Settings α) (left right : SourceFile) :
    Except (CompareError α) (PairVerdict α) := do
  let c ← (Comparator.ofSettings s 0).mapError fun flaw => CompareError.settings flaw.report
  (c.compareFiles left right).1

end Likeness
