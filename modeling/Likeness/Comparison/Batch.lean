import Likeness.Comparison.Comparator

/-!
# Batches

A batch prepares all its files and compares every two of those that could be prepared. The artifacts
are kept in a store of its own. A batch that is cancelled prepares its files and skips every pair.
-/

namespace Likeness

/-- A file that could not be prepared. -/
structure FileFailure where
  filename : String
  error : String
deriving BEq, DecidableEq, Inhabited, Repr

/-- A pair that could not be compared. -/
structure PairFailure where
  left : String
  right : String
  error : String
deriving BEq, DecidableEq, Inhabited, Repr

structure BatchReport (α : Type) where
  files : Nat
  pairsTotal : Nat
  verdicts : List (PairVerdict α)
  failures : List PairFailure
  inputErrors : List FileFailure
  skippedPairs : Nat
  cancelled : Bool
deriving BEq, DecidableEq, Inhabited, Repr

/-- The verdicts on the pairs that are flagged. -/
def BatchReport.flagged {α : Type} (r : BatchReport α) : List (PairVerdict α) :=
  r.verdicts.filter (·.verdict.isPlagiarized)

/-- Every two elements of a list, the earlier one first. -/
def pairs {β : Type} : List β → List (β × β)
  | [] => []
  | x :: xs => xs.map (x, ·) ++ pairs xs

variable {α : Type} [Number α]

/-- What became of a pair. -/
inductive PairOutcome (α : Type) where
  | done (v : PairVerdict α)
  | failed (e : CompareError α)
  | skipped

/-- The course of a batch: what became of every file and of every pair, in order. -/
structure BatchRun (α : Type) where
  files : List (String × Except (CompareError α) Prepared)
  pairs : List ((Prepared × Prepared) × PairOutcome α)
  cancelled : Bool

namespace BatchRun

/-- The sources that could be prepared. -/
def preparedOf (files : List (String × Except (CompareError α) Prepared)) : List Prepared :=
  files.filterMap fun f => f.2.toOption

/-- Prepares files one after the other. -/
def prepareAll (s : Settings α) : Store → List SourceFile →
    List (String × Except (CompareError α) Prepared)
  | _, [] => []
  | store, f :: fs =>
    match s.prepare f store with
    | .ok (p, store) => (f.filename, .ok p) :: prepareAll s store fs
    | .error e => (f.filename, .error e) :: prepareAll s store fs

def comparePair (s : Settings α) (cancelled : Bool) (p : Prepared × Prepared) : PairOutcome α :=
  if cancelled then .skipped
  else match s.compare p.1 p.2 with
    | .ok v => .done v
    | .error e => .failed e

def report (r : BatchRun α) : BatchReport α :=
  let skipped := (r.pairs.filter fun p => p.2 matches .skipped).length
  { files := r.files.length
    pairsTotal := r.pairs.length
    verdicts := r.pairs.filterMap fun
      | (_, .done v) => some v
      | _ => none
    failures := r.pairs.filterMap fun
      | ((left, right), .failed e) => some ⟨left.filename, right.filename, e.message⟩
      | _ => none
    inputErrors := r.files.filterMap fun
      | (filename, .error e) => some ⟨filename, e.message⟩
      | _ => none
    skippedPairs := skipped
    cancelled := 0 < skipped || r.cancelled }

end BatchRun

/-- Runs a batch. `cancelled` tells that it is cancelled before it starts. -/
def Comparator.runBatch (c : Comparator α) (files : List SourceFile) (cancelled : Bool) :
    BatchRun α :=
  let prepared := BatchRun.prepareAll c.settings {} files
  { files := prepared
    pairs := (pairs (BatchRun.preparedOf prepared)).map fun p =>
      (p, BatchRun.comparePair c.settings cancelled p)
    cancelled }

/-- Compares all pairs of files. -/
def Comparator.compareBatch (c : Comparator α) (files : List SourceFile) (cancelled : Bool) :
    BatchReport α := (c.runBatch files cancelled).report

end Likeness
