import Likeness.Fingerprint.Gram
import Likeness.Fingerprint.Winnow
import Likeness.Overlap.Metric

/-!
# Fingerprint sets

The fingerprints of a text are the hashes that winnowing selects from its runs of tokens, each once,
in increasing order. Two texts that share a long enough run of tokens share a fingerprint.
-/

namespace Likeness.Fingerprint

/-! ### Options -/

inductive Error where
  | notEnoughTokens (k got : Nat)
  | invalidK (k : Nat)
  | invalidW (w : Nat)
  | invalidVersion (version : Nat)
deriving BEq, DecidableEq, Inhabited, Repr

def Error.message : Error → String
  | notEnoughTokens k got => s!"not enough tokens for k={k} (got {got})"
  | invalidK k => s!"invalid config: k must be >= 1 (got {k})"
  | invalidW w => s!"invalid config: w must be >= 1 (got {w})"
  | invalidVersion v => s!"invalid config version {v}; expected >= 1"

def defaultSeed : UInt64 := 0xF00DBAADF00DBAAD

/-- The length `k` of the runs, the width `w` of the windows, and the seed of the hashes. -/
structure Options where
  version : Nat := 1
  k : Nat := 5
  w : Nat := 4
  seed : UInt64 := defaultSeed
deriving BEq, DecidableEq, Inhabited, Repr

namespace Options

def check (o : Options) : Except Error Unit :=
  if o.version < 1 then .error (.invalidVersion o.version)
  else if o.k < 1 then .error (.invalidK o.k)
  else if o.w < 1 then .error (.invalidW o.w)
  else .ok ()

/-- The length from which on a shared run surely gives a shared fingerprint. There is none where the sum or the
difference is no machine word. -/
def guaranteeThreshold (o : Options) : Option Nat :=
  if o.w + o.k < UInt64.size ∧ 1 ≤ o.w + o.k then some (o.w + o.k - 1) else none

end Options

/-! ### Sets -/

/-- How a set of fingerprints was made. -/
structure Origin where
  algorithmVersion : Nat
  algorithm : String
  k : Nat
  w : Nat
  seed : UInt64
  optionsVersion : Nat
  tokenCount : Nat
  gramCount : Nat
deriving BEq, DecidableEq, Inhabited, Repr

/-- The fingerprints of a text, in increasing order of their hashes. -/
structure PrintSet where
  marks : List Mark
  origin : Origin
deriving BEq, DecidableEq, Inhabited, Repr

/-- Whether a mark comes before another in a set: by hash, then by position. -/
def Mark.before (a b : Mark) : Bool :=
  a.hash < b.hash || (a.hash == b.hash && a.position ≤ b.position)

/-- Keeps the first of neighbours with one hash. -/
def dropRepeats : List Mark → List Mark
  | a :: b :: rest =>
    if a.hash == b.hash then dropRepeats (a :: rest) else a :: dropRepeats (b :: rest)
  | ms => ms
termination_by ms => ms.length

/-- How many hashes two sequences in increasing order have in common. -/
def countShared : List Mark → List Mark → Nat
  | a :: as, b :: bs =>
    if a.hash < b.hash then countShared as (b :: bs)
    else if b.hash < a.hash then countShared (a :: as) bs
    else countShared as bs + 1
  | _, _ => 0
termination_by as bs => as.length + bs.length

/-- Looks for a hash among `size` marks from place `first` on, halving their number. -/
def search (marks : Array Mark) (hash : UInt64) : (fuel first size : Nat) → Bool
  | fuel + 1, first, size =>
    if 1 < size then
      let middle := first + size / 2
      let above : Bool := match marks[middle]? with
        | some m => hash < m.hash
        | none => true
      search marks hash fuel (if above then first else middle) (size - size / 2)
    else match marks[first]? with
      | some m => m.hash == hash
      | none => false
  | 0, _, _ => false

namespace PrintSet

/-- The set of the selected marks. Of the places of one hash the first is kept. -/
def ofSelected (marks : List Mark) (origin : Origin) : PrintSet :=
  ⟨dropRepeats (marks.mergeSort Mark.before), origin⟩

def size (s : PrintSet) : Nat := s.marks.length

def isEmpty (s : PrintSet) : Bool := s.marks.isEmpty

def hashes (s : PrintSet) : List UInt64 := s.marks.map (·.hash)

def contains (s : PrintSet) (hash : UInt64) : Bool :=
  search s.marks.toArray hash (s.size + 1) 0 s.size

/-- The number of hashes that both sets have. -/
def sharedCount (a b : PrintSet) : Nat := countShared a.marks b.marks

/-- The ratio of the hashes that both sets have to those that one of them has. -/
def jaccard (a b : PrintSet) : Overlap.Ratio :=
  ⟨a.sharedCount b, a.size + b.size - a.sharedCount b⟩

/-- The fingerprints of a sequence of tokens. -/
def ofTokens (tokens : List String) (o : Options) : Except Error PrintSet := do
  o.check
  if tokens.length < o.k then .error (.notEnoughTokens o.k tokens.length)
  else
    let hashes := gramHashes tokens o.k o.seed
    return ofSelected (winnow hashes o.w)
      { algorithmVersion := 1, algorithm := "xxh3rolling_winnow_v1", k := o.k, w := o.w
        seed := o.seed, optionsVersion := o.version, tokenCount := tokens.length
        gramCount := hashes.length }

end PrintSet
end Likeness.Fingerprint
