import Likeness.Decision.Policy
import Likeness.Fingerprint.Set
import Likeness.Lex.Stream
import Likeness.Parse.Source

/-!
# Settings

All options of a comparison in one record. The options of each stage are derived from them. `check`
accepts settings under which every stage accepts its own options.
-/

namespace Likeness

open Decision (PerDetector Policy Cutoffs)

/-- The kinds of metrics that settings name; groups have the size that the settings give. -/
inductive MetricChoice where
  | lcs
  | ngramJaccard
deriving BEq, DecidableEq, Inhabited, Repr

namespace MetricChoice

def all : List MetricChoice := [lcs, ngramJaccard]

def name : MetricChoice → String
  | lcs => "lcs"
  | ngramJaccard => "ngram_jaccard"

def ofName? (s : String) : Option MetricChoice := all.find? (·.name == s)

end MetricChoice

structure Settings (α : Type) where
  /-- The score from which on each detector votes. -/
  thresholds : PerDetector α
  voteWeights : PerDetector α
  confidenceWeights : PerDetector α
  /-- The share of the weights from which on a pair is flagged. -/
  decisionThreshold : α
  cutoffs : Cutoffs α
  /-- The length of the runs of tokens that are hashed, and the number of hashes in a window. -/
  k : Nat
  w : Nat
  /-- How many tokens a source must have for its fingerprints to count. -/
  minTokens : Nat
  maxBytes : Nat
  /-- The length up to which sequences are compared by subsequences. -/
  maxLength : Nat
  maxDepth : Nat
  metric : MetricChoice
  /-- The size of the groups of neighbours. -/
  groupSize : Nat
  seed : UInt64
  normalizeUnicode : Bool
  workers : Option Nat
deriving BEq, DecidableEq, Inhabited, Repr

/-- Why settings are refused. -/
inductive Flaw (α : Type) where
  | policy (e : Decision.Error α)
  | fingerprint (e : Fingerprint.Error)
  | syntaxTree (e : Parse.Error)
  | overlap (e : Overlap.Error)
  /-- The option with this name is zero; `rule` is what it must be. -/
  | zero (option rule : String)
deriving BEq, DecidableEq, Inhabited, Repr

variable {α : Type} [Number α]

def Flaw.message : Flaw α → String
  | policy e => e.message
  | fingerprint e => e.message
  | syntaxTree e => e.message
  | overlap e => e.message
  | zero option rule => s!"{option} must be {rule}"

/-- The message of a flaw, as of settings that were checked. -/
def Flaw.report (f : Flaw α) : String := s!"validation error: {f.message}"

namespace Settings

def default : Settings α :=
  let policy : Policy α := .default
  { thresholds := policy.thresholds
    voteWeights := policy.voteWeights
    confidenceWeights := policy.confidenceWeights
    decisionThreshold := policy.decisionThreshold
    cutoffs := policy.cutoffs
    k := 5
    w := 4
    minTokens := 20
    maxBytes := 256 * 1024
    maxLength := 5000
    maxDepth := 1000
    metric := .lcs
    groupSize := 3
    seed := Fingerprint.defaultSeed
    normalizeUnicode := true
    workers := none }

/-! ### Options of the stages -/

variable (s : Settings α)

def lexOptions : Lex.Options := { normalizeUnicode := s.normalizeUnicode }

def parseOptions : Parse.Options := { maxDepth := s.maxDepth }

def overlapOptions : Overlap.Options where
  metric := match s.metric with
    | .lcs => .lcs
    | .ngramJaccard => .ngramJaccard s.groupSize
  maxLength := s.maxLength
  fallback := s.groupSize

def fingerprintOptions : Fingerprint.Options := { k := s.k, w := s.w, seed := s.seed }

def policy : Policy α where
  version := 1
  thresholds := s.thresholds
  voteWeights := s.voteWeights
  confidenceWeights := s.confidenceWeights
  decisionThreshold := s.decisionThreshold
  cutoffs := s.cutoffs

/-- How many tokens both sources must have for their fingerprints to be compared. -/
def minHashTokens : Nat := max s.minTokens s.k

/-- Accepts settings or tells their first flaw. -/
def check : Except (Flaw α) Unit := do
  s.policy.check.mapError .policy
  if s.k == 0 then throw (.zero "kgram_size" ">= 1")
  if s.w == 0 then throw (.zero "winnowing_window" ">= 1")
  s.fingerprintOptions.check.mapError .fingerprint
  if s.groupSize == 0 then throw (.zero "ngram_size" ">= 1")
  s.parseOptions.check.mapError .syntaxTree
  s.overlapOptions.check.mapError .overlap
  if s.maxBytes == 0 then throw (.zero "max_source_bytes" "> 0")
  if s.workers == some 0 then throw (.zero "worker_threads" ">= 1 when set")

end Settings
end Likeness
