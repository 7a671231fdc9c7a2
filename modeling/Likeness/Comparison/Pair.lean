import Likeness.Decision.Verdict
import Likeness.Settings.Basic
import Likeness.Source.Store

/-!
# Comparing two sources

Prepared sources are compared by three detectors, and their scores are decided on. A detector that
cannot run says why. `PairVerdict` is what is reported of a pair.
-/

namespace Likeness

open Decision (Outcome PerDetector Verdict)

/-- A source with its artifacts. -/
structure Prepared where
  filename : String
  encoding : String
  text : String
  shared : Shared
deriving Inhabited

namespace Prepared

def artifacts (p : Prepared) : Artifacts := p.shared.value

def digest (p : Prepared) : String := p.artifacts.digest

def tokenCount (p : Prepared) : Nat := p.artifacts.tokenCount

/-- The normalized texts of the tokens. -/
def values (p : Prepared) : List String := p.artifacts.stream.values

end Prepared

/-- What is reported of a pair. -/
structure PairVerdict (α : Type) where
  left : String
  right : String
  identicalContent : Bool
  /-- How many fingerprints both have, if the fingerprints were compared. -/
  sharedFingerprints : Option Nat
  tokenMetric : Overlap.Metric
  /-- The metric for the symbols, if the trees were compared. -/
  astMetric : Option Overlap.Metric
  verdict : Verdict α
deriving BEq, DecidableEq, Inhabited, Repr

/-- Why sources could not be compared. -/
inductive CompareError (α : Type) where
  | input (e : InputError)
  | lex (e : Lex.Problem)
  | decision (e : Decision.Error α)
  | settings (reason : String)
  | workers (reason : String)
deriving BEq, DecidableEq, Inhabited, Repr

def parseErrorReason : String := "parse_error"

def insufficientTokensReason : String := "insufficient_tokens"

variable {α : Type} [Number α]

namespace CompareError

def message : CompareError α → String
  | input e => s!"input rejected: {e.message}"
  | lex e => s!"lexing failed: {e.message}"
  | decision e => s!"decision failed: {e.message}"
  | settings r => s!"invalid configuration: {r}"
  | workers r => s!"worker pool unavailable: {r}"

/-- The message of the error of a stage that is the cause. -/
def cause? : CompareError α → Option String
  | input e => some e.message
  | lex e => some e.message
  | decision e => some e.message
  | settings _ | workers _ => none

end CompareError

namespace Settings

variable (s : Settings α)

def deriveOptions : DeriveOptions := ⟨s.lexOptions, s.parseOptions, s.fingerprintOptions⟩

/-- Checks a source file and takes its artifacts from a store, which makes them if need be. -/
def prepare (f : SourceFile) (store : Store) : Except (CompareError α) (Prepared × Store) := do
  (f.check s.maxBytes).mapError .input
  let (shared, store) ← (store.getOrDerive f.text s.deriveOptions).mapError .lex
  return (⟨f.filename, f.encoding, f.text, shared⟩, store)

/-! ### Detectors -/

variable (l r : Prepared)

def tokenOutcome : Outcome α := .scored (s.overlapOptions.compare l.values r.values).value

def astOutcome : Outcome α :=
  if l.artifacts.hasTree && r.artifacts.hasTree then
    .scored (s.overlapOptions.compare l.artifacts.symbols r.artifacts.symbols).value
  else .unavailable parseErrorReason

def hashOutcome : Outcome α :=
  if l.tokenCount < s.minHashTokens || r.tokenCount < s.minHashTokens then
    .unavailable insufficientTokensReason
  else match l.artifacts.prints, r.artifacts.prints with
  | .ok a, .ok b => .scored (a.jaccard b).value
  | .error e, _ => .unavailable e.message
  | .ok _, .error e => .unavailable e.message

/-- What the detectors find of a pair. -/
def outcomes : PerDetector (Outcome α) :=
  ⟨s.tokenOutcome l r, s.astOutcome l r, s.hashOutcome l r⟩

/-- How many fingerprints two sources share, if both have fingerprints. -/
def sharedPrints? : Option Nat :=
  match l.artifacts.prints, r.artifacts.prints with
  | .ok a, .ok b => some (a.sharedCount b)
  | _, _ => none

/-- Compares two prepared sources. -/
def compare : Except (CompareError α) (PairVerdict α) := do
  let v ← (s.policy.decide (s.outcomes l r)).mapError .decision
  return {
    left := l.filename
    right := r.filename
    identicalContent := l.digest == r.digest
    sharedFingerprints := v.scores.hash.bind fun _ => sharedPrints? l r
    tokenMetric := s.overlapOptions.metricFor l.tokenCount r.tokenCount
    astMetric := v.scores.ast.map fun _ =>
      s.overlapOptions.metricFor l.artifacts.symbols.length r.artifacts.symbols.length
    verdict := v }

end Settings
end Likeness
