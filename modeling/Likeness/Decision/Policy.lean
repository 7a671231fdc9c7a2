import Likeness.Decimal.Number

/-!
# Decision policies

Three detectors look at a pair of sources. A policy says which score counts as a vote of a detector,
what each vote weighs, which share of the votes flags a pair, and how the scores are combined into a
measure of confidence.
-/

namespace Likeness.Decision

/-- The detectors: overlap of the tokens, of the syntax trees, and of the fingerprints. -/
inductive Detector where
  | token
  | ast
  | hash
deriving BEq, DecidableEq, Inhabited, Repr

namespace Detector

def all : List Detector := [token, ast, hash]

def name : Detector → String
  | token => "token"
  | ast => "ast"
  | hash => "hash"

def ofName? (s : String) : Option Detector := all.find? (·.name == s)

end Detector

/-- A value for each detector. -/
structure PerDetector (β : Type) where
  token : β
  ast : β
  hash : β
deriving BEq, DecidableEq, Inhabited, Repr

namespace PerDetector

variable {β γ : Type}

def get (p : PerDetector β) : Detector → β
  | .token => p.token
  | .ast => p.ast
  | .hash => p.hash

def ofFn (f : Detector → β) : PerDetector β := ⟨f .token, f .ast, f .hash⟩

def map (f : β → γ) (p : PerDetector β) : PerDetector γ := ⟨f p.token, f p.ast, f p.hash⟩

def total [Add β] (p : PerDetector β) : β := p.token + p.ast + p.hash

end PerDetector

/-- What a detector found: a score, or why there is none. -/
inductive Outcome (α : Type) where
  | scored (score : α)
  | unavailable (reason : String)
deriving BEq, DecidableEq, Inhabited, Repr

namespace Outcome

variable {α : Type}

def score? : Outcome α → Option α
  | scored s => some s
  | unavailable _ => none

end Outcome

/-- How far the detectors agree. -/
inductive Agreement where
  | strong
  | moderate
  | poor
deriving BEq, DecidableEq, Inhabited, Repr

namespace Agreement

def all : List Agreement := [strong, moderate, poor]

def name : Agreement → String
  | strong => "strong"
  | moderate => "moderate"
  | poor => "poor"

def ofName? (s : String) : Option Agreement := all.find? (·.name == s)

end Agreement

section

variable {α : Type} [Number α]

/-- The greatest spreads of scores that count as strong and as moderate agreement. -/
structure Cutoffs (α : Type) where
  strongMax : α
  moderateMax : α
deriving BEq, DecidableEq, Inhabited, Repr

namespace Cutoffs

def default : Cutoffs α := ⟨0.2, 0.4⟩

def classify (c : Cutoffs α) (spread : α) : Agreement :=
  if spread ≤ c.strongMax then .strong
  else if spread ≤ c.moderateMax then .moderate
  else .poor

end Cutoffs

inductive Error (α : Type) where
  | invalidPolicy (reason : String)
  | insufficientSignal (reason : String)
  | invalidScore (detector : Detector) (score : α)
deriving BEq, DecidableEq, Inhabited, Repr

def Error.message : Error α → String
  | invalidPolicy r => s!"invalid decision config: {r}"
  | insufficientSignal r => s!"insufficient signal: {r}"
  | invalidScore d s => s!"{d.name} score {Number.text s} is outside [0, 1]"

/-- The rules that a pair is decided by. -/
structure Policy (α : Type) where
  version : Nat
  /-- The score from which on a detector votes. -/
  thresholds : PerDetector α
  voteWeights : PerDetector α
  confidenceWeights : PerDetector α
  /-- The share of the weights from which on a pair is flagged. -/
  decisionThreshold : α
  cutoffs : Cutoffs α
deriving BEq, DecidableEq, Inhabited, Repr

namespace Policy

def default : Policy α where
  version := 1
  thresholds := ⟨0.70, 0.80, 0.60⟩
  voteWeights := ⟨1, 2, 1.5⟩
  confidenceWeights := ⟨0.3, 0.4, 0.3⟩
  decisionThreshold := 0.5
  cutoffs := .default

/-- How far the confidence weights may be from a sum of 1. -/
def tolerance : α := 1e-6

/-- Whether two numbers are further apart than the tolerance. -/
def apart (x y : α) : Bool := tolerance < x - y || tolerance < y - x

/-- What is wrong with the numbers of one detector. -/
def detectorFault? (p : Policy α) (d : Detector) : Option String :=
  let threshold := p.thresholds.get d
  let weight := p.voteWeights.get d
  let share := p.confidenceWeights.get d
  if !Number.isUnit threshold then
    some s!"{d.name} threshold must be between 0.0 and 1.0 (got {Number.text threshold})"
  else if !Number.isFinite weight || weight < 0 then
    some s!"{d.name} vote weight must be a finite value >= 0.0 (got {Number.text weight})"
  else if !Number.isUnit share then
    some s!"{d.name} confidence weight must be between 0.0 and 1.0 (got {Number.text share})"
  else none

/-- What is wrong with a policy; the first fault counts. -/
def fault? (p : Policy α) : Option String :=
  if p.version == 0 then some "config version must be >= 1"
  else match Detector.all.findSome? p.detectorFault? with
  | some fault => some fault
  | none =>
    let share := p.confidenceWeights.total
    let c := p.cutoffs
    if p.voteWeights.total ≤ 0 then some "vote weights must not all be zero"
    else if apart share 1 then
      some s!"confidence weights must sum to 1.0 (got {Number.text share})"
    else if !Number.isUnit p.decisionThreshold then
      some ("decision_threshold must be between 0.0 and 1.0 " ++
        s!"(got {Number.text p.decisionThreshold})")
    else if !Number.isUnit c.strongMax || !Number.isUnit c.moderateMax ||
        c.moderateMax < c.strongMax then
      some ("agreement cut points must satisfy 0.0 <= strong_max <= moderate_max <= 1.0 " ++
        s!"(got {Number.text c.strongMax}, {Number.text c.moderateMax})")
    else none

def check (p : Policy α) : Except (Error α) Unit :=
  match p.fault? with
  | some fault => .error (.invalidPolicy fault)
  | none => .ok ()

end Policy
end
end Likeness.Decision
