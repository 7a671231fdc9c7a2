import Likeness.Decision.Policy

/-!
# Verdicts

A pair is flagged when the detectors that vote for it have a large enough share of the weight of
those that have a score. The confidence is the mean of the scores by the confidence weights. A
detector without a score is left out; the verdict is partial then.
-/

namespace Likeness.Decision

/-- A detector without a score, and why. -/
structure Missing where
  detector : Detector
  reason : String
deriving BEq, DecidableEq, Inhabited, Repr

/-- What is decided of a pair. -/
structure Verdict (α : Type) where
  scores : PerDetector (Option α)
  weightedVotes : α
  totalWeight : α
  voteRatio : α
  isPlagiarized : Bool
  confidence : α
  agreement : Agreement
  /-- The difference between the greatest and the least score. -/
  spread : α
  isPartial : Bool
  /-- Whether each detector votes, if it has a score. -/
  votes : PerDetector (Option Bool)
  missing : List Missing
  policyVersion : Nat
deriving BEq, DecidableEq, Inhabited, Repr

variable {α : Type} [Number α]

/-- The detectors that have a score, with it. -/
def available (outcomes : PerDetector (Outcome α)) : List (Detector × α) :=
  Detector.all.filterMap fun d => (outcomes.get d).score?.map fun s => (d, s)

def missing (outcomes : PerDetector (Outcome α)) : List Missing :=
  Detector.all.filterMap fun d => match outcomes.get d with
    | .scored _ => none
    | .unavailable r => some ⟨d, r⟩

namespace Policy

variable (p : Policy α)

/-- Whether a detector votes at a score. -/
def votes (d : Detector) (score : α) : Bool := p.thresholds.get d ≤ score

/-- The weight of the detectors that have a score. -/
def totalWeight (scored : List (Detector × α)) : α :=
  Number.sum (scored.map fun (d, _) => p.voteWeights.get d)

/-- The weight of the detectors that vote. -/
def weightedVotes (scored : List (Detector × α)) : α :=
  scored.foldl (fun sum (d, s) => if p.votes d s then sum + p.voteWeights.get d else sum) 0

/-- The mean of the scores by the confidence weights; the plain mean where all these weights are
zero. -/
def confidence (scored : List (Detector × α)) : α :=
  let weight := Number.sum (scored.map fun (d, _) => p.confidenceWeights.get d)
  Number.clamp <|
    if 0 < weight then
      Number.sum (scored.map fun (d, s) => p.confidenceWeights.get d * s) / weight
    else Number.sum (scored.map (·.2)) / Number.ofNat scored.length

/-- Decides a pair. -/
def decide (outcomes : PerDetector (Outcome α)) : Except (Error α) (Verdict α) :=
  let scored := available outcomes
  match scored.find? fun (_, s) => !Number.isUnit s with
  | some (d, s) => .error (.invalidScore d s)
  | none =>
    match scored with
    | [] => .error (.insufficientSignal "no detector produced a score")
    | (_, first) :: rest =>
      let total := p.totalWeight scored
      if total ≤ 0 then .error (.insufficientSignal "available detectors carry no vote weight")
      else
        let weighted := p.weightedVotes scored
        let ratio := weighted / total
        let others := rest.map (·.2)
        let spread := Number.greatest first others - Number.least first others
        let absent := missing outcomes
        .ok {
          scores := outcomes.map (·.score?)
          weightedVotes := weighted
          totalWeight := total
          voteRatio := ratio
          isPlagiarized := p.decisionThreshold ≤ ratio
          confidence := p.confidence scored
          agreement := p.cutoffs.classify spread
          spread
          isPartial := !absent.isEmpty
          votes := .ofFn fun d => (outcomes.get d).score?.map (p.votes d)
          missing := absent
          policyVersion := p.version }

end Policy
end Likeness.Decision
