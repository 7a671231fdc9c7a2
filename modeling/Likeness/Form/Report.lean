import Likeness.Comparison.Batch
import Likeness.Form.Stages

/-!
# JSON forms of reports

The JSON forms of decision policies, of verdicts, and of the reports on pairs and batches.
-/

namespace Likeness.Form

open Codec
open Decision (Agreement Cutoffs Detector Missing Outcome PerDetector Policy Verdict)

/-! ### Decisions -/

def detector : Codec Detector := .name (·.name) Detector.ofName?

def agreement : Codec Agreement := .name (·.name) Agreement.ofName?

section

variable {β : Type} [Inhabited β]

def perDetectorFields (f : String → (PerDetector β → β) → (β → PerDetector β → PerDetector β) →
    Codec.Field (PerDetector β)) : List (Codec.Field (PerDetector β)) :=
  [ f "token" (·.token) fun v p => { p with token := v },
    f "ast" (·.ast) fun v p => { p with ast := v },
    f "hash" (·.hash) fun v p => { p with hash := v } ]

/-- A value for each detector. -/
def perDetector (c : Codec β) : Codec (PerDetector β) :=
  .record default (perDetectorFields fun name => field name c)

/-- A value or null for each detector. -/
def perDetectorOption (c : Codec β) : Codec (PerDetector (Option β)) :=
  .record default (perDetectorFields fun name => optional name c)

end

namespace Outcome

def score (o : Outcome Float) : Float := o.score?.getD 0

def reason : Outcome Float → String
  | .unavailable r => r
  | .scored _ => ""

end Outcome

def outcome : Codec (Outcome Float) := .choice "status"
  [ { name := "scored", isOf := fun o => o matches .scored _, start := .scored 0
      fields := [field "score" float Outcome.score fun v _ => .scored v] },
    { name := "unavailable", isOf := fun o => o matches .unavailable _, start := .unavailable ""
      fields := [field "reason" text Outcome.reason fun v _ => .unavailable v] } ]

def outcomes : Codec (PerDetector (Outcome Float)) :=
  .record ⟨.scored 0, .scored 0, .scored 0⟩
    [ field "token" outcome (·.token) fun v p => { p with token := v },
      field "ast" outcome (·.ast) fun v p => { p with ast := v },
      field "hash" outcome (·.hash) fun v p => { p with hash := v } ]

def cutoffs : Codec (Cutoffs Float) := .record .default
  [ field "strong_max" float (·.strongMax) fun v c => { c with strongMax := v },
    field "moderate_max" float (·.moderateMax) fun v c => { c with moderateMax := v } ]

def policy : Codec (Policy Float) := .record .default
  [ field "version" (nat 32) (·.version) fun v p => { p with version := v },
    field "thresholds" (perDetector float) (·.thresholds) fun v p => { p with thresholds := v },
    field "vote_weights" (perDetector float) (·.voteWeights) fun v p => { p with voteWeights := v },
    field "confidence_weights" (perDetector float) (·.confidenceWeights)
      fun v p => { p with confidenceWeights := v },
    field "decision_threshold" float (·.decisionThreshold)
      fun v p => { p with decisionThreshold := v },
    (field "agreement" cutoffs (·.cutoffs) fun v p => { p with cutoffs := v }).defaulted ]

def missing : Codec Missing := .record default
  [ field "detector" detector (·.detector) fun v m => { m with detector := v },
    field "reason" text (·.reason) fun v m => { m with reason := v } ]

/-- A verdict before anything of it is known. -/
def blankVerdict : Verdict Float where
  scores := ⟨none, none, none⟩
  weightedVotes := 0
  totalWeight := 0
  voteRatio := 0
  isPlagiarized := false
  confidence := 0
  agreement := .strong
  spread := 0
  isPartial := false
  votes := ⟨none, none, none⟩
  missing := []
  policyVersion := 0

/-- The form of verdicts with a form for their numbers. -/
def verdictWith (float : Codec Float) : Codec (Verdict Float) := .record blankVerdict
  [ optional "token_score" float (·.scores.token) fun v r => { r with scores.token := v },
    optional "ast_score" float (·.scores.ast) fun v r => { r with scores.ast := v },
    optional "hash_score" float (·.scores.hash) fun v r => { r with scores.hash := v },
    field "weighted_votes" float (·.weightedVotes) fun v r => { r with weightedVotes := v },
    field "total_weight" float (·.totalWeight) fun v r => { r with totalWeight := v },
    field "vote_ratio" float (·.voteRatio) fun v r => { r with voteRatio := v },
    field "is_plagiarized" bool (·.isPlagiarized) fun v r => { r with isPlagiarized := v },
    field "confidence_score" float (·.confidence) fun v r => { r with confidence := v },
    field "agreement_level" agreement (·.agreement) fun v r => { r with agreement := v },
    field "score_spread" float (·.spread) fun v r => { r with spread := v },
    field "partial" bool (·.isPartial) fun v r => { r with isPartial := v },
    field "votes" (perDetectorOption bool) (·.votes) fun v r => { r with votes := v },
    field "unavailable" (list missing) (·.missing) fun v r => { r with missing := v },
    field "config_version" (nat 32) (·.policyVersion) fun v r => { r with policyVersion := v } ]

def verdict : Codec (Verdict Float) := verdictWith .float

/-! ### Pairs and batches -/

def pairVerdict : Codec (PairVerdict Float) :=
  .record ⟨"", "", false, none, .lcs, none, blankVerdict⟩
    [ field "left" text (·.left) fun v r => { r with left := v },
      field "right" text (·.right) fun v r => { r with right := v },
      field "identical_content" bool (·.identicalContent)
        fun v r => { r with identicalContent := v },
      optional "shared_fingerprints" (nat 64) (·.sharedFingerprints)
        fun v r => { r with sharedFingerprints := v },
      field "token_metric" metric (·.tokenMetric) fun v r => { r with tokenMetric := v },
      optional "ast_metric" metric (·.astMetric) fun v r => { r with astMetric := v },
      field "verdict" verdict (·.verdict) fun v r => { r with verdict := v } ]

def fileFailure : Codec FileFailure := .record default
  [ field "filename" text (·.filename) fun v f => { f with filename := v },
    field "error" text (·.error) fun v f => { f with error := v } ]

def pairFailure : Codec PairFailure := .record default
  [ field "left" text (·.left) fun v f => { f with left := v },
    field "right" text (·.right) fun v f => { f with right := v },
    field "error" text (·.error) fun v f => { f with error := v } ]

def batchReport : Codec (BatchReport Float) := .record ⟨0, 0, [], [], [], 0, false⟩
  [ field "files" (nat 64) (·.files) fun v r => { r with files := v },
    field "pairs_total" (nat 64) (·.pairsTotal) fun v r => { r with pairsTotal := v },
    field "verdicts" (list pairVerdict) (·.verdicts) fun v r => { r with verdicts := v },
    field "failures" (list pairFailure) (·.failures) fun v r => { r with failures := v },
    field "input_errors" (list fileFailure) (·.inputErrors) fun v r => { r with inputErrors := v },
    field "skipped_pairs" (nat 64) (·.skippedPairs) fun v r => { r with skippedPairs := v },
    field "cancelled" bool (·.cancelled) fun v r => { r with cancelled := v } ]

end Likeness.Form
