import Likeness.Json.Codec
import Likeness.Settings.Basic
import Likeness.Yaml.Record

/-!
# Settings as text

The options have names, under which they stand in a YAML file or in a JSON object. An option that is
missing has its default, and a name that is unknown is refused.
-/

namespace Likeness.Settings

open Yaml (Head ReadResult atNode)

/-- A kind of values of options: its JSON form, and how it is read from YAML. -/
structure Kind (β : Type) where
  codec : Codec β
  ofYaml : Head → ReadResult β

namespace Kind

def number : Kind Float := ⟨.float, fun h => atNode h.readFloat⟩

/-- A whole number of 64 bits. In messages a count has another name than a word. -/
def size : Kind Nat := ⟨.nat 64, fun h => atNode (h.readWord "usize")⟩

def word : Kind UInt64 := ⟨.word, fun h => atNode ((h.readWord "u64").map (·.toUInt64))⟩

def flag : Kind Bool := ⟨.bool, fun h => atNode h.readBool⟩

/-- Whether a scalar stands for no size. -/
def isNoSize : Head → ReadResult Bool
  | .scalar tag text .plain =>
    if tag == some Yaml.nullTag then
      if Yaml.isNull text then .ok true
      else .error (.value (Yaml.describeText text) "null", .mapping)
    else .ok (tag.isNone && (text.isEmpty || Yaml.isNull text))
  | _ => .ok false

def optionalSize : Kind (Option Nat) where
  codec := .option (.nat 64)
  ofYaml h := do
    if ← isNoSize h then return none else return some (← size.ofYaml h)

def metricNames : List String := MetricChoice.all.map (·.name)

def readMetric (name : String) : Except Yaml.Misfit MetricChoice :=
  match MetricChoice.ofName? name with
  | some m => .ok m
  | none => .error (.unknownVariant name metricNames)

/-- What follows a tag that names a variant has to be null. -/
def checkNothing (h : Head) : Except Yaml.Misfit Unit :=
  match h with
  | .scalar _ text style =>
    if style == .plain && (text.isEmpty || Yaml.isNull text) then .ok ()
    else .error (.value (Yaml.describeText text) "null")
  | h => .error (h.misfit "unit")

/-- The name of a variant that a local tag gives. -/
def variantTag? (h : Head) : Option String :=
  let tag := match h with
    | .scalar t _ _ => t
    | .sequence t => t
    | .mapping t => t
  match tag.map (·.toList) with
  | some ('!' :: cs) => some (.ofList cs)
  | _ => none

def metric : Kind MetricChoice where
  codec := .name (·.name) MetricChoice.ofName?
  ofYaml h :=
    match variantTag? h with
    | some name => do
      let m ← (readMetric name).mapError (·, .mapping)
      atNode (checkNothing h)
      return m
    | none => atNode do
      readMetric (← h.readText "a YAML tag starting with '!'")

end Kind

/-- An option: its name, its kind, and its place in the settings. -/
structure NamedOption where
  name : String
  jsonField : Codec.Field (Settings Float)
  yamlField : Yaml.Field (Settings Float)

def option {β : Type} (name : String) (kind : Kind β) (get : Settings Float → β)
    (set : Settings Float → β → Settings Float) : NamedOption where
  name
  jsonField := (Codec.field name kind.codec get fun v s => set s v).defaulted
  yamlField := ⟨name, fun h s => (kind.ofYaml h).map (set s)⟩

/-- All options in their order. -/
def options : List NamedOption :=
  [ option "token_threshold" .number (·.thresholds.token)
      fun s v => { s with thresholds.token := v },
    option "ast_threshold" .number (·.thresholds.ast) fun s v => { s with thresholds.ast := v },
    option "hash_threshold" .number (·.thresholds.hash) fun s v => { s with thresholds.hash := v },
    option "token_weight" .number (·.voteWeights.token)
      fun s v => { s with voteWeights.token := v },
    option "ast_weight" .number (·.voteWeights.ast) fun s v => { s with voteWeights.ast := v },
    option "hash_weight" .number (·.voteWeights.hash) fun s v => { s with voteWeights.hash := v },
    option "decision_threshold" .number (·.decisionThreshold)
      fun s v => { s with decisionThreshold := v },
    option "confidence_token_weight" .number (·.confidenceWeights.token)
      fun s v => { s with confidenceWeights.token := v },
    option "confidence_ast_weight" .number (·.confidenceWeights.ast)
      fun s v => { s with confidenceWeights.ast := v },
    option "confidence_hash_weight" .number (·.confidenceWeights.hash)
      fun s v => { s with confidenceWeights.hash := v },
    option "kgram_size" .size (·.k) fun s v => { s with k := v },
    option "winnowing_window" .size (·.w) fun s v => { s with w := v },
    option "min_tokens_for_hash_detector" .size (·.minTokens) fun s v => { s with minTokens := v },
    option "max_source_bytes" .size (·.maxBytes) fun s v => { s with maxBytes := v },
    option "max_lcs_len" .size (·.maxLength) fun s v => { s with maxLength := v },
    option "max_syntax_depth" .size (·.maxDepth) fun s v => { s with maxDepth := v },
    option "token_metric" .metric (·.metric) fun s v => { s with metric := v },
    option "ngram_size" .size (·.groupSize) fun s v => { s with groupSize := v },
    option "hash_seed" .word (·.seed) fun s v => { s with seed := v },
    option "normalize_unicode" .flag (·.normalizeUnicode)
      fun s v => { s with normalizeUnicode := v },
    option "agreement_strong_max" .number (·.cutoffs.strongMax)
      fun s v => { s with cutoffs.strongMax := v },
    option "agreement_moderate_max" .number (·.cutoffs.moderateMax)
      fun s v => { s with cutoffs.moderateMax := v },
    option "worker_threads" .optionalSize (·.workers) fun s v => { s with workers := v } ]

/-- The JSON form of settings. -/
def codec : Codec (Settings Float) :=
  .closedRecord .default (options.map (·.jsonField))

/-- Why a text gives no settings: it cannot be read, or the settings are refused. -/
inductive LoadError where
  | yaml (e : Yaml.Failure)
  | invalid (flaw : Flaw Float)

def LoadError.message : LoadError → String
  | yaml e => s!"failed to parse YAML: {e.message}"
  | invalid flaw => flaw.report

/-- Reads settings from YAML, and accepts them if they have no flaw. -/
def ofYaml (text : String) : Except LoadError (Settings Float) := do
  let record := Yaml.readRecord (options.map (·.yamlField)) "struct DetectionConfig" .default text
  let s ← record.mapError .yaml
  s.check.mapError .invalid
  return s

end Likeness.Settings
