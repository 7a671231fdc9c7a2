import Likeness.Fingerprint.Set
import Likeness.Json.Codec
import Likeness.Lex.Stream
import Likeness.Overlap.Metric
import Likeness.Parse.Source
import Likeness.Source.File

/-!
# JSON forms of the stages

The JSON forms of tokens, parse errors, metrics and fingerprints, and of the options of the stages.
-/

namespace Likeness.Form

open Codec

/-! ### Tokens -/

def tokenKind : Codec Lex.Kind := .name (·.name) Lex.Kind.ofName?

def token : Codec Lex.Token := .record default
  [ field "kind" tokenKind (·.kind) fun v t => { t with kind := v },
    field "text" text (·.text) fun v t => { t with text := v },
    field "start" (nat 64) (·.start) fun v t => { t with start := v },
    field "end" (nat 64) (·.stop) fun v t => { t with stop := v } ]

namespace Problem

open Likeness.Lex (Problem)

def offset : Problem → Nat
  | .unlexable o _ | .unterminatedString o => o
  | .invalidOptions _ => 0

def length : Problem → Nat
  | .unlexable _ n => n
  | _ => 0

def reason : Problem → String
  | .invalidOptions r => r
  | _ => ""

def variants : List (Variant Problem) :=
  [ { name := "unlexable", isOf := fun p => p matches .unlexable .., start := .unlexable 0 0
      fields := [
        field "offset" (nat 64) offset fun v p => .unlexable v (length p),
        field "len" (nat 64) length fun v p => .unlexable (offset p) v] },
    { name := "unterminated_string", isOf := fun p => p matches .unterminatedString _
      start := .unterminatedString 0
      fields := [field "offset" (nat 64) offset fun v _ => .unterminatedString v] },
    { name := "invalid_config", isOf := fun p => p matches .invalidOptions _
      start := .invalidOptions ""
      fields := [field "message" text reason fun v _ => .invalidOptions v] } ]

end Problem

def problem : Codec Lex.Problem := .choice "type" Problem.variants

def stream : Codec Lex.Stream := .record default
  [ field "text" text (·.text) fun v s => { s with text := v },
    field "tokens" (list token) (·.tokens) fun v s => { s with tokens := v },
    field "diagnostics" (list problem) (·.problems) fun v s => { s with problems := v },
    field "lexer_version" (nat 32) (·.version) fun v s => { s with version := v } ]

def lexOptions : Codec Lex.Options := .record {}
  [ field "version" (nat 32) (·.version) fun v o => { o with version := v },
    field "normalize_unicode" bool (·.normalizeUnicode)
      fun v o => { o with normalizeUnicode := v } ]

/-! ### Parse errors -/

namespace Cause

open Parse (Cause)

def detail : Cause → String
  | .missing s | .language s | .invalidOptions s => s
  | _ => ""

def limit : Cause → Nat
  | .tooDeep n => n
  | _ => 0

def variants : List (Variant Cause) :=
  [ { name := "unexpected_syntax", isOf := (· == .unexpectedSyntax), start := .unexpectedSyntax },
    { name := "missing", isOf := fun c => c matches .missing _, start := .missing ""
      fields := [field "expected" text detail fun v _ => .missing v] },
    { name := "too_deep", isOf := fun c => c matches .tooDeep _, start := .tooDeep 0
      fields := [field "limit" (nat 64) limit fun v _ => .tooDeep v] },
    { name := "language", isOf := fun c => c matches .language _, start := .language ""
      fields := [field "message" text detail fun v _ => .language v] },
    { name := "no_tree", isOf := (· == .noTree), start := .noTree },
    { name := "invalid_config", isOf := fun c => c matches .invalidOptions _
      start := .invalidOptions ""
      fields := [field "message" text detail fun v _ => .invalidOptions v] } ]

end Cause

def parseCause : Codec Parse.Cause := .choice "type" Cause.variants

def parseError : Codec Parse.Error := .record ⟨0, 0, .noTree⟩
  [ field "line" (nat 64) (·.line) fun v e => { e with line := v },
    field "column" (nat 64) (·.column) fun v e => { e with column := v },
    field "kind" parseCause (·.cause) fun v e => { e with cause := v } ]

def parseOptions : Codec Parse.Options := .record {}
  [ field "version" (nat 32) (·.version) fun v o => { o with version := v },
    field "max_depth" (nat 64) (·.maxDepth) fun v o => { o with maxDepth := v } ]

/-! ### Metrics -/

def groupSize : Overlap.Metric → Nat
  | .ngramJaccard n => n
  | .lcs => 0

def metric : Codec Overlap.Metric := .choice "kind"
  [ { name := "lcs", isOf := (· == .lcs), start := .lcs },
    { name := "ngram_jaccard", isOf := (· != .lcs), start := .ngramJaccard 0
      fields := [field "n" (nat 64) groupSize fun v _ => .ngramJaccard v] } ]

def overlapFields : List (Codec.Field Overlap.Options) :=
  [ field "version" (nat 32) (·.version) fun v o => { o with version := v },
    field "metric" metric (·.metric) fun v o => { o with metric := v },
    field "max_lcs_len" (nat 64) (·.maxLength) fun v o => { o with maxLength := v },
    field "fallback_ngram" (nat 64) (·.fallback) fun v o => { o with fallback := v } ]

def overlapOptions : Codec Overlap.Options := .record {} overlapFields

/-! ### Fingerprints -/

open Fingerprint (Mark Origin PrintSet)

def mark : Codec Mark := .record default
  [ field "hash" word (·.hash) fun v m => { m with hash := v },
    field "position" (nat 64) (·.position) fun v m => { m with position := v } ]

def origin : Codec Origin := .record default
  [ field "fingerprint_version" (nat 16) (·.algorithmVersion)
      fun v o => { o with algorithmVersion := v },
    field "algorithm_name" text (·.algorithm) fun v o => { o with algorithm := v },
    field "k" (nat 64) (·.k) fun v o => { o with k := v },
    field "w" (nat 64) (·.w) fun v o => { o with w := v },
    field "seed" word (·.seed) fun v o => { o with seed := v },
    field "config_version" (nat 32) (·.optionsVersion) fun v o => { o with optionsVersion := v },
    field "token_count" (nat 64) (·.tokenCount) fun v o => { o with tokenCount := v },
    field "kgram_count" (nat 64) (·.gramCount) fun v o => { o with gramCount := v } ]

def printSet : Codec PrintSet := .record default
  [ field "fingerprints" (list mark) (·.marks) fun v s => { s with marks := v },
    field "meta" origin (·.origin) fun v s => { s with origin := v } ]

def fingerprintOptions : Codec Fingerprint.Options := .record {}
  [ field "version" (nat 32) (·.version) fun v o => { o with version := v },
    field "k" (nat 64) (·.k) fun v o => { o with k := v },
    field "w" (nat 64) (·.w) fun v o => { o with w := v },
    field "seed" word (·.seed) fun v o => { o with seed := v } ]

/-! ### Source files -/

def sourceFile : Codec SourceFile := .record default
  [ field "filename" text (·.filename) fun v f => { f with filename := v },
    field "source_text" text (·.text) fun v f => { f with text := v },
    field "encoding" text (·.encoding) fun v f => { f with encoding := v } ]

namespace InputError

def bytes : InputError → Nat
  | .tooLarge _ n _ => n
  | .empty _ => 0

def limit : InputError → Nat
  | .tooLarge _ _ n => n
  | .empty _ => 0

def variants : List (Variant InputError) :=
  [ { name := "empty", isOf := fun e => e matches .empty _, start := .empty ""
      fields := [field "filename" text (·.filename) fun v _ => .empty v] },
    { name := "too_large", isOf := fun e => e matches .tooLarge .., start := .tooLarge "" 0 0
      fields := [
        field "filename" text (·.filename) fun v e => .tooLarge v (bytes e) (limit e),
        field "bytes" (nat 64) bytes fun v e => .tooLarge e.filename v (limit e),
        field "limit" (nat 64) limit fun v e => .tooLarge e.filename (bytes e) v] } ]

end InputError

def inputError : Codec Likeness.InputError := .choice "type" InputError.variants

end Likeness.Form
