import Likeness.Comparison.Batch
import Likeness.Json.Printer

/-!
# Journals

What is noted while sources are prepared and compared: spans, which have a name, and events, which
happen within a span or outside of all. Each is told from the result of the step that it is about.
-/

namespace Likeness

inductive Level where
  | error
  | warn
  | info
  | debug
  | trace
deriving BEq, DecidableEq, Inhabited, Repr

namespace Level

def all : List Level := [error, warn, info, debug, trace]

def name : Level → String
  | error => "ERROR"
  | warn => "WARN"
  | info => "INFO"
  | debug => "DEBUG"
  | trace => "TRACE"

/-- How much is noted at a level and above. -/
def rank : Level → Nat
  | error => 1
  | warn => 2
  | info => 3
  | debug => 4
  | trace => 5

end Level

/-- A span that is opened or an event that happens. `context` is the name of the span around it. -/
structure Note where
  level : Level
  /-- The part of the program that makes the note. -/
  target : String
  /-- The name of the span, or the kind of event. -/
  name : String
  isSpan : Bool
  context : Option String
  fields : List (String × Json)
deriving Inhabited

namespace Note

/-- A note as an object. -/
def toJson (n : Note) : Json :=
  if n.isSpan then
    .obj [("span", .str n.name), ("parent", .text? n.context), ("fields", .obj n.fields)]
  else
    .obj [("level", .str n.level.name), ("within", .text? n.context),
      ("fields", .obj (("message", .str n.name) :: n.fields))]

end Note

/-- The value of a field that is written by its text. -/
def shown {β : Type} [ToString β] (x : β) : Json := .str (toString x)

/-- How a metric is written in a note. -/
def Overlap.Metric.shown : Overlap.Metric → Json
  | .lcs => .str "Lcs"
  | .ngramJaccard n => .str s!"NgramJaccard \x7b n: {n} \x7d"

namespace Journal

def compareTarget : String := "copydetect::compare"

def batchTarget : String := "copydetect::batch"

def compareSpan : String := "copydetect.compare"

def batchSpan : String := "copydetect.batch"

def event (level : Level) (target name : String) (context : Option String)
    (fields : List (String × Json)) : Note :=
  { level, target, name, isSpan := false, context, fields }

def span (target name : String) (context : Option String) (fields : List (String × Json)) : Note :=
  { level := .info, target, name, isSpan := true, context, fields }

/-- The notes of the preparation of a file. -/
def ofPrepare (context : Option String) (result : Except (CompareError Float) Prepared) :
    List Note :=
  match result with
  | .error e => [event .warn compareTarget "prepare_failure" context [("error", .str e.message)]]
  | .ok p =>
    let problems := p.artifacts.stream.problems
    let flaws := match problems with
      | [] => []
      | first :: _ =>
        [event .warn compareTarget "lex_diagnostics" context
          [("filename", .str p.filename), ("diagnostics", shown problems.length),
            ("first", .str first.message)]]
    let parse := match p.artifacts.parseError? with
      | none => []
      | some e =>
        [event .warn compareTarget "parse_failure" context
          [("filename", .str p.filename), ("error", .str e.message)]]
    flaws ++ parse ++
      [event .debug compareTarget "prepare_success" context
        [("filename", .str p.filename), ("digest", .str p.digest),
          ("tokens", shown p.tokenCount), ("lex_diagnostics", shown problems.length)]]

/-- The notes of a comparison. -/
def ofCompare (context : Option String) (l r : Prepared)
    (result : Except (CompareError Float) (PairVerdict Float)) : List Note :=
  let opening := span compareTarget compareSpan context
    [("left", .str l.filename), ("right", .str r.filename)]
  let closing := match result with
    | .ok v =>
      event .info compareTarget "compare_success" (some compareSpan)
        [("is_plagiarized", shown v.verdict.isPlagiarized),
          ("confidence", .namedNumber v.verdict.confidence),
          ("vote_ratio", .namedNumber v.verdict.voteRatio),
          ("partial", shown v.verdict.isPartial), ("token_metric", v.tokenMetric.shown)]
    | .error e =>
      event .warn compareTarget "compare_failure" (some compareSpan) [("error", .str e.message)]
  [opening, closing]

/-- The notes of a pair of a batch. -/
def ofOutcome (pair : Prepared × Prepared) : PairOutcome Float → List Note
  | .done v => ofCompare (some batchSpan) pair.1 pair.2 (.ok v)
  | .failed e => ofCompare (some batchSpan) pair.1 pair.2 (.error e)
  | .skipped => []

/-- The notes of a batch. -/
def ofBatch (run : BatchRun Float) : List Note :=
  let report := run.report
  span batchTarget batchSpan none [("files", shown report.files)] ::
    run.files.flatMap (fun f => ofPrepare (some batchSpan) f.2) ++
    run.pairs.flatMap (fun p => ofOutcome p.1 p.2) ++
    [event .info batchTarget "batch_complete" (some batchSpan)
      [("files", shown report.files), ("pairs", shown report.pairsTotal),
        ("verdicts", shown report.verdicts.length), ("failures", shown report.failures.length),
        ("input_errors", shown report.inputErrors.length),
        ("skipped", shown report.skippedPairs)]]

/-- Values in the order of their texts. -/
def inOrder (vs : List Json) : List Json :=
  ((vs.map fun v => (v.canonical, v)).mergeSort fun a b => a.1 ≤ b.1).map (·.2)

end Journal

/-! ### Records -/

/-- A record of a step that was taken: what it was about, and whether it failed. -/
def stepRecord {β : Type} (stage : String) (result : Except (CompareError Float) β) : String :=
  match result with
  | .ok _ => stage ++ ": ok"
  | .error e => stage ++ ": " ++ e.message

def prepareRecord (result : Except (CompareError Float) Prepared) : String :=
  stepRecord "prepare" result

def pairRecord (result : Except (CompareError Float) (PairVerdict Float)) : String :=
  stepRecord "pair" result

/-- The records of a batch. -/
def batchRecords (run : BatchRun Float) : List String :=
  run.files.map (prepareRecord ·.2) ++ run.pairs.filterMap fun p =>
    match p.2 with
    | .done v => some (pairRecord (.ok v))
    | .failed e => some (pairRecord (.error e))
    | .skipped => none

end Likeness
