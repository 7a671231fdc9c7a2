import Likeness.Comparison.Pair
import Likeness.Settings.Fields

/-!
# Failures of the command

Why the command fails, and how that is written on its last line: the kinds of the failures around
each other, with their parts.
-/

namespace Likeness.Command

open Text (quoted)

/-- Why a file cannot be read. -/
inductive ReadError where
  | notFound
  | notDirectory
  | isDirectory
  | notText
deriving BEq, DecidableEq, Inhabited, Repr

inductive Failure where
  | usage
  | settingsFile (e : ReadError)
  | settings (e : Settings.LoadError)
  | source (e : ReadError)
  | compare (e : CompareError Float)

def usage : String := "usage: copydetect [--config FILE] FILE FILE [FILE...]"

/-- A kind with one part. -/
def wrap (kind part : String) : String := s!"{kind}({part})"

/-- A kind with named parts. -/
def fields (kind : String) (parts : List (String × String)) : String :=
  let parts := parts.map fun (name, value) => s!"{name}: {value}"
  kind ++ " \x7b " ++ ", ".intercalate parts ++ " \x7d"

def ReadError.form (e : ReadError) : String :=
  let os (code kind message : String) : String :=
    fields "Os" [("code", code), ("kind", kind), ("message", quoted message)]
  match e with
  | notFound => os "2" "NotFound" "No such file or directory"
  | notDirectory => os "20" "NotADirectory" "Not a directory"
  | isDirectory => os "21" "IsADirectory" "Is a directory"
  | notText =>
    fields "Error"
      [("kind", "InvalidData"), ("message", quoted "stream did not contain valid UTF-8")]

/-! ### Settings -/

def layerForm : Yaml.Layer → String
  | .characters => "READER"
  | .tokens => "SCANNER"
  | .events => "PARSER"

def spotForm (p : Yaml.Spot) : String :=
  fields "Mark" [("line", toString (p.line + 1)), ("column", toString (p.column + 1))]

def faultForm (f : Yaml.Fault) : String :=
  let place := if !f.spot.isStart then [("problem_mark", spotForm f.spot)]
    else if f.offset != 0 then [("problem_offset", toString f.offset)]
    else []
  let context := match f.context with
    | none => []
    | some (what, spot) =>
      ("context", quoted what) :: (if spot.isStart then [] else [("context_mark", spotForm spot)])
  fields "Error" ([("kind", layerForm f.layer), ("problem", quoted f.problem)] ++ place ++ context)

def yamlForm (e : Yaml.Failure) : String :=
  match e with
  | .fault f => faultForm f
  | e =>
    let place := match e.spot? with
      | some spot => s!", line: {spot.line + 1}, column: {spot.column + 1}"
      | none => ""
    wrap "Error" (quoted e.text ++ place)

def loadForm : Settings.LoadError → String
  | .yaml e => wrap "YamlParse" (yamlForm e)
  | .invalid flaw => wrap "Validation" (quoted flaw.message)

/-! ### Comparisons -/

def inputForm : InputError → String
  | .empty f => fields "Empty" [("filename", quoted f)]
  | .tooLarge f bytes limit =>
    fields "TooLarge"
      [("filename", quoted f), ("bytes", toString bytes), ("limit", toString limit)]

def problemForm : Lex.Problem → String
  | .unlexable o n => fields "Unlexable" [("offset", toString o), ("len", toString n)]
  | .unterminatedString o => fields "UnterminatedString" [("offset", toString o)]
  | .invalidOptions r => fields "InvalidConfig" [("message", quoted r)]

def detectorForm : Decision.Detector → String
  | .token => "Token"
  | .ast => "Ast"
  | .hash => "Hash"

def decisionForm : Decision.Error Float → String
  | .invalidPolicy r => wrap "InvalidConfig" (quoted r)
  | .insufficientSignal r => wrap "InsufficientSignal" (quoted r)
  | .invalidScore d x =>
    fields "InvalidScore"
      [("detector", detectorForm d), ("score", (Decimal.Form.ofFloat x).document)]

def compareForm : CompareError Float → String
  | .input e => wrap "Input" (inputForm e)
  | .lex e => wrap "Lex" (problemForm e)
  | .decision e => wrap "Decision" (decisionForm e)
  | .settings r => wrap "Config" (quoted r)
  | .workers r => wrap "WorkerPool" (quoted r)

def Failure.form : Failure → String
  | usage => quoted Command.usage
  | settingsFile e => wrap "FileRead" e.form
  | settings e => loadForm e
  | source e => e.form
  | compare e => compareForm e

/-- The last line of a command that fails. -/
def Failure.line (e : Failure) : String := "Error: " ++ e.form

end Likeness.Command
