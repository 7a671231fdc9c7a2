import Likeness.Command.Failure
import Likeness.Command.Filter
import Likeness.Form.Report

/-!
# The command

The command compares files: two files with each other, or every two of more files. It writes the
report as JSON. Settings may come from a file. `run` is the whole command, as a function of its
arguments, of what reading a path gives, and of the filter for notes.
-/

namespace Likeness.Command

/-! ### Files -/

/-- The names on a path, without those that stay where they are. -/
def pathNames (path : String) : List String :=
  (path.splitOn "/").filter fun n => n != "" && n != "."

/-- A folder: files by their paths in it, with their bytes. -/
structure Folder where
  files : List (String × ByteArray)

namespace Folder

/-- Reads a file as text. Nothing outside the folder is found. -/
def read (f : Folder) (path : String) : Except ReadError String :=
  let names := pathNames path
  let slash := path.endsWith "/" || path.endsWith "/."
  let paths := f.files.map fun (p, bytes) => (pathNames p, bytes)
  if path.isEmpty || path.startsWith "/" then .error .notFound
  else match paths.lookup names with
  | some bytes =>
    if slash then .error .notDirectory
    else match String.fromUTF8? bytes with
      | some s => .ok s
      | none => .error .notText
  | none =>
    if paths.any fun p => names.isPrefixOf p.1 then .error .isDirectory
    else if names.isEmpty then .error .isDirectory
    else if paths.any fun p => p.1.isPrefixOf names then .error .notDirectory
    else .error .notFound

end Folder

/-! ### Arguments -/

/-- What the arguments ask for. -/
inductive Task where
  | help
  | compare (settings : Option String) (paths : List String)
deriving BEq, DecidableEq, Inhabited, Repr

/-- Reads the arguments from the next one on. The last settings file counts. -/
def readArgs (settings : Option String) (paths : List String) : List String → Except Failure Task
  | [] => if paths.length < 2 then .error .usage else .ok (.compare settings paths)
  | "--config" :: rest =>
    match rest with
    | [] => .error .usage
    | path :: rest => readArgs (some path) paths rest
  | "-h" :: _ | "--help" :: _ => .ok .help
  | path :: rest => readArgs settings (paths ++ [path]) rest

/-! ### Running -/

/-- What a command writes: its output, its failure if it fails, and the events that the filter
passes. -/
structure Outcome where
  output : String := ""
  failure : Option Failure := none
  entries : List Entry := []

namespace Outcome

def exitCode (o : Outcome) : Nat := if o.failure.isSome then 1 else 0

end Outcome

/-- What reading a path gives. -/
abbrev Files := String → Except ReadError String

/-- The settings that a task asks for. -/
def loadSettings (files : Files) : Option String → Except Failure (Settings Float)
  | none => .ok .default
  | some path => do
    let text ← (files path).mapError .settingsFile
    (Settings.ofYaml text).mapError .settings

/-- Everything that has to be there before sources are compared. -/
def gather (files : Files) (settings : Option String) (paths : List String) :
    Except Failure (Comparator Float × List SourceFile) := do
  let s ← loadSettings files settings
  let c ← (Comparator.ofSettings s 0).mapError fun flaw => Failure.settings (.invalid flaw)
  let sources ← paths.mapM fun path => do
    let text ← (files path).mapError .source
    return ({ filename := path, text } : SourceFile)
  return (c, sources)

/-- Compares two files. -/
def runPair (filter : Filter) (c : Comparator Float) (left right : SourceFile) : Outcome :=
  let (l, c) := c.prepare left
  let leftNotes := Journal.ofPrepare none l
  let finish (result : Except (CompareError Float) (PairVerdict Float)) (notes : List Note) :
      Outcome :=
    let entries := filter.entries false notes
    match result with
    | .ok v => { output := (Form.pairVerdict.write v).pretty ++ "\n", entries }
    | .error e => { failure := some (.compare e), entries }
  match l with
  | .error e => finish (.error e) leftNotes
  | .ok l =>
    let (r, c) := c.prepare right
    let notes := leftNotes ++ Journal.ofPrepare none r
    match r with
    | .error e => finish (.error e) notes
    | .ok r =>
      let result := c.compare l r
      finish result (notes ++ Journal.ofCompare none l r result)

/-- Compares every two of some files. -/
def runMany (filter : Filter) (c : Comparator Float) (files : List SourceFile) : Outcome :=
  let run := c.runBatch files false
  { output := (Form.batchReport.write run.report).pretty ++ "\n"
    entries := filter.entries true (Journal.ofBatch run) }

/-- Runs the command. -/
def run (args : List String) (files : Files) (filter : Filter) : Outcome :=
  match readArgs none [] args with
  | .error e => { failure := some e }
  | .ok .help => { output := usage ++ "\n" }
  | .ok (.compare settings paths) =>
    match gather files settings paths with
    | .error e => { failure := some e }
    | .ok (c, [left, right]) => runPair filter c left right
    | .ok (c, sources) => runMany filter c sources

/-- The filter that the environment asks for. One that cannot be read counts as none. -/
def filterOf (directives : Option String) : Filter :=
  (directives.bind Filter.parse?).getD .default

end Likeness.Command
