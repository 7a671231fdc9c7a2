import Likeness.Command.Run

/-!
# The program

Reads the files that the arguments name, runs the command, and writes what it gives.
-/

open Likeness.Command

/-- Reads a file as text. -/
def readPath (path : String) : IO (Except ReadError String) := do
  try
    let bytes ← IO.FS.readBinFile path
    match String.fromUTF8? bytes with
    | some text => return .ok text
    | none => return .error .notText
  catch
    | .inappropriateType .. => return .error .isDirectory
    | _ => return .error .notFound

def main (args : List String) : IO UInt32 := do
  let contents ← args.mapM fun path => return (path, ← readPath path)
  let files : Files := fun path => (contents.lookup path).getD (.error .notFound)
  let outcome := run args files (filterOf (← IO.getEnv "RUST_LOG"))
  let json := (← IO.getEnv "COPYDETECT_LOG_FORMAT") == some "json"
  for e in outcome.entries do
    if json then IO.eprintln e.toJson.compact
    else IO.eprintln (" ".intercalate ([e.level.name, e.message] ++ e.error.toList))
  IO.print outcome.output
  if let some failure := outcome.failure then IO.eprintln failure.line
  return outcome.exitCode.toUInt32
