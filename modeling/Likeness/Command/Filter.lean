import Likeness.Comparison.Journal

/-!
# Filters of notes

Which notes are written is told by directives, separated by commas. A directive names a level, for
all targets or for those that begin with a given text, and it may be confined to what happens within
a span of a given name. The most specific directive that fits a note counts.
-/

namespace Likeness.Command

/-- A level, or `none` for nothing at all, for the notes of some targets and within some span. -/
structure Directive where
  target : Option String := none
  span : Option String := none
  level : Option Level := some .trace
deriving BEq, DecidableEq, Inhabited, Repr

/-- The level of a name or of a digit from 0 to 5. -/
def levelOf? (s : String) : Option (Option Level) :=
  let name := s.toUpper
  if name == "OFF" || name == "0" then some none
  else (Level.all.find? fun l => l.name == name || toString l.rank == name).map some

namespace Directive

/-- Reads what follows a target and a span. -/
def withLevel? (d : Directive) (rest : List Char) : Option Directive :=
  match rest with
  | [] | ['='] => some d
  | '=' :: cs => (levelOf? (.ofList cs)).map fun level => { d with level }
  | _ => none

/-- Reads a directive. -/
def parse? (cs : List Char) : Option Directive :=
  let (head, rest) := cs.span fun c => c != '=' && c != '['
  let starts := match head with
    | [] => rest.head? == some '['
    | c :: _ => c.isAlphanum || c == '-' || c == ':' || c == '_' || 0x80 ≤ c.toNat
  let target := if head.isEmpty then none else some (String.ofList head)
  if !starts then none
  else match rest with
  | [] => match levelOf? (.ofList head) with
    | some level => some { level }
    | none => some { target }
  | '[' :: cs =>
    let (name, rest) := cs.span (· != ']')
    match rest with
    | ']' :: rest => withLevel? { target, span := some (.ofList name) } rest
    | _ => none
  | rest => withLevel? { target } rest

/-- Whether a directive is about a target. -/
def fits (d : Directive) (target : String) : Bool :=
  match d.target with
  | some t => target.startsWith t
  | none => true

/-- How specific a directive is. -/
def weight (d : Directive) : Nat := (d.target.map (·.utf8ByteSize + 1)).getD 0

/-- Whether a directive lets notes of a level pass. -/
def passes (d : Directive) (level : Level) : Bool :=
  match d.level with
  | some l => level.rank ≤ l.rank
  | none => false

end Directive

/-- A list of directives. -/
structure Filter where
  directives : List Directive
deriving BEq, DecidableEq, Inhabited, Repr

namespace Filter

/-- Warnings and errors pass. -/
def default : Filter := ⟨[{ level := some .warn }]⟩

/-- Reads directives. Without any, errors pass. -/
def parse? (s : String) : Option Filter := do
  let ds ← ((s.splitOn ",").filter (!·.isEmpty)).mapM fun d =>
    Directive.parse? d.trimAscii.toString.toList
  return ⟨if ds.isEmpty then [{ level := some .error }] else ds⟩

/-- The directive that counts among some; a later one wins over an earlier one. -/
def best? (ds : List Directive) : Option Directive :=
  ds.foldl (fun best d => match best with
    | some b => if b.weight ≤ d.weight then some d else some b
    | none => some d) none

/-- Whether directives for all spans let a note pass. -/
def passesAnywhere (f : Filter) (target : String) (level : Level) : Bool :=
  match best? (f.directives.filter fun d => d.span.isNone && d.fits target) with
  | some d => d.passes level
  | none => false

/-- The directive for a span, if there is one. -/
def spanDirective? (f : Filter) (target span : String) : Option Directive :=
  best? (f.directives.filter fun d => d.span == some span && d.fits target)

/-- Whether a span is opened. -/
def opens (f : Filter) (target span : String) : Bool :=
  (f.spanDirective? target span).isSome || f.passesAnywhere target .info

/-- Whether an event passes; the spans around it come with their targets. -/
def passes (f : Filter) (spans : List (String × String)) (n : Note) : Bool :=
  f.passesAnywhere n.target n.level || spans.any fun (target, span) =>
    match f.spanDirective? target span with
    | some d => d.passes n.level
    | none => false

end Filter

/-! ### Written events -/

/-- An event that is written, and the innermost of the opened spans around it. -/
structure Entry where
  level : Level
  message : String
  error : Option String
  span : Option String
deriving BEq, DecidableEq, Inhabited, Repr

def Entry.toJson (e : Entry) : Json :=
  .obj [("level", .str e.level.name), ("message", .str e.message), ("error", .text? e.error),
    ("span", .text? e.span)]

/-- The spans around an event, innermost first, with their targets. -/
def spansAround (inBatch : Bool) (context : Option String) : List (String × String) :=
  let batch := [(Journal.batchTarget, Journal.batchSpan)]
  if context == some Journal.compareSpan then
    (Journal.compareTarget, Journal.compareSpan) :: (if inBatch then batch else [])
  else if context == some Journal.batchSpan then batch
  else []

/-- The events that pass a filter. -/
def Filter.entries (f : Filter) (inBatch : Bool) (notes : List Note) : List Entry :=
  notes.filterMap fun n =>
    let spans := spansAround inBatch n.context
    if n.isSpan || !f.passes spans n then none
    else some {
      level := n.level
      message := n.name
      error := (n.fields.lookup "error").bind Json.asString?
      span := (spans.find? fun s => f.opens s.1 s.2).map (·.2) }

end Likeness.Command
