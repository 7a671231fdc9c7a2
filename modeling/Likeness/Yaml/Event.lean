import Likeness.Yaml.Scanner

/-!
# Events of YAML

The tokens of a text are read as a sequence of events: documents with scalars, sequences and
mappings in them. `Event.ofText` gives the events up to the end of the text or up to the first
fault.
-/

namespace Likeness.Yaml

inductive Event where
  | streamStart
  | streamEnd
  | documentStart
  | documentEnd
  | alias (name : String)
  | scalar (anchor tag : Option String) (text : String) (style : Style)
  | sequenceStart (anchor tag : Option String)
  | sequenceEnd
  | mappingStart (anchor tag : Option String)
  | mappingEnd
deriving BEq, DecidableEq, Inhabited, Repr

/-- What is to be read next. -/
inductive State where
  | streamStart
  | implicitDocument
  | documentStart
  | documentContent
  | documentEnd
  | blockNode
  | blockSequenceFirst
  | blockSequence
  | indentlessSequence
  | blockMappingFirst
  | blockMappingKey
  | blockMappingValue
  | flowSequenceFirst
  | flowSequence
  | flowPairKey
  | flowPairValue
  | flowPairEnd
  | flowMappingFirst
  | flowMappingKey
  | flowMappingValue
  | flowMappingNoValue
  | done
deriving BEq, DecidableEq, Inhabited, Repr

/-- The reader of events. `states` are the ones to come back to, `spots` the beginnings of the
collections around, and `handles` what the handles of tags stand for. -/
structure Reader where
  scanner : Scanner
  state : State := .streamStart
  states : List State := []
  spots : List Spot := []
  handles : List (String × String) := []
deriving Inhabited

namespace Reader

abbrev Step := Except Fault (Event × Spot × Reader)

def peek (r : Reader) : Except Fault (Token × Reader) := do
  let (t, s) ← r.scanner.peek
  return (t, { r with scanner := s })

def drop (r : Reader) : Reader := { r with scanner := r.scanner.drop }

/-- Takes the next token away and looks at the one after it. -/
def next (r : Reader) : Except Fault (Token × Reader) := r.drop.peek

def goto (r : Reader) (s : State) : Reader := { r with state := s }

def later (r : Reader) (s : State) : Reader := { r with states := s :: r.states }

/-- Goes back to the state that was put off last. -/
def back (r : Reader) : Reader :=
  { r with state := r.states.headD .done, states := r.states.tail }

/-- An empty scalar at a place. -/
def empty (r : Reader) (spot : Spot) : Step := .ok (.scalar none none "" .plain, spot, r)

/-- Ends a collection. -/
def finish (r : Reader) (e : Event) (t : Token) : Step :=
  .ok (e, t.start, { r.back.drop with spots := r.spots.tail })

def faultAt (problem : String) (spot : Spot) : Fault := { layer := .events, problem, spot }

/-- A fault at a token inside a collection. -/
def faultIn (r : Reader) (what problem : String) (t : Token) : Fault :=
  { faultAt problem t.start with context := some (what, r.spots.headD {}) }

/-! ### Nodes -/

/-- Reads the anchor and the tag before a node: where they begin, and the place of the tag. -/
def properties (t : Token) (r : Reader) :
    Except Fault (Option String × Option (String × String × Spot) × Token × Reader) := do
  match t.kind with
  | .anchor a =>
    let (u, r) ← r.next
    match u.kind with
    | .tag h s => let (v, r) ← r.next; return (some a, some (h, s, u.start), v, r)
    | _ => return (some a, none, u, r)
  | .tag h s =>
    let (u, r) ← r.next
    match u.kind with
    | .anchor a => let (v, r) ← r.next; return (some a, some (h, s, t.start), v, r)
    | _ => return (none, some (h, s, t.start), u, r)
  | _ => return (none, none, t, r)

/-- What a tag stands for. -/
def resolveTag (r : Reader) (start : Spot) : Option (String × String × Spot) →
    Except Fault (Option String)
  | none => .ok none
  | some (handle, suffix, spot) =>
    if handle.isEmpty then .ok (some suffix)
    else match r.handles.lookup handle with
      | some uri => .ok (some (uri ++ suffix))
      | none => .error { faultAt "found undefined tag handle" spot with
                         context := some ("while parsing a node", start) }

/-- Reads the beginning of a node, or a whole scalar. -/
def node (block indentless : Bool) (r : Reader) : Step := do
  let (t, r) ← r.peek
  if let .alias name := t.kind then return (.alias name, t.start, r.back.drop)
  let start := t.start
  let (anchor, parts, t, r) ← r.properties t
  let tag ← r.resolveTag start parts
  match t.kind with
  | .blockEntry =>
    if indentless then
      return (.sequenceStart anchor tag, start, r.goto .indentlessSequence)
  | .scalar text style =>
    let tag := if tag == some "!" then none else tag
    return (.scalar anchor tag text style, start, r.back.drop)
  | .flowSequenceStart => return (.sequenceStart anchor tag, start, r.goto .flowSequenceFirst)
  | .flowMappingStart => return (.mappingStart anchor tag, start, r.goto .flowMappingFirst)
  | .blockSequenceStart =>
    if block then return (.sequenceStart anchor tag, start, r.goto .blockSequenceFirst)
  | .blockMappingStart =>
    if block then return (.mappingStart anchor tag, start, r.goto .blockMappingFirst)
  | _ => pure ()
  if anchor.isSome || tag.isSome then return (.scalar anchor tag "" .plain, start, r.back)
  throw { faultAt "did not find expected node content" t.start with
          context := some (if block then "while parsing a block node"
            else "while parsing a flow node", start) }

/-! ### Documents -/

/-- Reads directives. -/
def directives : (fuel : Nat) → (version : Bool) → Token → Reader →
    Except Fault (Token × Reader)
  | 0, _, t, r => .ok (t, r)
  | fuel + 1, version, t, r =>
    match t.kind with
    | .versionDirective major minor =>
      if version then .error (faultAt "found duplicate %YAML directive" t.start)
      else if major != 1 || (minor != 1 && minor != 2) then
        .error (faultAt "found incompatible YAML document" t.start)
      else do
        let (t, r) ← r.next
        directives fuel true t r
    | .tagDirective handle uri =>
      if (r.handles.lookup handle).isSome then
        .error (faultAt "found duplicate %TAG directive" t.start)
      else do
        let (t, r) ← { r with handles := r.handles ++ [(handle, uri)] }.next
        directives fuel version t r
    | _ => .ok (t, r)

/-- Adds the handles that every document has, unless it gives them a meaning of its own. -/
def withDefaults (r : Reader) : Reader :=
  { r with handles := r.handles ++ [("!", "!"), ("!!", "tag:yaml.org,2002:")] }

/-- Passes over the marks of document ends. -/
def skipDocumentEnds : (fuel : Nat) → Token → Reader → Except Fault (Token × Reader)
  | 0, t, r => .ok (t, r)
  | fuel + 1, t, r =>
    if t.kind == .documentEnd then do
      let (t, r) ← r.next
      skipDocumentEnds fuel t r
    else .ok (t, r)

def fuelOf (r : Reader) : Nat := r.scanner.rest.length + r.scanner.queue.length + 10

def startsDocument : TokenKind → Bool
  | .versionDirective .. | .tagDirective .. | .documentStart | .streamEnd => true
  | _ => false

def document (implicit : Bool) (r : Reader) : Step := do
  let (t, r) ← r.peek
  let (t, r) ← if implicit then pure (t, r) else skipDocumentEnds r.fuelOf t r
  if implicit && !startsDocument t.kind then
    return (.documentStart, t.start, (r.withDefaults.later .documentEnd).goto .blockNode)
  if t.kind == .streamEnd then return (.streamEnd, t.start, (r.goto .done).drop)
  let start := t.start
  let (t, r) ← directives r.fuelOf false t r
  let r := r.withDefaults
  if t.kind != .documentStart then
    throw (faultAt "did not find expected <document start>" t.start)
  return (.documentStart, start, ((r.later .documentEnd).goto .documentContent).drop)

def documentContent (r : Reader) : Step := do
  let (t, r) ← r.peek
  if startsDocument t.kind || t.kind == .documentEnd then r.back.empty t.start
  else node true false r

def documentEnd (r : Reader) : Step := do
  let (t, r) ← r.peek
  let r' := if t.kind == .documentEnd then r.drop else r
  return (.documentEnd, t.start, { r'.goto .documentStart with handles := [] })

/-! ### Block collections -/

/-- Begins a collection. -/
def enter (r : Reader) : Except Fault Reader := do
  let (t, r) ← r.peek
  return { r.drop with spots := t.start :: r.spots }

def blockSequence (r : Reader) : Step := do
  let (t, r) ← r.peek
  match t.kind with
  | .blockEntry =>
    let (u, r) ← r.next
    match u.kind with
    | .blockEntry | .blockEnd => (r.goto .blockSequence).empty t.stop
    | _ => node true false (r.later .blockSequence)
  | .blockEnd => r.finish .sequenceEnd t
  | _ => throw (r.faultIn "while parsing a block collection"
      "did not find expected '-' indicator" t)

def indentlessSequence (r : Reader) : Step := do
  let (t, r) ← r.peek
  match t.kind with
  | .blockEntry =>
    let (u, r) ← r.next
    match u.kind with
    | .blockEntry | .key | .value | .blockEnd => (r.goto .indentlessSequence).empty t.stop
    | _ => node true false (r.later .indentlessSequence)
  | _ => return (.sequenceEnd, t.start, r.back)

def blockMappingKey (r : Reader) : Step := do
  let (t, r) ← r.peek
  match t.kind with
  | .key =>
    let (u, r) ← r.next
    match u.kind with
    | .key | .value | .blockEnd => (r.goto .blockMappingValue).empty t.stop
    | _ => node true true (r.later .blockMappingValue)
  | .blockEnd => r.finish .mappingEnd t
  | _ => throw (r.faultIn "while parsing a block mapping" "did not find expected key" t)

def blockMappingValue (r : Reader) : Step := do
  let (t, r) ← r.peek
  match t.kind with
  | .value =>
    let (u, r) ← r.next
    match u.kind with
    | .key | .value | .blockEnd => (r.goto .blockMappingKey).empty t.stop
    | _ => node true true (r.later .blockMappingKey)
  | _ => (r.goto .blockMappingKey).empty t.start

/-! ### Flow collections -/

/-- Passes over the comma before an entry that is not the first. -/
def comma (first : Bool) (what problem : String) (t : Token) (r : Reader) :
    Except Fault (Token × Reader) :=
  if first then .ok (t, r)
  else if t.kind == .flowEntry then r.next
  else .error (r.faultIn what problem t)

def flowSequence (first : Bool) (r : Reader) : Step := do
  let (t, r) ← r.peek
  if t.kind == .flowSequenceEnd then return ← r.finish .sequenceEnd t
  let (t, r) ← comma first "while parsing a flow sequence" "did not find expected ',' or ']'" t r
  match t.kind with
  | .key => return (.mappingStart none none, t.start, (r.goto .flowPairKey).drop)
  | .flowSequenceEnd => r.finish .sequenceEnd t
  | _ => node false false (r.later .flowSequence)

def flowPairKey (r : Reader) : Step := do
  let (t, r) ← r.peek
  match t.kind with
  | .value | .flowEntry | .flowSequenceEnd => (r.goto .flowPairValue).drop.empty t.stop
  | _ => node false false (r.later .flowPairValue)

def flowPairValue (r : Reader) : Step := do
  let (t, r) ← r.peek
  if t.kind != .value then return ← (r.goto .flowPairEnd).empty t.start
  let (t, r) ← r.next
  match t.kind with
  | .flowEntry | .flowSequenceEnd => (r.goto .flowPairEnd).empty t.start
  | _ => node false false (r.later .flowPairEnd)

def flowPairEnd (r : Reader) : Step := do
  let (t, r) ← r.peek
  return (.mappingEnd, t.start, r.goto .flowSequence)

def flowMappingKey (first : Bool) (r : Reader) : Step := do
  let (t, r) ← r.peek
  if t.kind == .flowMappingEnd then return ← r.finish .mappingEnd t
  let (t, r) ← comma first "while parsing a flow mapping"
    "did not find expected ',' or '\x7d'" t r
  match t.kind with
  | .key =>
    let (t, r) ← r.next
    match t.kind with
    | .value | .flowEntry | .flowMappingEnd => (r.goto .flowMappingValue).empty t.start
    | _ => node false false (r.later .flowMappingValue)
  | .flowMappingEnd => r.finish .mappingEnd t
  | _ => node false false (r.later .flowMappingNoValue)

def flowMappingValue (r : Reader) : Step := do
  let (t, r) ← r.peek
  if t.kind != .value then return ← (r.goto .flowMappingKey).empty t.start
  let (t, r) ← r.next
  match t.kind with
  | .flowEntry | .flowMappingEnd => (r.goto .flowMappingKey).empty t.start
  | _ => node false false (r.later .flowMappingKey)

def flowMappingNoValue (r : Reader) : Step := do
  let (t, r) ← r.peek
  (r.goto .flowMappingKey).empty t.start

/-! ### All events -/

/-- Reads the next event. -/
def step (r : Reader) : Step := do
  match r.state with
  | .streamStart =>
    let (t, r) ← r.peek
    return (.streamStart, t.start, (r.goto .implicitDocument).drop)
  | .implicitDocument => document true r
  | .documentStart => document false r
  | .documentContent => documentContent r
  | .documentEnd => documentEnd r
  | .blockNode => node true false r
  | .blockSequenceFirst => blockSequence (← r.enter)
  | .blockSequence => blockSequence r
  | .indentlessSequence => indentlessSequence r
  | .blockMappingFirst => blockMappingKey (← r.enter)
  | .blockMappingKey => blockMappingKey r
  | .blockMappingValue => blockMappingValue r
  | .flowSequenceFirst => flowSequence true (← r.enter)
  | .flowSequence => flowSequence false r
  | .flowPairKey => flowPairKey r
  | .flowPairValue => flowPairValue r
  | .flowPairEnd => flowPairEnd r
  | .flowMappingFirst => flowMappingKey true (← r.enter)
  | .flowMappingKey => flowMappingKey false r
  | .flowMappingValue => flowMappingValue r
  | .flowMappingNoValue => flowMappingNoValue r
  | .done => return (.streamEnd, {}, r)

/-- The events from here on, and the fault that ends them if there is one. -/
def run : (fuel : Nat) → Reader → List (Event × Spot) × Option Fault
  | 0, _ => ([], none)
  | fuel + 1, r =>
    match r.step with
    | .error f => ([], some f)
    | .ok (.streamEnd, spot, _) => ([(.streamEnd, spot)], none)
    | .ok (e, spot, r) =>
      let (es, f) := run fuel r
      ((e, spot) :: es, f)

end Reader

/-- The events of a text. -/
def Event.ofText (text : String) : List (Event × Spot) × Option Fault :=
  match Scanner.ofText text.toList with
  | .error f => ([], some f)
  | .ok s => Reader.run (4 * text.length + 20) { scanner := s }

end Likeness.Yaml
