import Likeness.Yaml.Node

/-!
# Records of options

A text with one document that maps names to values, each name once and none that is unknown, is read
into a record. Names that do not occur leave the record as it is, and so does an empty document.
-/

namespace Likeness.Yaml

/-! ### The items of a document -/

/-- A node or the end of a collection. An alias is known by the number of its anchor. -/
inductive Item where
  | node (head : Head)
  | alias (anchor : Nat)
  | close
deriving BEq, DecidableEq, Inhabited, Repr

/-- The anchors that have been seen. A name stands for a number, and a number for the place of an
item in the document. -/
structure Anchors where
  numbers : List (String × Nat) := []
  places : List (Nat × Nat) := []

/-- Notes the anchor of an item. Its number is the count of the names that are known before. -/
def Anchors.add (a : Anchors) (name : String) (place : Nat) : Anchors :=
  let number := a.numbers.length
  ⟨(name, number) :: a.numbers.filter (·.1 != name), (number, place) :: a.places⟩

/-- Why no record could be read. The place of a misfit has a path of names. -/
inductive Failure where
  | fault (f : Fault)
  | unknownAnchor (spot : Spot)
  | misfit (cause : Misfit) (path : String) (spot : Spot)
  | severalDocuments
  | endOfDocument
deriving BEq, DecidableEq, Inhabited, Repr

/-- The first document of a text. `failure` tells why it ends early, and `followed` whether
something comes after it. -/
structure Document where
  items : List (Item × Spot) := []
  anchors : Anchors := {}
  failure : Option Failure := none
  followed : Bool := false

namespace Document

/-- Adds the item of an event. -/
def push (d : Document) (anchor : Option String) (item : Item) (spot : Spot) : Document :=
  let anchors := match anchor with
    | some name => d.anchors.add name d.items.length
    | none => d.anchors
  { d with items := d.items ++ [(item, spot)], anchors }

/-- Reads the events up to the end of the first document. -/
def collect (fault : Option Fault) (d : Document) : List (Event × Spot) → Document
  | [] => { d with failure := fault.map .fault }
  | (e, spot) :: es =>
    match e with
    | .streamStart | .documentStart => collect fault d es
    | .streamEnd => d
    | .documentEnd => { d with followed := es.map (·.1) != [.streamEnd] }
    | .alias name =>
      match d.anchors.numbers.lookup name with
      | some n => collect fault (d.push none (.alias n) spot) es
      | none => { d with failure := some (.unknownAnchor spot) }
    | .scalar anchor tag text style =>
      collect fault (d.push anchor (.node (.scalar tag text style)) spot) es
    | .sequenceStart anchor tag => collect fault (d.push anchor (.node (.sequence tag)) spot) es
    | .mappingStart anchor tag => collect fault (d.push anchor (.node (.mapping tag)) spot) es
    | .sequenceEnd | .mappingEnd => collect fault (d.push none .close spot) es

def ofText (text : String) : Document :=
  let (events, fault) := Event.ofText text
  collect fault {} events

/-- The item that an anchor stands for. -/
def anchored? (d : Document) (anchor : Nat) : Option (Head × Spot) :=
  match (d.anchors.places.lookup anchor).bind (d.items[·]?) with
  | some (.node h, spot) => some (h, spot)
  | _ => none

end Document

/-! ### Failures -/

namespace Failure

/-- The text of a failure without its place. -/
def text : Failure → String
  | fault f => f.problem
  | unknownAnchor _ => "unknown anchor"
  | misfit cause path _ => (if path == "." then "" else path ++ ": ") ++ cause.message
  | severalDocuments =>
    "deserializing from YAML containing more than one document is not supported"
  | endOfDocument => "EOF while parsing a value"

def spot? : Failure → Option Spot
  | unknownAnchor spot | misfit _ _ spot => some spot
  | _ => none

def message : Failure → String
  | fault f => f.message
  | e => e.text ++ match e.spot? with
    | some spot => if spot.isStart then "" else s!" at {spot.text}"
    | none => ""

end Failure

/-! ### Reading a record -/

/-- Where a misfit is reported: at the node, or at the mapping that it is in. -/
inductive Blame where
  | node
  | mapping
deriving BEq, DecidableEq, Inhabited, Repr

abbrev ReadResult (β : Type) := Except (Misfit × Blame) β

/-- A result whose misfit is reported at the node. -/
def atNode {β : Type} (r : Except Misfit β) : ReadResult β := r.mapError (·, .node)

/-- A field of a record: its name, and how a node sets it. -/
structure Field (σ : Type) where
  name : String
  put : Head → σ → ReadResult σ

/-- The root has the path of a point, and no name before those of its fields. -/
def rootPath : String := "."

section

variable {σ : Type} (d : Document) (fields : List (Field σ)) (root : Spot)

/-- The failure where the items end too early. -/
def Document.ended : Failure := d.failure.getD .endOfDocument

/-- The node of an item, where it is, and whether an alias leads there. -/
def Document.resolve (item : Item × Spot) : Option (Head × Spot × Bool) :=
  match item with
  | (.node h, spot) => some (h, spot, false)
  | (.alias n, _) => (d.anchored? n).map fun (h, spot) => (h, spot, true)
  | (.close, _) => none

/-- Reads the fields of a mapping from an item on. `seen` are the names before. -/
def readFields (seen : List String) (record : σ) : List (Item × Spot) → Except Failure σ
  | [] => .error d.ended
  | key :: rest =>
    match d.resolve key with
    | none => .ok record
    | some (head, spot, isAlias) =>
      match head.readText "field identifier" with
      | .error e => .error (.misfit e rootPath spot)
      | .ok name =>
        match fields.find? (·.name == name) with
        | none => .error (.misfit (.unknownField name (fields.map (·.name))) rootPath spot)
        | some field =>
          if seen.contains name then .error (.misfit (.duplicateField name) rootPath root)
          else match rest with
          | [] => .error d.ended
          | value :: rest =>
            match d.resolve value with
            | none => .error d.ended
            | some (head, spot, _) =>
              match field.put head record with
              | .ok record => readFields (name :: seen) record rest
              | .error (e, .node) => .error (.misfit e (if isAlias then "?" else name) spot)
              | .error (e, .mapping) => .error (.misfit e rootPath root)

/-- Reads a record whose fields are as in `start` unless the document sets them. -/
def Document.readRecord (expected : String) (start : σ) : Except Failure σ :=
  match d.items with
  | [] => match d.failure with
    | some f => .error f
    | none => .ok start
  | item :: rest =>
    match d.resolve item with
    | none => .error d.ended
    | some (.mapping _, spot, _) => readFields d fields spot [] start rest
    | some (.scalar _ "" .plain, _, _) => .ok start
    | some (head, spot, _) => .error (.misfit (head.misfit expected) rootPath spot)

/-- Reads the record of a text. -/
def readRecord (expected : String) (start : σ) (text : String) : Except Failure σ := do
  let d := Document.ofText text
  let record ← d.readRecord fields expected start
  match d.failure with
  | some f => .error f
  | none => if d.followed then .error .severalDocuments else return record

end
end Likeness.Yaml
