import Likeness.Json.Value

/-!
# Forms of values as JSON

A `Codec` says how the values of a type are written as JSON and read back. Records are objects, or
arrays with their fields in order; a choice among records has its name in a field of the object.
-/

namespace Likeness

/-- How the values of a type are written as JSON and read back. -/
structure Codec (α : Type) where
  write : α → Json
  read : Json → Option α

namespace Codec

variable {α σ : Type}

def text : Codec String := ⟨.str, Json.asString?⟩

def bool : Codec Bool := ⟨.bool, Json.asBool?⟩

/-- Numbers; those that are not finite are written as null, and null is not a number. -/
def float : Codec Float := ⟨.number, Json.asFloat?⟩

/-- Numbers; those that are not finite are written by their names. -/
def namedFloat : Codec Float := ⟨.namedNumber, Json.asFloat?⟩

/-- Whole numbers of so many bits. -/
def nat (bits : Nat) : Codec Nat := ⟨.nat, Json.asNat? (Nat.pow 2 bits)⟩

def word : Codec UInt64 := ⟨fun n => .nat n.toNat, fun j => (j.asNat? UInt64.size).map (·.toUInt64)⟩

/-- A value, or null. -/
def option (c : Codec α) : Codec (Option α) where
  write
    | some a => c.write a
    | none => .null
  read
    | .null => some none
    | j => (c.read j).map some

def list (c : Codec α) : Codec (List α) where
  write as := .arr (as.map c.write)
  read j := j.asArray?.bind (·.mapM c.read)

/-- One of some names. It may also be read from an object that has null under the name. -/
def name (nameOf : α → String) (ofName? : String → Option α) : Codec α where
  write a := .str (nameOf a)
  read
    | .str s => ofName? s
    | .obj [(s, .null)] => ofName? s
    | _ => none

/-! ### Records -/

/-- What is known of the fields of a record: their values by name or in order. -/
inductive Parts where
  | named (members : List (String × Json))
  | ordered (items : List Json)

def parts? : Json → Option Parts
  | .obj ms => some (.named ms)
  | .arr xs => some (.ordered xs)
  | _ => none

/-- What holds of a record in which a field is missing. -/
inductive Omission where
  | refused
  /-- The field is taken for null if the others have names. -/
  | null
  /-- The field stays as it is in the record to begin with. -/
  | kept
deriving BEq, DecidableEq, Inhabited, Repr

/-- A field of a record. -/
structure Field (σ : Type) where
  name : String
  write : σ → Json
  read : Json → σ → Option σ
  omission : Omission

/-- A field that must be there. -/
def field (name : String) (c : Codec α) (get : σ → α) (set : α → σ → σ) : Field σ where
  name
  write s := c.write (get s)
  read j s := (c.read j).map (set · s)
  omission := .refused

/-- A field that is null where there is no value. -/
def optional (name : String) (c : Codec α) (get : σ → Option α) (set : Option α → σ → σ) :
    Field σ :=
  { field name c.option get set with omission := .null }

/-- A field that has a value even if it is missing. -/
def Field.defaulted (f : Field σ) : Field σ := { f with omission := .kept }

/-- Reads a field that is missing. -/
def Field.skip (f : Field σ) (ordered : Bool) (s : σ) : Option σ :=
  match f.omission, ordered with
  | .kept, _ => some s
  | .null, false => f.read .null s
  | _, _ => none

/-- Reads fields in order into a record. -/
def readOrdered : List (Field σ) → List Json → σ → Option σ
  | [], [], s => some s
  | [], _ :: _, _ => none
  | f :: fs, [], s => (f.skip true s).bind (readOrdered fs [])
  | f :: fs, j :: js, s => (f.read j s).bind (readOrdered fs js)

/-- Reads fields by name into a record. -/
def readNamed (fields : List (Field σ)) (members : List (String × Json)) (s : σ) : Option σ :=
  fields.foldlM (fun s f => match members.lookup f.name with
    | some j => f.read j s
    | none => f.skip false s) s

/-- Reads the fields of a record that is `start` to begin with. -/
def readParts (fields : List (Field σ)) (start : σ) : Parts → Option σ
  | .named ms => readNamed fields ms start
  | .ordered js => readOrdered fields js start

def writeFields (fields : List (Field σ)) (s : σ) : List (String × Json) :=
  fields.map fun f => (f.name, f.write s)

/-- A record that is `start` to begin with. Members without a field of their name are passed over. -/
def record (start : σ) (fields : List (Field σ)) : Codec σ where
  write s := .obj (writeFields fields s)
  read j := (parts? j).bind (readParts fields start)

/-- A record that must not have other members than its fields. -/
def closedRecord (start : σ) (fields : List (Field σ)) : Codec σ where
  write s := .obj (writeFields fields s)
  read j :=
    let known := match j with
      | .obj ms => ms.all fun m => fields.any (·.name == m.1)
      | _ => true
    if known then (record start fields).read j else none

/-! ### Choices -/

/-- One of the records that a choice is among: its name, whether a value is of this kind, and the
fields, with a value to begin with. -/
structure Variant (σ : Type) where
  name : String
  isOf : σ → Bool
  start : σ
  fields : List (Field σ) := []

/-- Takes the name of the variant out of the parts of a choice. -/
def splitTag? (tag : String) : Parts → Option (String × Parts)
  | .named ms =>
    match ms.lookup tag with
    | some (.str s) => some (s, .named (ms.filter (·.1 != tag)))
    | _ => none
  | .ordered (.str s :: js) => some (s, .ordered js)
  | .ordered _ => none

/-- A choice that is told by the field `tag`. -/
def choice (tag : String) (variants : List (Variant σ)) : Codec σ where
  write s :=
    match variants.find? (·.isOf s) with
    | some v => .obj ((tag, .str v.name) :: writeFields v.fields s)
    | none => .null
  read j := do
    let (name, parts) ← splitTag? tag (← parts? j)
    let v ← variants.find? (·.name == name)
    readParts v.fields v.start parts

end Codec
end Likeness
