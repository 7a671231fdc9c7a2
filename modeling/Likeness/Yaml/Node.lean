import Likeness.Decimal.Read
import Likeness.Text.Quoted
import Likeness.Yaml.Event

/-!
# Values of scalars

What a node is known by when options are read: its head. An unquoted scalar stands for null, a truth
value, a number or a text by its spelling; a tag may say which of these it has to be.
-/

namespace Likeness.Yaml

/-- The beginning of a node. -/
inductive Head where
  | scalar (tag : Option String) (text : String) (style : Style)
  | sequence (tag : Option String)
  | mapping (tag : Option String)
deriving BEq, DecidableEq, Inhabited, Repr

/-- Why a node is not what it should be. -/
inductive Misfit where
  | type (found expected : String)
  | value (found expected : String)
  | unknownField (name : String) (known : List String)
  | unknownVariant (name : String) (known : List String)
  | duplicateField (name : String)
deriving BEq, DecidableEq, Inhabited, Repr

/-- A choice between names. -/
def oneOf (names : List String) : String :=
  match names.map fun n => s!"\x60{n}\x60" with
  | [] => "nothing"
  | [a] => a
  | [a, b] => s!"{a} or {b}"
  | all => "one of " ++ ", ".intercalate all

def Misfit.message : Misfit → String
  | type found expected => s!"invalid type: {found}, expected {expected}"
  | value found expected => s!"invalid value: {found}, expected {expected}"
  | unknownField name known => s!"unknown field \x60{name}\x60, expected {oneOf known}"
  | unknownVariant name known => s!"unknown variant \x60{name}\x60, expected {oneOf known}"
  | duplicateField name => s!"duplicate field \x60{name}\x60"

/-! ### Spellings -/

def isNull (text : String) : Bool := ["null", "Null", "NULL", "~"].contains text

def bool? (text : String) : Option Bool :=
  if ["true", "True", "TRUE"].contains text then some true
  else if ["false", "False", "FALSE"].contains text then some false
  else none

/-- Whether digits begin with a needless zero; such a text is no number. -/
def hasLeadingZero (cs : List Char) : Bool :=
  match (Decimal.splitSign cs).2 with
  | '0' :: c :: cs => (c :: cs).all (·.isDigit)
  | _ => false

/-- The size of a whole number below `bound`, in decimal digits or in another base with a mark. -/
def magnitude? (bound : Nat) (cs : List Char) : Option Nat :=
  let (base, digits) := match cs with
    | '0' :: 'x' :: ds => (16, ds)
    | '0' :: 'o' :: ds => (8, ds)
    | '0' :: 'b' :: ds => (2, ds)
    | ds => (10, ds)
  if hasLeadingZero digits && base == 10 then none
  else (Decimal.natOfDigits? base digits).filter (· < bound)

/-- A whole number below `bound` without a minus sign. -/
def nat? (bound : Nat) (text : String) : Option Nat :=
  match text.toList with
  | '+' :: cs => magnitude? bound cs
  | cs => magnitude? bound cs

/-- A whole number that fits into 128 bits. -/
def int? (text : String) : Option Int :=
  match text.toList with
  | '-' :: cs => (magnitude? (Nat.pow 2 127 + 1) cs).map fun n => -(n : Int)
  | _ => (nat? (Nat.pow 2 128) text).map Int.ofNat

/-- A number with a point or an exponent, or one that is not finite. -/
def float? (text : String) : Option Float :=
  let (plus, cs) := match text.toList with
    | '+' :: cs => (true, cs)
    | cs => (false, cs)
  let signs := match cs with
    | '+' :: _ | '-' :: _ => plus
    | _ => false
  let spelling : String := .ofList cs
  if signs then none
  else if [".inf", ".Inf", ".INF"].contains spelling then some (1.0 / 0.0)
  else if ["-.inf", "-.Inf", "-.INF"].contains text then some (-1.0 / 0.0)
  else if [".nan", ".NaN", ".NAN"].contains text then some (0.0 / 0.0)
  else (Decimal.float? cs).filter (·.isFinite)

/-! ### Values -/

inductive Value where
  | null
  | bool (b : Bool)
  | int (n : Int)
  | float (x : Float)
  | text (s : String)
deriving Inhabited

def describeText (s : String) : String := "string " ++ Text.quoted s

/-- How a value is called in a message. -/
def Value.description : Value → String
  | null => "unit value"
  | bool b => s!"boolean \x60{b}\x60"
  | int n =>
    if n < Int64.minValue.toInt then s!"integer \x60{n}\x60 as i128"
    else if UInt64.size ≤ n then s!"integer \x60{n}\x60 as u128"
    else s!"integer \x60{n}\x60"
  | float x =>
    let s := (Decimal.Form.ofFloat x).plain
    let s := if x.isFinite && !s.toList.contains '.' then s ++ ".0" else s
    s!"floating point \x60{s}\x60"
  | text s => describeText s

/-- What an unquoted scalar stands for. -/
def Value.ofSpelling (text : String) : Value :=
  if text.isEmpty || isNull text then .null
  else match bool? text with
  | some b => .bool b
  | none => match int? text with
    | some n => .int n
    | none => match if hasLeadingZero text.toList then none else float? text with
      | some x => .float x
      | none => .text text

def boolTag : String := "tag:yaml.org,2002:bool"

def intTag : String := "tag:yaml.org,2002:int"

def floatTag : String := "tag:yaml.org,2002:float"

def nullTag : String := "tag:yaml.org,2002:null"

/-- What a scalar has to be by its tag. -/
def ofTagged (tag text : String) (style : Style) : Except Misfit Value :=
  let must (what : String) (v : Option Value) : Except Misfit Value :=
    match v with
    | some v => .ok v
    | none => .error (.value (describeText text) what)
  if tag == boolTag then must "a boolean" ((bool? text).map .bool)
  else if tag == intTag then must "an integer" ((int? text).map .int)
  else if tag == floatTag then must "a float" ((float? text).map .float)
  else if tag == nullTag then must "null" (if isNull text then some .null else none)
  else if tag.startsWith "!" && style == .plain then .ok (.ofSpelling text)
  else .ok (.text text)

namespace Head

/-- What is wrong with a node where something else is expected. -/
def misfit (expected : String) : Head → Misfit
  | .sequence _ => .type "sequence" expected
  | .mapping _ => .type "map" expected
  | .scalar tag text style =>
    let value : Except Misfit Value := match tag with
      | some tag => ofTagged tag text style
      | none => .ok (if style == .plain then .ofSpelling text else .text text)
    match value with
    | .ok v => .type v.description expected
    | .error e => e

/-- Reads a scalar that is not quoted, or is a literal block with the given tag. -/
def read {β : Type} (tag expected : String) (parse : String → Option β) (h : Head) :
    Except Misfit β :=
  let parsed := match h with
    | .scalar t text style =>
      if style == .plain || (style == .literal && t == some tag) then parse text else none
    | _ => none
  match parsed with
  | some v => .ok v
  | none => .error (h.misfit expected)

def readFloat (h : Head) : Except Misfit Float := h.read floatTag "f64" float?

/-- Reads a whole number of 64 bits, which is called by the given name. -/
def readWord (expected : String) (h : Head) : Except Misfit Nat :=
  h.read intTag expected (nat? UInt64.size)

def readBool (h : Head) : Except Misfit Bool := h.read boolTag "a boolean" bool?

/-- The text of a scalar. -/
def readText (expected : String) (h : Head) : Except Misfit String :=
  match h with
  | .scalar _ text _ => .ok text
  | _ => .error (h.misfit expected)

end Head
end Likeness.Yaml
