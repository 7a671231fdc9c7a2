import Likeness.Decimal.Shortest

/-!
# JSON values

Whole numbers that fit into a machine word of 64 bits are kept apart from other numbers. The members
of an object stand in order, each name once.
-/

namespace Likeness

inductive Json where
  | null
  | bool (b : Bool)
  | int (n : Int)
  | float (x : Float)
  | str (s : String)
  | arr (items : List Json)
  | obj (members : List (String × Json))
deriving Inhabited

namespace Json

/-- The value of a member. -/
def get? (name : String) : Json → Option Json
  | obj ms => ms.lookup name
  | _ => none

/-- Adds a member, in place of an earlier one of its name. -/
def addMember (ms : List (String × Json)) (name : String) (v : Json) : List (String × Json) :=
  if ms.any (·.1 == name) then ms.map fun m => if m.1 == name then (name, v) else m
  else ms ++ [(name, v)]

def nat (n : Nat) : Json := int n

/-- A text, or null. -/
def text? (s : Option String) : Json := (s.map str).getD null

/-- A number, or null if it is not finite. -/
def number (x : Float) : Json := if x.isFinite then float x else null

/-- A number, or its name if it is not finite. -/
def namedNumber (x : Float) : Json :=
  if x.isFinite then float x else str (Decimal.Form.ofFloat x).document

def asString? : Json → Option String
  | str s => some s
  | _ => none

def asBool? : Json → Option Bool
  | bool b => some b
  | _ => none

def asArray? : Json → Option (List Json)
  | arr xs => some xs
  | _ => none

/-- A whole number from 0 up to `bound`, which is left out. -/
def asNat? (bound : Nat) : Json → Option Nat
  | int n => if 0 ≤ n && n < bound then some n.toNat else none
  | _ => none

/-- A number as a floating-point number. -/
def asFloat? : Json → Option Float
  | int n => some (Decimal.Numeral.toFloat (n < 0) ⟨n.natAbs, 0⟩)
  | float x => some x
  | _ => none

end Json
end Likeness
