import Likeness.Decimal.Shortest

/-!
# Reading decimals

The texts of decimal numbers: digits with a point and an exponent, each of which may be left out,
and names for what is no number and for the infinities.
-/

namespace Likeness.Decimal

/-- The number that digits to a base of at most 16 stand for. There must be a digit, and nothing
else. -/
def natOfDigits? (base : Nat) (digits : List Char) : Option Nat :=
  if digits.isEmpty then none
  else digits.foldlM (fun n c => (value? c).bind fun d =>
    if d < base then some (n * base + d) else none) 0
where
  value? (c : Char) : Option Nat :=
    if c.isDigit then some (c.toNat - '0'.toNat)
    else if 'a' ≤ c && c ≤ 'f' then some (c.toNat - 'a'.toNat + 10)
    else if 'A' ≤ c && c ≤ 'F' then some (c.toNat - 'A'.toNat + 10)
    else none

/-- A sign and what follows it. -/
def splitSign : List Char → Bool × List Char
  | '-' :: cs => (true, cs)
  | '+' :: cs => (false, cs)
  | cs => (false, cs)

/-- The number that an exponent stands for; nothing is the exponent 0. -/
def exponent? : List Char → Option Int
  | [] => some 0
  | c :: cs =>
    if c == 'e' || c == 'E' then
      let (negative, digits) := splitSign cs
      (natOfDigits? 10 digits).map fun n => if negative then -(n : Int) else n
    else none

/-- The decimal that a text without a sign stands for. A digit is before or after the point. -/
def Numeral.ofChars? (cs : List Char) : Option Numeral := do
  let (whole, rest) := cs.span (·.isDigit)
  let (places, rest) := match rest with
    | '.' :: cs => cs.span (·.isDigit)
    | cs => ([], cs)
  let e ← exponent? rest
  let n ← natOfDigits? 10 (whole ++ places)
  return ⟨n, e - (places.length : Int)⟩

/-- The number that a text stands for, with names for what is not finite in any letter case. -/
def float? (text : List Char) : Option Float :=
  let (negative, cs) := splitSign text
  let signed (x : Float) : Float := if negative then -x else x
  match (String.ofList (cs.map Char.toLower)) with
  | "inf" | "infinity" => some (signed (1.0 / 0.0))
  | "nan" => some (0.0 / 0.0)
  | _ => (Numeral.ofChars? cs).map (·.toFloat negative)

end Likeness.Decimal
