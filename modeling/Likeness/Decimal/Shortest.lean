/-!
# Shortest decimals

The decimal with the fewest digits that reads back as a given floating-point number. A finite number
is `m * 2 ^ q`; the reals that round to it form an interval, and of the decimal grids 10 ^ e the
coarsest one with a point in the interval gives the digits. If a point of a grid lies in the
interval then so does one of the two neighbours of the number on that grid, so these two are all to
be tried.
-/

namespace Likeness.Decimal

/-- A decimal number `digits * 10 ^ exponent`. -/
structure Numeral where
  digits : Nat
  exponent : Int
deriving BEq, DecidableEq, Inhabited, Repr

/-- A positive number `m * 2 ^ q`. `closer` tells that the next smaller number is only half as far
away as the next greater one. -/
structure Binary where
  m : Nat
  q : Int
  closer : Bool

/-- A fraction `num / den`. -/
structure Fraction where
  num : Nat
  den : Nat

/-- `n * 2 ^ q * 10 ^ e` as a fraction. -/
def scaled (n : Nat) (q e : Int) : Fraction :=
  ⟨n * Nat.pow 2 q.toNat * Nat.pow 10 e.toNat, Nat.pow 2 (-q).toNat * Nat.pow 10 (-e).toNat⟩

/-- How many digits a number has before its decimal point, less the zeros behind it. -/
def magnitude (b : Binary) : Int :=
  let shift : Nat := 340
  let f := scaled b.m b.q shift
  (Nat.toDigits 10 (f.num / f.den)).length - shift

/-- Whether `d * 10 ^ e` rounds to the number. -/
def Binary.takes (b : Binary) (d : Nat) (e : Int) : Bool :=
  -- in quarters of the last place of the number
  let f := scaled d (2 - b.q) e
  let lo := (4 * b.m - (if b.closer then 1 else 2)) * f.den
  let hi := (4 * b.m + 2) * f.den
  if b.m % 2 == 0 then lo ≤ f.num && f.num ≤ hi else lo < f.num && f.num < hi

/-- The point of the grid `10 ^ e` that rounds to the number and is nearest to it. -/
def Binary.onGrid (b : Binary) (e : Int) : Option Nat :=
  let f := scaled b.m b.q (-e)
  let below := f.num / f.den
  let twice := 2 * (f.num % f.den)
  let up := f.den < twice || (f.den == twice && below % 2 == 1)
  match b.takes below e, b.takes (below + 1) e with
  | true, true => some (if up then below + 1 else below)
  | true, false => some below
  | false, true => some (below + 1)
  | false, false => none

/-- Takes zeros off the end of the digits. -/
def Numeral.trim : (fuel : Nat) → Numeral → Numeral
  | 0, d => d
  | fuel + 1, d =>
    if d.digits != 0 && d.digits % 10 == 0 then trim fuel ⟨d.digits / 10, d.exponent + 1⟩ else d

/-- The shortest decimal with at least `17 - tries` digits. -/
def Binary.search (b : Binary) (k : Int) : (tries : Nat) → Numeral
  | 0 => let e := k - 17; ⟨(b.onGrid e).getD 0, e⟩
  | tries + 1 =>
    let e := k - (17 - (tries : Int)) + 1
    match b.onGrid e with
    | some d => ⟨d, e⟩
    | none => search b k tries

def Binary.shortest (b : Binary) : Numeral := (b.search (magnitude b) 17).trim 40

/-! ### Floating-point numbers -/

/-- What a floating-point number is. -/
inductive Form where
  | notANumber
  | infinite (negative : Bool)
  | finite (negative : Bool) (value : Numeral)
deriving BEq, DecidableEq, Inhabited, Repr

/-- Reads the form of a number off its bits. -/
def Form.ofFloat (x : Float) : Form :=
  let bits := x.toBits.toNat
  let negative := bits >>> 63 == 1
  let field : Nat := (bits >>> 52) % 2048
  let fraction : Nat := bits % Nat.pow 2 52
  if field == 2047 then if fraction == 0 then .infinite negative else .notANumber
  else if field == 0 then
    if fraction == 0 then .finite negative ⟨0, 0⟩
    else .finite negative (Binary.shortest ⟨fraction, -1074, false⟩)
  else .finite negative
    (Binary.shortest ⟨fraction + Nat.pow 2 52, (field : Int) - 1075, fraction == 0 && field > 1⟩)

/-! ### Writing -/

def digitText (d : Numeral) : List Char := Nat.toDigits 10 d.digits

/-- The digits with a decimal point, and no more zeros than it takes. -/
def Numeral.positional (d : Numeral) : String :=
  let ds := digitText d
  if 0 ≤ d.exponent then .ofList (ds ++ List.replicate d.exponent.toNat '0')
  else
    let places := (-d.exponent).toNat
    if places < ds.length then
      .ofList (ds.take (ds.length - places) ++ '.' :: ds.drop (ds.length - places))
    else .ofList ('0' :: '.' :: List.replicate (places - ds.length) '0' ++ ds)

/-- One digit before the point, and an exponent with its sign. -/
def Numeral.scientific (d : Numeral) : String :=
  let ds := digitText d
  let e := d.exponent + (ds.length : Int) - 1
  let sign := if e < 0 then "-" else "+"
  let mantissa := match ds with
    | [c] => [c]
    | c :: cs => c :: '.' :: cs
    | [] => []
  .ofList mantissa ++ "e" ++ sign ++ toString e.natAbs

def signText (negative : Bool) : String := if negative then "-" else ""

/-- The text of a number in a message: never an exponent, and no point after a whole number. -/
def Form.plain : Form → String
  | .notANumber => "NaN"
  | .infinite n => signText n ++ "inf"
  | .finite n d => signText n ++ d.positional

/-- The text of a number in a document: positional from 1e-5 up to 1e16, and always with a point or
an exponent. -/
def Form.document : Form → String
  | .notANumber => "NaN"
  | .infinite n => signText n ++ "inf"
  | .finite n d =>
    let k := d.exponent + ((digitText d).length : Int)
    signText n ++
      (if d.digits == 0 then "0.0"
      else if -5 < k && k ≤ 16 then
        if 0 ≤ d.exponent then d.positional ++ ".0" else d.positional
      else d.scientific)

/-! ### Reading -/

/-- The number that is nearest to a decimal. Decimals far outside the range are not computed. -/
def Numeral.toFloat (negative : Bool) (d : Numeral) : Float :=
  let k := d.exponent + ((digitText d).length : Int)
  let x : Float :=
    if d.digits == 0 || k < -330 then 0.0
    else if 330 < k then 1.0 / 0.0
    else if 0 ≤ d.exponent then Float.ofScientific d.digits false d.exponent.toNat
    else Float.ofScientific d.digits true (-d.exponent).toNat
  if negative then -x else x

end Likeness.Decimal
