import Likeness.Decimal.Shortest

/-!
# Numbers for scores

Scores and weights are floating-point numbers when the program runs. The rules that combine them are
written for any type of numbers, so that they can also be read over the rationals.
-/

namespace Likeness

/-- What a type must have for scores and weights. `text` is how a number is written in a message. -/
class Number (α : Type) extends Add α, Sub α, Mul α, Div α, LE α, LT α where
  ofNat : Nat → α
  ofScientific : Nat → Bool → Nat → α
  isFinite : α → Bool
  decLe : DecidableLE α
  decLt : DecidableLT α
  text : α → String

namespace Number

variable {α : Type} [Number α]

instance (priority := low) {n : Nat} : OfNat α n := ⟨ofNat n⟩
instance (priority := low) : OfScientific α := ⟨ofScientific⟩
instance (priority := low) : DecidableLE α := decLe
instance (priority := low) : DecidableLT α := decLt

/-- Whether a number lies between 0 and 1. -/
def isUnit (x : α) : Bool := (0 : α) ≤ x && x ≤ (1 : α)

/-- The sum of the numbers of a list. A list of one number has that number as its sum. -/
def sum : List α → α
  | [] => 0
  | x :: xs => xs.foldl (· + ·) x

/-- The least number of a list that begins with `x`; of equals the first. -/
def least (x : α) (xs : List α) : α := xs.foldl (fun lo y => if y < lo then y else lo) x

/-- The greatest number of a list that begins with `x`; of equals the first. -/
def greatest (x : α) (xs : List α) : α := xs.foldl (fun hi y => if hi < y then y else hi) x

/-- The number of the interval from 0 to 1 that is nearest. -/
def clamp (x : α) : α := if x < 0 then 0 else if (1 : α) < x then 1 else x

end Number

instance : Number Float where
  ofNat := Float.ofNat
  ofScientific := OfScientific.ofScientific
  isFinite := Float.isFinite
  decLe := inferInstance
  decLt := inferInstance
  text x := (Decimal.Form.ofFloat x).plain

instance : Number Rat where
  ofNat n := n
  ofScientific := OfScientific.ofScientific
  isFinite _ := true
  decLe := inferInstance
  decLt := inferInstance
  text x := s!"{x.num}/{x.den}"

end Likeness
