import Likeness.Text.Compat.Composition
import Likeness.Text.Compat.Decomposition

/-!
# Normal form KC

`normalize` brings a text into Unicode's normalization form KC: characters are decomposed, combining
marks are put in order, and what can be composed is composed again.
-/

namespace Likeness.Text.Compat

/-! ### Hangul syllables -/

def syllableBase : Nat := 0xAC00
def leadBase : Nat := 0x1100
def vowelBase : Nat := 0x1161
def tailBase : Nat := 0x11A7

def isSyllable (n : Nat) : Bool := syllableBase ≤ n && n < syllableBase + 11172

/-- The letters of a syllable: a lead, a vowel, and a tail if there is one. -/
def splitSyllable (n : Nat) : List Nat :=
  let i := n - syllableBase
  let lead := leadBase + i / 588
  let vowel := vowelBase + i % 588 / 28
  if i % 28 == 0 then [lead, vowel] else [lead, vowel, tailBase + i % 28]

/-- The syllable of a lead and a vowel, or of such a syllable and a tail. -/
def joinSyllable (a b : Nat) : Option Nat :=
  if leadBase ≤ a && a < leadBase + 19 && vowelBase ≤ b && b < vowelBase + 21 then
    some (syllableBase + (a - leadBase) * 588 + (b - vowelBase) * 28)
  else if isSyllable a && (a - syllableBase) % 28 == 0 && tailBase < b && b < tailBase + 28 then
    some (a + (b - tailBase))
  else none

/-! ### The three steps -/

/-- The full compatibility decomposition of a character. -/
def decompose (c : Char) : List Char :=
  let n := c.toNat
  if n < 0xA0 then [c]
  else if isSyllable n then (splitSyllable n).map Char.ofNat
  else
    match ((pages.lookup (n / 256)).getD []).find? fun e => e.first ≤ n && n ≤ e.last with
    | some e => e.parts.map fun p => Char.ofNat (p + (n - e.first))
    | none => [c]

/-- The combining class of a character; 0 for one that begins a new group. -/
def combiningClass (c : Char) : Nat :=
  let n := c.toNat
  if n < 0x300 then 0
  else match classes.find? fun (lo, hi, _) => lo ≤ n && n ≤ hi with
    | some (_, _, k) => k
    | none => 0

/-- Puts a mark before the marks of its class or a higher one; a character of class 0 stays. -/
def insertMark (c : Char) : List Char → List Char
  | [] => [c]
  | d :: ds =>
    let k := combiningClass c
    let l := combiningClass d
    if k == 0 || l == 0 || k ≤ l then c :: d :: ds else d :: insertMark c ds

/-- Orders the combining marks of a decomposed text. -/
def order (cs : List Char) : List Char := cs.foldr insertMark []

/-- The character that two compose to. -/
def compose (a b : Char) : Option Char :=
  match joinSyllable a.toNat b.toNat with
  | some n => some (Char.ofNat n)
  | none =>
    if b.toNat < 0x300 then none
    else ((compositions.lookup a.toNat).bind (·.lookup b.toNat)).map Char.ofNat

/-- Composes the characters of an ordered text. `base` is the last character of class 0, and `marks`
are those behind it that could not be composed with it, last first. -/
def composeAll : (base : Option Char) → (marks : List Char) → List Char → List Char
  | none, marks, [] => marks.reverse
  | some b, marks, [] => b :: marks.reverse
  | none, _, c :: cs =>
    if combiningClass c == 0 then composeAll (some c) [] cs else c :: composeAll none [] cs
  | some b, marks, c :: cs =>
    let k := combiningClass c
    let blocked := match marks with
      | [] => false
      | m :: _ => k ≤ combiningClass m
    match if blocked then none else compose b c with
    | some d => composeAll (some d) marks cs
    | none =>
      if k == 0 then b :: marks.reverse ++ composeAll (some c) [] cs
      else composeAll (some b) (c :: marks) cs

/-- The normalization form KC of a text. A text of ASCII characters is its own. -/
def normalize (cs : List Char) : List Char :=
  if cs.all fun c => c.toNat < 0x80 then cs
  else composeAll none [] (order (cs.flatMap decompose))

end Likeness.Text.Compat
