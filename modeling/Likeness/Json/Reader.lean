import Likeness.Decimal.Read
import Likeness.Json.Value

/-!
# Reading JSON

`Json.parse?` reads a whole text as one value. Each step gives what it has read and what is left.
-/

namespace Likeness.Json

def skipSpace (cs : List Char) : List Char :=
  cs.dropWhile fun c => c == ' ' || c == '\t' || c == '\n' || c == '\r'

/-- Four hexadecimal digits. -/
def readUnit : List Char → Option (Nat × List Char)
  | a :: b :: c :: d :: cs => (Decimal.natOfDigits? 16 [a, b, c, d]).map (·, cs)
  | _ => none

/-- A character that is written by its number in UTF-16. -/
def readEscape (cs : List Char) : Option (Char × List Char) := do
  let (u, rest) ← readUnit cs
  if 0xD800 ≤ u && u < 0xDC00 then
    match rest with
    | '\\' :: 'u' :: rest =>
      let (v, rest) ← readUnit rest
      if 0xDC00 ≤ v && v < 0xE000 then
        return (.ofNat (0x10000 + (u - 0xD800) * 0x400 + (v - 0xDC00)), rest)
      else none
    | _ => none
  else if 0xDC00 ≤ u && u < 0xE000 then none
  else return (.ofNat u, rest)

/-- The rest of a string. `text` is what has been read, last character first. -/
def readString : (fuel : Nat) → (text : List Char) → List Char → Option (String × List Char)
  | fuel + 1, text, c :: cs =>
    if c == '"' then some (.ofList text.reverse, cs)
    else if c == '\\' then
      match cs with
      | 'u' :: cs => do
        let (d, cs) ← readEscape cs
        readString fuel (d :: text) cs
      | e :: cs => do
        let d ← escaped? e
        readString fuel (d :: text) cs
      | [] => none
    else if c.toNat < 0x20 then none
    else readString fuel (c :: text) cs
  | _, _, _ => none
where
  escaped? (c : Char) : Option Char :=
    match c with
    | '"' | '\\' | '/' => some c
    | 'b' => some '\x08'
    | 'f' => some '\x0c'
    | 'n' => some '\n'
    | 'r' => some '\r'
    | 't' => some '\t'
    | _ => none

/-- Whether a number is written as JSON has it: no needless zeros, and digits on both sides of the
point. -/
def isNumber (cs : List Char) : Bool :=
  let (whole, rest) := cs.span (·.isDigit)
  let goodWhole := match whole with
    | [] => false
    | ['0'] => true
    | c :: _ => c != '0'
  let goodPlaces := match rest with
    | '.' :: c :: _ => c.isDigit
    | '.' :: [] => false
    | _ => true
  goodWhole && goodPlaces

def readNumber (cs : List Char) : Option (Json × List Char) := do
  let (written, rest) := cs.span fun c =>
    c.isDigit || c == '-' || c == '+' || c == '.' || c == 'e' || c == 'E'
  let (negative, digits) := match written with
    | '-' :: ds => (true, ds)
    | ds => (false, ds)
  if !isNumber digits then none
  let d ← Decimal.Numeral.ofChars? digits
  let n : Int := if negative then -(d.digits : Int) else d.digits
  let fits : Bool := Int64.minValue.toInt ≤ n && n < UInt64.size
  if digits.all (·.isDigit) && fits && !(negative && n == 0) then
    return (.int n, rest)
  else
    let x := d.toFloat negative
    if x.isFinite then return (.float x, rest) else none

mutual

def readValue : (fuel : Nat) → List Char → Option (Json × List Char)
  | 0, _ => none
  | fuel + 1, cs =>
    match skipSpace cs with
    | 'n' :: 'u' :: 'l' :: 'l' :: cs => some (.null, cs)
    | 't' :: 'r' :: 'u' :: 'e' :: cs => some (.bool true, cs)
    | 'f' :: 'a' :: 'l' :: 's' :: 'e' :: cs => some (.bool false, cs)
    | '"' :: cs => (readString (cs.length + 1) [] cs).map fun (s, cs) => (.str s, cs)
    | '[' :: cs =>
      match skipSpace cs with
      | ']' :: cs => some (.arr [], cs)
      | cs => readItems fuel [] cs
    | '\x7b' :: cs =>
      match skipSpace cs with
      | '\x7d' :: cs => some (.obj [], cs)
      | cs => readMembers fuel [] cs
    | cs => readNumber cs

/-- The items of an array from the next one on; `items` are those before, last first. -/
def readItems : (fuel : Nat) → (items : List Json) → List Char → Option (Json × List Char)
  | 0, _, _ => none
  | fuel + 1, items, cs => do
    let (v, cs) ← readValue fuel cs
    match skipSpace cs with
    | ',' :: cs => readItems fuel (v :: items) cs
    | ']' :: cs => return (.arr (v :: items).reverse, cs)
    | _ => none

/-- The members of an object from the next one on. -/
def readMembers : (fuel : Nat) → (members : List (String × Json)) → List Char →
    Option (Json × List Char)
  | 0, _, _ => none
  | fuel + 1, members, cs => do
    match skipSpace cs with
    | '"' :: cs =>
      let (name, cs) ← readString (cs.length + 1) [] cs
      match skipSpace cs with
      | ':' :: cs =>
        let (v, cs) ← readValue fuel cs
        let members := addMember members name v
        match skipSpace cs with
        | ',' :: cs => readMembers fuel members cs
        | '\x7d' :: cs => return (.obj members, cs)
        | _ => none
      | _ => none
    | _ => none

end

/-- The value that a text stands for. -/
def parse? (text : String) : Option Json :=
  let cs := text.toList
  match readValue (2 * cs.length + 2) cs with
  | some (v, rest) => if (skipSpace rest).isEmpty then some v else none
  | none => none

end Likeness.Json
