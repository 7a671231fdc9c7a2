import Likeness.Json.Value

/-!
# Writing JSON

A value is written on one line, with or without characters beyond ASCII, or with one item to a line.
-/

namespace Likeness.Json

/-- What is written for a character of a string. -/
abbrev CharForm := Char → List Char

def hexDigits (n width : Nat) : List Char :=
  let ds := Nat.toDigits 16 n
  List.replicate (width - ds.length) '0' ++ ds

/-- An escape by number in UTF-16. -/
def unitEscape (n : Nat) : List Char := '\\' :: 'u' :: hexDigits n 4

/-- Only what must not stand in a string is escaped. -/
def plainChar : CharForm := fun c =>
  match c with
  | '"' => ['\\', '"']
  | '\\' => ['\\', '\\']
  | '\n' => ['\\', 'n']
  | '\r' => ['\\', 'r']
  | '\t' => ['\\', 't']
  | '\x08' => ['\\', 'b']
  | '\x0c' => ['\\', 'f']
  | c => if c.toNat < 0x20 then unitEscape c.toNat else [c]

/-- What is not ASCII is escaped as well. -/
def asciiChar : CharForm := fun c =>
  let n := c.toNat
  if n < 0x7F then plainChar c
  else if n < 0x10000 then unitEscape n
  else unitEscape (0xD800 + (n - 0x10000) / 0x400) ++ unitEscape (0xDC00 + (n - 0x10000) % 0x400)

def writeString (form : CharForm) (s : String) : String :=
  .ofList ('"' :: s.toList.flatMap form ++ ['"'])

def writeNumber (x : Float) : String :=
  if x.isFinite then (Decimal.Form.ofFloat x).document else "null"

mutual

/-- A value on one line. -/
def write (form : CharForm) : Json → String
  | null => "null"
  | bool b => if b then "true" else "false"
  | int n => toString n
  | float x => writeNumber x
  | str s => writeString form s
  | arr xs => "[" ++ ",".intercalate (writeItems form xs) ++ "]"
  | obj ms => "\x7b" ++ ",".intercalate (writeMembers form ms) ++ "\x7d"

def writeItems (form : CharForm) : List Json → List String
  | [] => []
  | v :: vs => write form v :: writeItems form vs

def writeMembers (form : CharForm) : List (String × Json) → List String
  | [] => []
  | (name, v) :: ms => (writeString form name ++ ":" ++ write form v) :: writeMembers form ms

end

def compact (v : Json) : String := write plainChar v

def ascii (v : Json) : String := write asciiChar v

/-! ### One item to a line -/

/-- Puts items on lines of their own between brackets. -/
def block (opening closing : String) (depth : Nat) (items : List String) : String :=
  let margin (n : Nat) : String := .ofList (List.replicate (2 * n) ' ')
  if items.isEmpty then opening ++ closing
  else
    opening ++ "\n" ++ ",\n".intercalate (items.map (margin (depth + 1) ++ ·)) ++
      "\n" ++ margin depth ++ closing

mutual

/-- A value with its items on lines of their own; `depth` is the number of collections around it. -/
def indented (depth : Nat) : Json → String
  | arr xs => block "[" "]" depth (indentedItems (depth + 1) xs)
  | obj ms => block "\x7b" "\x7d" depth (indentedMembers (depth + 1) ms)
  | v => compact v

def indentedItems (depth : Nat) : List Json → List String
  | [] => []
  | v :: vs => indented depth v :: indentedItems depth vs

def indentedMembers (depth : Nat) : List (String × Json) → List String
  | [] => []
  | (name, v) :: ms =>
    (writeString plainChar name ++ ": " ++ indented depth v) :: indentedMembers depth ms

end

def pretty (v : Json) : String := indented 0 v

/-! ### Order -/

mutual

/-- A value with the members of its objects in the order of their names. -/
def sorted : Json → Json
  | arr xs => arr (sortedItems xs)
  | obj ms => obj ((sortedMembers ms).mergeSort fun a b => a.1 ≤ b.1)
  | v => v

def sortedItems : List Json → List Json
  | [] => []
  | v :: vs => sorted v :: sortedItems vs

def sortedMembers : List (String × Json) → List (String × Json)
  | [] => []
  | (name, v) :: ms => (name, sorted v) :: sortedMembers ms

end

/-- The text of a value with the members of objects in the order of their names. -/
def canonical (v : Json) : String := v.sorted.compact

end Likeness.Json
