/-!
# Tokens of YAML

A YAML text is first read as a sequence of tokens. Indentation shows in them as the beginnings and
ends of blocks. Places are counted from 0.
-/

namespace Likeness.Yaml

/-- A place in a text: the characters and the lines before it, and the characters before it in its
line. -/
structure Spot where
  index : Nat := 0
  line : Nat := 0
  column : Nat := 0
deriving BEq, DecidableEq, Inhabited, Repr

namespace Spot

def text (p : Spot) : String := s!"line {p.line + 1} column {p.column + 1}"

/-- Whether a place is the beginning of the text, which is not mentioned in messages. -/
def isStart (p : Spot) : Bool := p.line == 0 && p.column == 0

end Spot

/-- In what a fault was found. -/
inductive Layer where
  | characters
  | tokens
  | events
deriving BEq, DecidableEq, Inhabited, Repr

/-- Why a text is not YAML: what is wrong and where, and what was being read and where that began.
Characters that must not occur are found by their `offset` in bytes. -/
structure Fault where
  layer : Layer := .tokens
  problem : String
  spot : Spot := {}
  offset : Nat := 0
  context : Option (String × Spot) := none
deriving BEq, DecidableEq, Inhabited, Repr

def Fault.message (f : Fault) : String :=
  let place := if !f.spot.isStart then s!" at {f.spot.text}"
    else if f.offset != 0 then s!" at position {f.offset}"
    else ""
  let context := match f.context with
    | none => ""
    | some (what, spot) =>
      let sameLine := spot.line == f.spot.line && spot.column == f.spot.column
      s!", {what}" ++ (if spot.isStart || sameLine then "" else s!" at {spot.text}")
  f.problem ++ place ++ context

/-- How a scalar is written. -/
inductive Style where
  | plain
  | singleQuoted
  | doubleQuoted
  | literal
  | folded
deriving BEq, DecidableEq, Inhabited, Repr

inductive TokenKind where
  | streamStart
  | streamEnd
  | versionDirective (major minor : Nat)
  | tagDirective (handle uri : String)
  | documentStart
  | documentEnd
  | blockSequenceStart
  | blockMappingStart
  | blockEnd
  | flowSequenceStart
  | flowSequenceEnd
  | flowMappingStart
  | flowMappingEnd
  | blockEntry
  | flowEntry
  | key
  | value
  | alias (name : String)
  | anchor (name : String)
  | tag (handle suffix : String)
  | scalar (text : String) (style : Style)
deriving BEq, DecidableEq, Inhabited, Repr

structure Token where
  kind : TokenKind
  start : Spot
  stop : Spot
deriving BEq, DecidableEq, Inhabited, Repr

/-- A place where a key may have begun, before the token of the given number. A required key must be
followed by a colon. -/
structure KeySpot where
  possible : Bool := false
  required : Bool := false
  number : Nat := 0
  spot : Spot := {}
deriving Inhabited, Repr

/-- A text that is being read, and the tokens that have been found and not yet taken. `keys` holds a
place for each level of flow collections, innermost first, and `indents` the columns of the blocks
around the innermost one, which begins at column `indent`. -/
structure Scanner where
  rest : List Char
  spot : Spot := {}
  started : Bool := false
  flow : Nat := 0
  indent : Int := -1
  indents : List Int := []
  keyAllowed : Bool := false
  keys : List KeySpot := []
  queue : List Token := []
  taken : Nat := 0
deriving Inhabited

/-! ### Classes of characters -/

def isBlank (c : Char) : Bool := c == ' ' || c == '\t'

def isBreak (c : Char) : Bool :=
  c == '\r' || c == '\n' || c == '\x85' || c == '\u2028' || c == '\u2029'

/-- The end of the text reads as NUL, which cannot occur in it. -/
def isEnd (c : Char) : Bool := c == '\x00'

def isBreakOrEnd (c : Char) : Bool := isBreak c || isEnd c

def isBlankOrEnd (c : Char) : Bool := isBlank c || isBreak c || isEnd c

/-- The characters of names: letters, digits, underscores and hyphens of ASCII. -/
def isWord (c : Char) : Bool := c.isAlphanum || c == '_' || c == '-'

/-- Whether a character may occur in a text. -/
def isAllowed (c : Char) : Bool :=
  let n := c.toNat
  n == 0x09 || n == 0x0A || n == 0x0D || (0x20 ≤ n && n ≤ 0x7E) || n == 0x85 ||
    (0xA0 ≤ n && n ≤ 0xD7FF) || (0xE000 ≤ n && n ≤ 0xFFFD) || 0x10000 ≤ n

def hexValue? (c : Char) : Option Nat :=
  if c.isDigit then some (c.toNat - '0'.toNat)
  else if 'a' ≤ c && c ≤ 'f' then some (c.toNat - 'a'.toNat + 10)
  else if 'A' ≤ c && c ≤ 'F' then some (c.toNat - 'A'.toNat + 10)
  else none

/-! ### Moving on -/

namespace Scanner

/-- The next character. -/
def look (s : Scanner) : Char := s.rest.headD '\x00'

/-- The character `n` places ahead. -/
def lookAt (s : Scanner) (n : Nat) : Char := s.rest.getD n '\x00'

/-- Passes over a character. -/
def skip (s : Scanner) : Scanner :=
  { s with
    rest := s.rest.tail
    spot := { s.spot with index := s.spot.index + 1, column := s.spot.column + 1 } }

/-- Passes over `n` characters. -/
def skips (s : Scanner) : Nat → Scanner
  | 0 => s
  | n + 1 => skips s.skip n

/-- Passes over a line end, if there is one. Returns it as it counts in a scalar. -/
def takeBreak (s : Scanner) : List Char × Scanner :=
  let next (n : Nat) (rest : List Char) : Scanner :=
    { s with rest, spot := ⟨s.spot.index + n, s.spot.line + 1, 0⟩ }
  match s.rest with
  | '\r' :: '\n' :: cs => (['\n'], next 2 cs)
  | c :: cs =>
    if c == '\u2028' || c == '\u2029' then ([c], next 1 cs)
    else if isBreak c then (['\n'], next 1 cs)
    else ([], s)
  | [] => ([], s)

def skipBreak (s : Scanner) : Scanner := s.takeBreak.2

/-- Takes characters of a class. -/
def takeWhile (p : Char → Bool) : List Char → Scanner → List Char × Scanner
  | [], s => ([], s)
  | c :: cs, s =>
    if p c then
      let (text, s) := takeWhile p cs s.skip
      (c :: text, s)
    else ([], s)

/-- The characters of a class from here on, and the scanner behind them. -/
def span (s : Scanner) (p : Char → Bool) : List Char × Scanner := takeWhile p s.rest s

def skipWhile (s : Scanner) (p : Char → Bool) : Scanner := (s.span p).2

/-- Passes over blanks and a comment. -/
def skipComment (s : Scanner) : Scanner :=
  let s := s.skipWhile isBlank
  if s.look == '#' then s.skipWhile (!isBreakOrEnd ·) else s

/-- What is wrong here, while something was being read that began at `start`. -/
def fault (s : Scanner) (what : String) (start : Spot) (problem : String) : Fault :=
  { problem, spot := s.spot, context := some (what, start) }

def push (s : Scanner) (t : Token) : Scanner := { s with queue := s.queue ++ [t] }

/-- Whether a line with three hyphens or points, which ends a document, begins here. -/
def atDocumentMark (s : Scanner) : Bool :=
  s.spot.column == 0 &&
    ((s.look == '-' && s.lookAt 1 == '-' && s.lookAt 2 == '-') ||
      (s.look == '.' && s.lookAt 1 == '.' && s.lookAt 2 == '.')) && isBlankOrEnd (s.lookAt 3)

end Scanner
end Likeness.Yaml
