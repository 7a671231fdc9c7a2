import Likeness.Yaml.Token

/-!
# Scalars of YAML

Scalars are plain, in single or double quotes, or blocks that are literal or folded. In all but
literal ones a single line end counts as a space.
-/

namespace Likeness.Yaml

namespace Scanner

/-! ### Blanks inside a scalar -/

/-- The blanks between two parts of a flow scalar: those of one line, or a line end and those after
it. -/
structure Gap where
  lines : Bool := false
  blanks : List Char := []
  first : List Char := []
  others : List Char := []
deriving Inhabited

/-- What a gap counts as. -/
def Gap.text (g : Gap) : List Char :=
  if g.lines then
    match g.first with
    | '\n' :: _ => if g.others.isEmpty then [' '] else g.others
    | first => first ++ g.others
  else g.blanks

/-- Reads the blanks of a gap. Before column `indent` a tab is refused. -/
def readGap (indent : Int) (tab : Scanner → Fault) : (fuel : Nat) → Gap → Scanner →
    Except Fault (Gap × Scanner)
  | 0, g, s => .ok (g, s)
  | fuel + 1, g, s =>
    let c := s.look
    if isBlank c then
      if g.lines && (s.spot.column : Int) < indent && c == '\t' then .error (tab s)
      else
        let g := if g.lines then g else { g with blanks := g.blanks ++ [c] }
        readGap indent tab fuel g s.skip
    else if isBreak c then
      let (b, s) := s.takeBreak
      if g.lines then readGap indent tab fuel { g with others := g.others ++ b } s
      else readGap indent tab fuel { g with lines := true, blanks := [], first := b } s
    else .ok (g, s)

/-! ### Plain scalars -/

/-- Where in a flow collection a colon must not stand in a plain scalar. -/
def badColon (s : Scanner) : Bool :=
  s.flow > 0 && s.look == ':' && [',', '?', '[', ']', '\x7b', '\x7d'].contains (s.lookAt 1)

def endsPlain (s : Scanner) : Bool :=
  (s.look == ':' && isBlankOrEnd (s.lookAt 1)) ||
    (s.flow > 0 && [',', '[', ']', '\x7b', '\x7d'].contains s.look)

/-- Reads the characters of a plain scalar up to the next blank; the text is kept in reverse. -/
def plainWord (start : Spot) : (fuel : Nat) → List Char → Scanner →
    Except Fault (List Char × Scanner)
  | 0, text, s => .ok (text, s)
  | fuel + 1, text, s =>
    if isBlankOrEnd s.look then .ok (text, s)
    else if badColon s then
      .error (s.fault "while scanning a plain scalar" start "found unexpected ':'")
    else if endsPlain s then .ok (text, s)
    else plainWord start fuel (s.look :: text) s.skip

/-- Reads a plain scalar. `gap` is the gap before this place, and `stop` is where the text so far
ends. -/
def plain (start : Spot) (indent : Int) : (fuel : Nat) → List Char → Gap → Spot → Scanner →
    Except Fault (List Char × Spot × Bool × Scanner)
  | 0, text, gap, stop, s => .ok (text, stop, gap.lines, s)
  | fuel + 1, text, gap, stop, s =>
    if s.atDocumentMark || s.look == '#' then .ok (text, stop, gap.lines, s)
    else do
      let (word, t) ← plainWord start (s.rest.length + 1) [] s
      let (text, gap, stop) :=
        if word.isEmpty then (text, gap, stop)
        else (word ++ gap.text.reverse ++ text, {}, t.spot)
      if !(isBlank t.look || isBreak t.look) then return (text, stop, gap.lines, t)
      let (gap, t) ← readGap indent
        (·.fault "while scanning a plain scalar" start
          "found a tab character that violates indentation")
        (t.rest.length + 1) gap t
      if t.flow == 0 && (t.spot.column : Int) < indent then return (text, stop, gap.lines, t)
      plain start indent fuel text gap stop t

def plainScalar (s : Scanner) : Except Fault Scanner := do
  let (text, stop, lines, t) ← plain s.spot (s.indent + 1) (s.rest.length + 1) [] {} s.spot s
  let t := t.push ⟨.scalar (.ofList text.reverse) .plain, s.spot, stop⟩
  return if lines then { t with keyAllowed := true } else t

/-! ### Quoted scalars -/

/-- The characters that a letter stands for after a backslash. -/
def escapes : List (Char × Char) := [
  ('0', '\x00'), ('a', '\x07'), ('b', '\x08'), ('t', '\t'), ('\t', '\t'), ('n', '\n'),
  ('v', '\x0b'), ('f', '\x0c'), ('r', '\r'), ('e', '\x1b'), (' ', ' '), ('"', '"'), ('/', '/'),
  ('\\', '\\'), ('N', '\x85'), ('_', '\xa0'), ('L', '\u2028'), ('P', '\u2029')]

/-- How many hexadecimal digits follow a letter after a backslash. -/
def codeLength (c : Char) : Option Nat := [('x', 2), ('u', 4), ('U', 8)].lookup c

/-- The number that hexadecimal digits give. -/
def hexNumber? (cs : List Char) : Option Nat :=
  cs.foldl (fun acc c => acc.bind fun n => (hexValue? c).map fun d => 16 * n + d) (some 0)

/-- Reads an escape sequence. -/
def readEscape (start : Spot) (s : Scanner) : Except Fault (Char × Scanner) :=
  let fault (problem : String) := s.fault "while parsing a quoted scalar" start problem
  match escapes.lookup (s.lookAt 1), codeLength (s.lookAt 1) with
  | some c, _ => .ok (c, s.skips 2)
  | none, some n =>
    let t := s.skips 2
    let digits := (List.range n).map t.lookAt
    match hexNumber? digits with
    | none => .error (t.fault "while parsing a quoted scalar" start
        "did not find expected hexdecimal number")
    | some v =>
      if (0xD800 ≤ v && v ≤ 0xDFFF) || 0x10FFFF < v then
        .error (t.fault "while parsing a quoted scalar" start
          "found invalid Unicode character escape code")
      else .ok (Char.ofNat v, t.skips n)
  | none, none => .error (fault "found unknown escape character")

/-- Reads the characters of a quoted scalar up to the next blank or the closing quote. Tells whether
it ended with a line end after a backslash. -/
def quotedWord (single : Bool) (start : Spot) : (fuel : Nat) → List Char → Scanner →
    Except Fault (List Char × Bool × Scanner)
  | 0, text, s => .ok (text, false, s)
  | fuel + 1, text, s =>
    let c := s.look
    if isBlankOrEnd c then .ok (text, false, s)
    else if single && c == '\'' && s.lookAt 1 == '\'' then
      quotedWord single start fuel ('\'' :: text) (s.skips 2)
    else if c == (if single then '\'' else '"') then .ok (text, false, s)
    else if !single && c == '\\' then
      if isBreak (s.lookAt 1) then .ok (text, true, s.skip.skipBreak)
      else do
        let (e, s) ← readEscape start s
        quotedWord single start fuel (e :: text) s
    else quotedWord single start fuel (c :: text) s.skip

/-- Reads a quoted scalar up to and with its closing quote. -/
def quoted (single : Bool) (start : Spot) : (fuel : Nat) → List Char → Scanner →
    Except Fault (List Char × Scanner)
  | 0, text, s => .ok (text, s)
  | fuel + 1, text, s =>
    let what := "while scanning a quoted scalar"
    if s.atDocumentMark then .error (s.fault what start "found unexpected document indicator")
    else if isEnd s.look then .error (s.fault what start "found unexpected end of stream")
    else do
      let (text, joined, s) ← quotedWord single start (s.rest.length + 1) text s
      if s.look == (if single then '\'' else '"') then return (text, s.skip)
      let (gap, s) ← readGap (-1) (·.fault what start "") (s.rest.length + 1) { lines := joined } s
      quoted single start fuel (gap.text.reverse ++ text) s

def quotedScalar (single : Bool) (s : Scanner) : Except Fault Scanner := do
  let (text, t) ← quoted single s.spot (s.rest.length + 1) [] s.skip
  let style := if single then Style.singleQuoted else .doubleQuoted
  return t.push ⟨.scalar (.ofList text.reverse) style, s.spot, t.spot⟩

/-! ### Block scalars -/

/-- What becomes of the line ends after a block scalar. -/
inductive Chomping where
  | strip
  | clip
  | keep
deriving BEq, DecidableEq

def blockContext : String := "while scanning a block scalar"

/-- Reads the indicators of a block scalar: what becomes of the last line ends, and by how much it
is indented, 0 if that is left to the text. -/
def blockHeader (start : Spot) (s : Scanner) : Except Fault (Chomping × Nat × Scanner) :=
  let chomping (s : Scanner) : Option Chomping :=
    if s.look == '+' then some .keep else if s.look == '-' then some .strip else none
  let increment (s : Scanner) : Except Fault (Nat × Scanner) :=
    if s.look == '0' then
      .error (s.fault blockContext start "found an indentation indicator equal to 0")
    else if s.look.isDigit then .ok (s.look.toNat - '0'.toNat, s.skip)
    else .ok (0, s)
  match chomping s with
  | some c => do
    let (n, s) ← increment s.skip
    return (c, n, s)
  | none => do
    let (n, s) ← increment s
    match if n == 0 then none else chomping s with
    | some c => return (c, n, s.skip)
    | none => return (.clip, n, s)

/-- Reads indentation and empty lines. An `indent` of 0 is not known yet; then the widest line
counts. -/
def blockBreaks (start : Spot) (indent : Nat) : (fuel widest : Nat) → List Char → Spot → Scanner →
    Except Fault (Nat × List Char × Spot × Scanner)
  | 0, widest, text, stop, s => .ok (widest, text, stop, s)
  | fuel + 1, widest, text, stop, s =>
    if (indent == 0 || s.spot.column < indent) && s.look == ' ' then
      blockBreaks start indent fuel widest text stop s.skip
    else
      let widest := max widest s.spot.column
      if (indent == 0 || s.spot.column < indent) && s.look == '\t' then
        .error (s.fault blockContext start
          "found a tab character where an indentation space is expected")
      else if isBreak s.look then
        let (b, s) := s.takeBreak
        blockBreaks start indent fuel widest (text ++ b) s.spot s
      else .ok (widest, text, stop, s)

/-- The lines of a block scalar. `first` is the line end before the next line, and `others` are the
empty lines after it; `led` tells that the line before began with a blank. -/
def blockLines (folded : Bool) (start : Spot) (indent : Nat) : (fuel : Nat) → (text : List Char) →
    (first others : List Char) → (led : Bool) → Spot → Scanner →
    Except Fault (List Char × List Char × List Char × Spot × Scanner)
  | 0, text, first, others, _, stop, s => .ok (text, first, others, stop, s)
  | fuel + 1, text, first, others, led, stop, s =>
    if s.spot.column != indent || isEnd s.look then .ok (text, first, others, stop, s)
    else do
      let blank := isBlank s.look
      let fold := folded && first.head? == some '\n' && !led && !blank
      let between := if fold then (if others.isEmpty then [' '] else []) else first
      let (line, s) := s.span (!isBreakOrEnd ·)
      let (first, s) := s.takeBreak
      let text' := line.reverse ++ (between ++ others).reverse ++ text
      let (_, others, stop, s) ← blockBreaks start indent (s.rest.length + 1) 0 [] s.spot s
      blockLines folded start indent fuel text' first others blank stop s

def blockScalar (literal : Bool) (s : Scanner) : Except Fault Scanner := do
  let start := s.spot
  let (chomping, increment, t) ← blockHeader start s.skip
  let t := t.skipComment
  if !isBreakOrEnd t.look then
    throw (t.fault blockContext start "did not find expected comment or line break")
  let t := t.skipBreak
  let outer := t.indent.toNat
  let indent := if increment == 0 then 0 else outer + increment
  let (widest, others, stop, t) ← blockBreaks start indent (t.rest.length + 1) 0 [] t.spot t
  let indent := if indent == 0 then max (max widest (t.indent + 1).toNat) 1 else indent
  let (text, first, others, stop, t) ←
    blockLines (!literal) start indent (t.rest.length + 1) [] [] others false stop t
  let tail := match chomping with
    | .strip => []
    | .clip => first
    | .keep => first ++ others
  let style := if literal then Style.literal else .folded
  return t.push ⟨.scalar (.ofList (text.reverse ++ tail)) style, start, stop⟩

end Scanner
end Likeness.Yaml
