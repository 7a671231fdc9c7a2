import Likeness.Parse.Reader

/-!
# Lines, indentation and strings

The tokens that depend on more than the characters they consist of: the end of a line, a step in or
out of a block, and the parts of a string, which may hold expressions. The scanner keeps the widths
of the blocks around it and the delimiters of the strings around it.
-/

namespace Likeness.Parse

/-- What opens a string and must close it. -/
structure Delimiter where
  format : Bool := false
  raw : Bool := false
  bytes : Bool := false
  triple : Bool := false
  quote : Char := '\x00'
deriving BEq, DecidableEq, Inhabited

/-- The tokens of the scanner, in the order of the grammar. -/
inductive LayoutToken where
  | newline
  | indent
  | dedent
  | stringStart
  | stringContent
  | escapeInterpolation
  | stringEnd
  | comment
  | closeBracket
  | closeParen
  | closeBrace
  | except'
deriving BEq, DecidableEq, Inhabited

def LayoutToken.index : LayoutToken → Nat
  | newline => 0
  | indent => 1
  | dedent => 2
  | stringStart => 3
  | stringContent => 4
  | escapeInterpolation => 5
  | stringEnd => 6
  | comment => 7
  | closeBracket => 8
  | closeParen => 9
  | closeBrace => 10
  | except' => 11

/-- The blocks and strings around a place, innermost first. The width of the outermost block is 0
and is not kept. -/
structure Layout where
  widths : List Nat := []
  delimiters : List Delimiter := []
  inFormat : Bool := false
deriving BEq, DecidableEq, Inhabited

namespace Layout

/-- The layout as it is kept between tokens: each width in one byte, at most 255 delimiters, and
1024 bytes in all. -/
def kept (l : Layout) : Layout :=
  let ds := (l.delimiters.reverse.take 255).reverse
  let ws := (l.widths.reverse.take (1022 - ds.length)).reverse
  { l with widths := ws.map (· % 256), delimiters := ds }

def width (l : Layout) : Nat := l.widths.headD 0

/-- A token with the reader and the layout after it. -/
abbrev Result := Option (LayoutToken × Reader × Layout)

/-! ### Inside a string -/

/-- How reading the inside of a string ends: with a token, with nothing, or at the end of the text,
where the scanner goes on. -/
inductive Inside where
  | token (t : LayoutToken) (r : Reader) (l : Layout)
  | nothing
  | ends (r : Reader)

/-- The place after a line end, if there is one. -/
def overLine (r : Reader) : Reader :=
  if r.look == '\r' then
    let r := r.advance
    if r.look == '\n' then r.advance else r
  else if r.look == '\n' then r.advance else r

/-- The text of a string so far is a token if there is any. -/
def content (some? : Bool) (r : Reader) (l : Layout) : Inside :=
  if some? then .token .stringContent r l else .nothing

/-- A string has been closed. -/
def closed (l : Layout) : Layout :=
  { l with delimiters := l.delimiters.tail, inFormat := false }

/-- Reads on at a quote of the kind that closes the string. -/
def atQuote (d : Delimiter) (some? : Bool) (r : Reader) (l : Layout) : Inside :=
  if d.triple then
    let r := r.markEnd.advance
    if r.look == d.quote then
      let r := r.advance
      if r.look == d.quote then
        if some? then .token .stringContent r l
        else .token .stringEnd r.advance.markEnd (closed l)
      else .token .stringContent r.markEnd l
    else .token .stringContent r.markEnd l
  else if some? then .token .stringContent r.markEnd l
  else .token .stringEnd r.advance.markEnd (closed l)

/-- Reads the text of a string up to a token; `some?` tells whether there is text before. -/
def inside (d : Delimiter) (l : Layout) : Nat → Bool → Reader → Inside
  | 0, _, r => .ends r
  | fuel + 1, some?, r =>
    let c := r.look
    if c == '\x00' then .ends r
    else if (c == '\x7b' || c == '\x7d') && d.format then content some? r.markEnd l
    else if c == '\\' then
      if d.raw then
        let r := r.advance
        let r := if r.look == d.quote || r.look == '\\' then r.advance else r
        inside d l fuel some? (overLine r)
      else
        let r := r.markEnd
        if d.bytes then
          let after := r.advance
          if after.look == 'N' || after.look == 'u' || after.look == 'U' then
            inside d l fuel true after.advance.advance
          else content some? after l
        else content some? r l
    else if c == d.quote then atQuote d some? r l
    else if c == '\n' && some? && !d.triple then .nothing
    else inside d l fuel true r.advance

/-! ### Between tokens -/

/-- The blanks before a token: whether a line ended, the width of the last line's beginning, and the
width before the first comment. -/
structure Blanks where
  line : Bool := false
  width : Nat := 0
  comment : Option Nat := none

/-- Passes over the rest of a line, its end included. -/
def skipLine : Nat → Reader → Reader
  | 0, r => r
  | fuel + 1, r =>
    if r.look == '\x00' || r.look == '\n' then r.skip else skipLine fuel r.skip

/-- Passes over blanks, and over comments on lines of their own where `comments` are wanted. Fails
where a token cannot be one of the scanner's. -/
def blanks (comments : Bool) : Nat → Blanks → Reader → Option (Blanks × Reader)
  | 0, b, r => some (b, r)
  | fuel + 1, b, r =>
    let c := r.look
    if c == '\n' then blanks comments fuel { b with line := true, width := 0 } r.skip
    else if c == ' ' then blanks comments fuel { b with width := b.width + 1 } r.skip
    else if c == '\r' || c == '\x0c' then blanks comments fuel { b with width := 0 } r.skip
    else if c == '\t' then blanks comments fuel { b with width := b.width + 8 } r.skip
    else if c == '#' && comments then
      if b.line then
        blanks comments fuel { b with comment := b.comment <|> some b.width, width := 0 }
          (skipLine (r.left + 1) r)
      else none
    else if c == '\\' then
      let r := r.skip
      let r := if r.look == '\r' then r.skip else r
      if r.look == '\n' || r.atEnd then blanks comments fuel b r.skip else none
    else if r.atEnd then some ({ b with line := true, width := 0 }, r)
    else some (b, r)

/-! ### The beginning of a string -/

/-- Reads the letters before a quote. -/
def prefixes : Nat → Delimiter → Bool → Reader → Delimiter × Bool × Reader
  | 0, d, seen, r => (d, seen, r)
  | fuel + 1, d, seen, r =>
    let c := r.look.toLower
    if c == 'f' then prefixes fuel { d with format := true } true r.advance
    else if c == 'r' then prefixes fuel { d with raw := true } true r.advance
    else if c == 'b' then prefixes fuel { d with bytes := true } true r.advance
    else if c == 'u' then prefixes fuel d true r.advance
    else (d, seen, r)

/-- Reads the quotes that open a string. -/
def opening (d : Delimiter) (r : Reader) : Option (Delimiter × Reader) :=
  let q := r.look
  if q == '\x60' then some ({ d with quote := q }, r.advance.markEnd)
  else if q == '\'' || q == '"' then
    let r := r.advance.markEnd
    if r.look == q then
      let s := r.advance
      if s.look == q then some ({ d with quote := q, triple := true }, s.advance.markEnd)
      else some ({ d with quote := q }, r)
    else some ({ d with quote := q }, r)
  else none

/-! ### The scanner -/

/-- The scanner after the blanks before a token. -/
def afterBlanks (wanted : LayoutToken → Bool) (repair : Bool) (b : Blanks) (r : Reader)
    (l : Layout) : Result :=
  let bracket := wanted .closeBrace || wanted .closeParen || wanted .closeBracket
  let atQuote := r.look == '"' || r.look == '\'' || r.look == '\x60'
  let leaves := wanted .dedent ||
    (!wanted .newline && !(wanted .stringStart && atQuote) && !bracket)
  let early := match b.comment with
    | none => true
    | some w => w < l.width
  if b.line && wanted .indent && b.width > l.width then
    some (.indent, r, { l with widths := b.width :: l.widths })
  else if b.line && leaves && b.width < l.width && !l.inFormat && early then
    some (.dedent, r, { l with widths := l.widths.tail })
  else if b.line && wanted .newline && !repair then some (.newline, r, l)
  else if b.comment.isNone && wanted .stringStart then
    let (d, _, r) := prefixes (r.left + 1) {} false r
    match opening d r with
    | some (d, r) => some (.stringStart, r,
        { l with delimiters := d :: l.delimiters, inFormat := d.format })
    | none => none
  else none

/-- Reads one of the scanner's tokens, of those that are wanted. All of them are wanted only where
an error is being repaired. -/
def scan (wanted : LayoutToken → Bool) (r : Reader) (l : Layout) : Result :=
  let repair := wanted .stringContent && wanted .indent
  let comments := wanted .indent || wanted .dedent || wanted .newline || wanted .except'
  let rest (r : Reader) : Result :=
    match blanks comments (r.left + 1) {} r.markEnd with
    | some (b, r) => afterBlanks wanted repair b r l
    | none => none
  match l.delimiters with
  | d :: _ =>
    let c := r.look
    if wanted .escapeInterpolation && (c == '\x7b' || c == '\x7d') && !repair && d.format then
      let r := r.markEnd.advance
      if r.look == c then some (.escapeInterpolation, r.advance.markEnd, l) else none
    else if wanted .stringContent && !repair then
      match inside d l (r.left + 1) false r with
      | .token t r l => some (t, r, l)
      | .nothing => none
      | .ends r => rest r
    else rest r
  | [] => rest r

end Layout
end Likeness.Parse
