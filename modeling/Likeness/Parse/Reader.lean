/-!
# Reading a text by characters

A reader stands before a character of a text and knows how much text lies behind it. It marks where
the token being read begins and ends.
-/

namespace Likeness.Parse

/-- An amount of text: characters, bytes, line ends, and bytes after the last line end. -/
structure Extent where
  chars : Nat := 0
  bytes : Nat := 0
  row : Nat := 0
  column : Nat := 0
deriving BEq, DecidableEq, Inhabited

namespace Extent

def add (a b : Extent) : Extent :=
  ⟨a.chars + b.chars, a.bytes + b.bytes, a.row + b.row,
    if b.row > 0 then b.column else a.column + b.column⟩

/-- What lies between `b` and the later `a`. -/
def sub (a b : Extent) : Extent :=
  ⟨a.chars - b.chars, a.bytes - b.bytes, a.row - b.row,
    if a.row > b.row then a.column else a.column - b.column⟩

/-- One more character. -/
def step (a : Extent) (c : Char) : Extent :=
  if c == '\n' then ⟨a.chars + 1, a.bytes + c.utf8Size, a.row + 1, 0⟩
  else ⟨a.chars + 1, a.bytes + c.utf8Size, a.row, a.column + c.utf8Size⟩

end Extent

/-- A reader of a text, with the marks of the token that is being read. -/
structure Reader where
  text : Array Char
  pos : Extent
  start : Extent
  stop : Option Extent
deriving Inhabited

namespace Reader

/-- A reader at a place of the text. -/
def at' (text : Array Char) (pos : Extent) : Reader := ⟨text, pos, pos, none⟩

/-- The next character; NUL at the end. -/
def look (r : Reader) : Char := r.text.getD r.pos.chars '\x00'

def atEnd (r : Reader) : Bool := r.text.size ≤ r.pos.chars

/-- Takes a character into the token. -/
def advance (r : Reader) : Reader :=
  if r.atEnd then r else { r with pos := r.pos.step r.look }

/-- Passes over a character before the token. -/
def skip (r : Reader) : Reader :=
  if r.atEnd then r else let p := r.pos.step r.look; { r with pos := p, start := p }

/-- Lets the token end here. -/
def markEnd (r : Reader) : Reader := { r with stop := some r.pos }

/-- Begins a token here; a byte order mark at the beginning of the text is passed over. -/
def begin (r : Reader) : Reader :=
  let r : Reader := { r with start := r.pos, stop := none }
  if r.pos.bytes == 0 && !r.atEnd && r.look == '\uFEFF' then r.skip else r

/-- Ends the token, here if no end was marked. A token that ends before it begins is empty. -/
def finish (r : Reader) : Reader :=
  let stop := r.stop.getD r.pos
  { r with stop := some stop, start := if stop.bytes < r.start.bytes then stop else r.start }

def ending (r : Reader) : Extent := r.stop.getD r.pos

/-- How many characters are left. -/
def left (r : Reader) : Nat := r.text.size - r.pos.chars

end Reader
end Likeness.Parse
