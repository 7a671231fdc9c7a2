import Likeness.Lex.Piece
import Likeness.Text.Compat.Normal

/-!
# Token streams

Reading a text gives its tokens with their places, and its flaws. The characters of a stretch that
begins nothing become one token of kind `error` and one flaw. A text is first brought into Unicode
normal form if that is asked for.
-/

namespace Likeness.Lex

/-! ### Tokens and flaws from pieces -/

/-- How far a text has been read. `pos` is a number of bytes, and `stray` is where the stretch of
misfit text before it begins. Tokens and problems are kept last first. -/
structure Scan where
  pos : Nat := 0
  stray : Option Nat := none
  tokens : List Token := []
  problems : List Problem := []
deriving Inhabited

namespace Scan

/-- Ends a stretch of misfit text. -/
def flush (s : Scan) : Scan :=
  match s.stray with
  | none => s
  | some start =>
    { s with
      stray := none
      tokens := ⟨.error, Kind.normalText "" .error, start, s.pos⟩ :: s.tokens
      problems := .unlexable start (s.pos - start) :: s.problems }

/-- Adds a token. -/
def push (s : Scan) (kind : Kind) (text : List Char) : Scan :=
  let stop := s.pos + Text.byteSize text
  { s with
    pos := stop
    tokens := ⟨kind, kind.normalText (.ofList text), s.pos, stop⟩ :: s.tokens }

/-- Reads one piece. -/
def step (s : Scan) : Piece × List Char → Scan
  | (.layout, text) => let s := s.flush; { s with pos := s.pos + Text.byteSize text }
  | (.token kind, text) => s.flush.push kind text
  | (.string closed, text) =>
    let s := s.flush
    let s := if closed then s
      else { s with problems := .unterminatedString s.pos :: s.problems }
    s.push .stringLiteral text
  | (.stray, text) => { s with stray := s.stray <|> some s.pos, pos := s.pos + Text.byteSize text }

/-- Reads a text from its beginning to its end. -/
def run (cs : List Char) : Scan := ((Piece.cut cs).foldl step {}).flush

end Scan

/-- The tokens and the flaws of a text, in the order in which they are found. -/
def scan (text : String) : List Token × List Problem :=
  let s := Scan.run text.toList
  (s.tokens.reverse, s.problems.reverse)

/-- The tokens of a text as it stands. -/
def tokenize (text : String) : List Token := (scan text).1

/-! ### Streams -/

/-- How a text is read. `version` numbers the rules and must not be 0. -/
structure Options where
  version : Nat := 1
  normalizeUnicode : Bool := true
deriving BEq, DecidableEq, Inhabited, Repr

def Options.check (o : Options) : Except Problem Unit :=
  if o.version == 0 then .error (.invalidOptions "config version must be >= 1") else .ok ()

/-- A text that has been read. Places refer to `text`. -/
structure Stream where
  text : String
  tokens : List Token
  problems : List Problem
  version : Nat
deriving BEq, DecidableEq, Inhabited, Repr

namespace Stream

/-- The normalized texts of the tokens. -/
def values (s : Stream) : List String := s.tokens.map (·.text)

/-- What the tokens are hashed by. -/
def hashKeys (s : Stream) : List String :=
  let cs := s.text.toList
  Token.hashKeysFrom cs 0 cs s.tokens

end Stream

/-- The text that is read for a source: without a byte order mark, and in normal form if asked. -/
def sourceText (source : String) (normalize : Bool) : String :=
  let cs := match source.toList with
    | '\uFEFF' :: cs => cs
    | cs => cs
  .ofList (if normalize then Text.Compat.normalize cs else cs)

/-- Reads a source. -/
def lex (source : String) (o : Options) : Except Problem Stream := do
  o.check
  let text := sourceText source o.normalizeUnicode
  let (tokens, problems) := scan text
  return { text, tokens, problems, version := o.version }

end Likeness.Lex
