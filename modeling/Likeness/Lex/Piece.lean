import Likeness.Lex.Token
import Likeness.Text.Letters

/-!
# Cutting a text into pieces

A text is cut from left to right into pieces: blanks, comments, tokens, and characters that begin
nothing. `Piece.next` finds the piece at the beginning of a text that is not empty; each piece takes
as much as its kind allows, and at least one character. Put together again, the pieces are the text.
-/

namespace Likeness.Lex

open Likeness.Text (isAlphabetic isNumeric isBlank)

/-- What a piece of text is. A string literal is closed or not. -/
inductive Piece where
  /-- Layout: a blank character, a joined line, or a comment. -/
  | layout
  | token (kind : Kind)
  | string (closed : Bool)
  /-- A character that begins nothing. -/
  | stray
deriving BEq, DecidableEq, Inhabited, Repr

/-! ### Names -/

def isNameStart (c : Char) : Bool := c == '_' || isAlphabetic c

def isNamePart (c : Char) : Bool := c == '_' || isAlphabetic c || isNumeric c

def keywords : List String := [
  "False", "None", "True", "and", "as", "assert", "async", "await", "break", "class",
  "continue", "def", "del", "elif", "else", "except", "finally", "for", "from", "global",
  "if", "import", "in", "is", "lambda", "nonlocal", "not", "or", "pass", "raise", "return",
  "try", "while", "with", "yield"]

/-- The kind of a word. -/
def wordKind (word : List Char) : Kind :=
  if keywords.any (·.toList == word) then .keyword else .identifier

/-! ### Numbers -/

def isDigitPart (c : Char) : Bool := c.isDigit || c == '_'

def isHexPart (c : Char) : Bool :=
  c.isDigit || ('a' ≤ c && c ≤ 'f') || ('A' ≤ c && c ≤ 'F') || c == '_'

/-- The letter after a zero that begins a number of another base. -/
def isBaseLetter (c : Char) : Bool := ['x', 'X', 'o', 'O', 'b', 'B'].contains c

/-- An exponent at the beginning of a text, if a digit follows its sign. -/
def splitExponent : List Char → List Char × List Char
  | e :: cs =>
    if e == 'e' || e == 'E' then
      let (sign, ds) := match cs with
        | '+' :: ds => (['+'], ds)
        | '-' :: ds => (['-'], ds)
        | ds => ([], ds)
      match ds with
      | d :: _ =>
        if d.isDigit then
          let (digits, rest) := ds.span isDigitPart
          (e :: sign ++ digits, rest)
        else ([], e :: cs)
      | [] => ([], e :: cs)
    else ([], e :: cs)
  | [] => ([], [])

/-- A point and the digits behind it. -/
def splitFraction : List Char → List Char × List Char
  | '.' :: cs =>
    let (digits, rest) := cs.span isDigitPart
    ('.' :: digits, rest)
  | cs => ([], cs)

/-- Digits, a fraction and an exponent, each of which may be missing. -/
def splitDecimal (cs : List Char) : List Char × List Char :=
  let (whole, rest) := cs.span isDigitPart
  let (fraction, rest) := splitFraction rest
  let (exponent, rest) := splitExponent rest
  (whole ++ fraction ++ exponent, rest)

/-- The digits of a number, after a base letter those of any base. -/
def splitDigits : List Char → List Char × List Char
  | '0' :: x :: cs =>
    if isBaseLetter x then
      let (digits, rest) := cs.span isHexPart
      ('0' :: x :: digits, rest)
    else splitDecimal ('0' :: x :: cs)
  | cs => splitDecimal cs

/-- A number, with the letter of an imaginary one. -/
def splitNumber (cs : List Char) : List Char × List Char :=
  match splitDigits cs with
  | (digits, j :: rest) =>
    if j == 'j' || j == 'J' then (digits ++ [j], rest) else (digits, j :: rest)
  | (digits, []) => (digits, [])

/-- Whether a number begins here: with a digit, or with a point before one. -/
def startsNumber : List Char → Bool
  | '.' :: d :: _ => d.isDigit
  | c :: _ => c.isDigit
  | [] => false

/-! ### Strings -/

def isQuote (c : Char) : Bool := c == '\'' || c == '"'

/-- The letters that may stand before a quote. -/
def isPrefixLetter (c : Char) : Bool := ['r', 'R', 'b', 'B', 'u', 'U', 'f', 'F'].contains c

/-- The groups of letters that may stand before a quote, in small letters. -/
def stringPrefixes : List (List Char) :=
  [[], ['r'], ['u'], ['b'], ['f'], ['b', 'r'], ['r', 'b'], ['f', 'r'], ['r', 'f']]

/-- The letters before the quote at the beginning of a string literal, the quote, and what follows
it. -/
def splitPrefix (cs : List Char) : Option (List Char × Char × List Char) :=
  let letters := (cs.take 2).takeWhile isPrefixLetter
  match cs.drop letters.length with
  | q :: rest =>
    if isQuote q && stringPrefixes.contains (letters.map Char.toLower) then some (letters, q, rest)
    else none
  | [] => none

/-- Whether a text begins with two quotes. -/
def startsDouble (q : Char) : List Char → Bool
  | a :: b :: _ => a == q && b == q
  | _ => false

/-- The inside of a string up to and with the quotes that close it, whether there are any, and the
rest. A backslash keeps the next character from counting. A string in single quotes ends before the
end of the line. -/
def splitBody (q : Char) (triple : Bool) : List Char → List Char × Bool × List Char
  | [] => ([], false, [])
  | '\\' :: c :: cs =>
    let (body, closed, rest) := splitBody q triple cs
    ('\\' :: c :: body, closed, rest)
  | c :: cs =>
    if triple then
      if c == q && startsDouble q cs then ([q, q, q], true, cs.drop 2)
      else
        let (body, closed, rest) := splitBody q triple cs
        (c :: body, closed, rest)
    else if c == q then ([q], true, cs)
    else if c == '\n' then ([], false, c :: cs)
    else
      let (body, closed, rest) := splitBody q triple cs
      (c :: body, closed, rest)

/-- What follows the opening quote of a string literal: the literal's rest, whether it is closed,
and what follows it. -/
def splitString (q : Char) (cs : List Char) : List Char × Bool × List Char :=
  if startsDouble q cs then
    let (body, closed, rest) := splitBody q true (cs.drop 2)
    (q :: q :: body, closed, rest)
  else splitBody q false cs

/-! ### Operators and punctuation -/

/-- The symbols, the longer ones first. -/
def symbols : List (String × Kind) := [
  ("**=", .operator), ("//=", .operator), (">>=", .operator), ("<<=", .operator),
  ("...", .punctuation), ("->", .operator), (":=", .operator), ("**", .operator),
  ("//", .operator), ("<<", .operator), (">>", .operator), ("<=", .operator),
  (">=", .operator), ("==", .operator), ("!=", .operator), ("+=", .operator),
  ("-=", .operator), ("*=", .operator), ("/=", .operator), ("%=", .operator),
  ("&=", .operator), ("|=", .operator), ("^=", .operator), ("@=", .operator),
  ("+", .operator), ("-", .operator), ("*", .operator), ("/", .operator),
  ("%", .operator), ("@", .operator), ("&", .operator), ("|", .operator),
  ("^", .operator), ("~", .operator), ("<", .operator), (">", .operator),
  ("=", .operator), ("(", .punctuation), (")", .punctuation), ("[", .punctuation),
  ("]", .punctuation), ("\x7b", .punctuation), ("\x7d", .punctuation), (",", .punctuation),
  (":", .punctuation), (";", .punctuation), (".", .punctuation)]

/-- The longest symbol at the beginning of a text. -/
def splitSymbol (cs : List Char) : Option (Kind × List Char × List Char) :=
  (symbols.find? fun (s, _) => s.toList.isPrefixOf cs).map fun (s, k) =>
    (k, s.toList, cs.drop s.length)

/-! ### Layout -/

/-- A backslash at the end of a line, with the line end. -/
def splitJoin : List Char → Option (List Char × List Char)
  | '\\' :: '\n' :: cs => some (['\\', '\n'], cs)
  | '\\' :: '\r' :: '\n' :: cs => some (['\\', '\r', '\n'], cs)
  | _ => none

/-! ### Pieces -/

namespace Piece

/-- The piece at the beginning of a text, its characters, and the rest. -/
def next (c : Char) (cs : List Char) : Piece × List Char × List Char :=
  if isBlank c then (layout, [c], cs)
  else match splitJoin (c :: cs) with
  | some (join, rest) => (layout, join, rest)
  | none =>
    if c == '#' then
      let (comment, rest) := cs.span (· != '\n')
      (layout, c :: comment, rest)
    else match splitPrefix (c :: cs) with
    | some (letters, q, rest) =>
      let (body, closed, rest) := splitString q rest
      (string closed, letters ++ q :: body, rest)
    | none =>
      if isNameStart c then
        let (word, rest) := cs.span isNamePart
        (token (wordKind (c :: word)), c :: word, rest)
      else if startsNumber (c :: cs) then
        let (number, rest) := splitNumber (c :: cs)
        (token .numberLiteral, number, rest)
      else match splitSymbol (c :: cs) with
      | some (kind, symbol, rest) => (token kind, symbol, rest)
      | none => (stray, [c], cs)

/-- Cuts a text into its pieces. `fuel` bounds their number. -/
def cutWith : (fuel : Nat) → List Char → List (Piece × List Char)
  | fuel + 1, c :: cs =>
    let (piece, text, rest) := next c cs
    (piece, text) :: cutWith fuel rest
  | _, _ => []

/-- The pieces of a text. -/
def cut (cs : List Char) : List (Piece × List Char) := cutWith cs.length cs

end Piece
end Likeness.Lex
