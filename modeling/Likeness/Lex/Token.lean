import Likeness.Text.Bytes

/-!
# Tokens

A token has a kind, a place in the text, and a normalized text: names, literals and misfit text are
replaced by a word for their class, all else stays as it is. Two texts that differ only in naming,
literal values, comments or layout have the same normalized tokens.
-/

namespace Likeness.Lex

/-- The lexical class of a token. -/
inductive Kind where
  | identifier
  | keyword
  | operator
  | punctuation
  | stringLiteral
  | numberLiteral
  /-- A stretch of text that is nothing else. -/
  | error
deriving BEq, DecidableEq, Inhabited, Repr

namespace Kind

def all : List Kind :=
  [identifier, keyword, operator, punctuation, stringLiteral, numberLiteral, error]

def name : Kind → String
  | identifier => "identifier"
  | keyword => "keyword"
  | operator => "operator"
  | punctuation => "punctuation"
  | stringLiteral => "string_literal"
  | numberLiteral => "number_literal"
  | error => "error"

/-- The kind of a name. -/
def ofName? (s : String) : Option Kind := all.find? (·.name == s)

/-- Whether the tokens of a kind are replaced by a word for it. -/
def isPlaceholder : Kind → Bool
  | identifier | stringLiteral | numberLiteral | error => true
  | keyword | operator | punctuation => false

def isLiteral : Kind → Bool
  | stringLiteral | numberLiteral => true
  | _ => false

/-- The normalized text of a token of a kind that is spelt as given. -/
def normalText (lexeme : String) : Kind → String
  | identifier => "ID"
  | stringLiteral => "STR"
  | numberLiteral => "NUM"
  | error => "ERR"
  | keyword | operator | punctuation => lexeme

end Kind

/-- A token, from byte `start` up to byte `stop` of the text. -/
structure Token where
  kind : Kind
  text : String
  start : Nat
  stop : Nat
deriving BEq, DecidableEq, Inhabited, Repr

namespace Token

/-- How a token is spelt in a text; nothing where the text does not have its place. -/
def lexemeIn (t : Token) (source : List Char) : List Char :=
  (Text.slice source t.start t.stop).getD []

def lexeme (t : Token) (source : String) : String := .ofList (t.lexemeIn source.toList)

/-- What a token that is spelt as given is hashed by: literals by their spelling, other tokens by
their normalized text. -/
def keyOf (t : Token) (lexeme : List Char) : String :=
  match t.kind.isLiteral, lexeme with
  | true, c :: cs => .ofList (c :: cs)
  | _, _ => t.text

def hashKeyIn (t : Token) (source : List Char) : String := t.keyOf (t.lexemeIn source)

def hashKey (t : Token) (source : String) : String := t.hashKeyIn source.toList

/-- What tokens are hashed by. The text is gone over once if the tokens are in order: `rest` is what
is left of `source` from byte `pos` on. -/
def hashKeysFrom (source : List Char) : (pos : Nat) → (rest : List Char) → List Token → List String
  | _, _, [] => []
  | pos, rest, t :: ts =>
    match if pos ≤ t.start then Text.dropBytes (t.start - pos) rest else none with
    | some rest =>
      t.keyOf ((Text.slice rest 0 (t.stop - t.start)).getD []) ::
        hashKeysFrom source t.start rest ts
    | none => t.hashKeyIn source :: hashKeysFrom source pos rest ts

def length (t : Token) : Nat := t.stop - t.start

def isEmpty (t : Token) : Bool := t.length == 0

end Token

/-- What can be wrong when a text is read: a place of the text, or the options. Flaws of the text
are noted beside its tokens and stop nothing. -/
inductive Problem where
  | unlexable (offset length : Nat)
  | unterminatedString (offset : Nat)
  | invalidOptions (reason : String)
deriving BEq, DecidableEq, Inhabited, Repr

def Problem.message : Problem → String
  | unlexable o n => s!"unlexable input at byte {o} ({n} bytes)"
  | unterminatedString o => s!"unterminated string literal starting at byte {o}"
  | invalidOptions r => s!"invalid lexer configuration: {r}"

end Likeness.Lex
