import Likeness.Text.CharSet

/-!
# Grammar rules

A grammar is a list of named rules. A rule is built from leaves by sequence, choice and repetition,
and carries marks: a precedence, an associativity, an alias or a field name. The leaves of a written
grammar are references, literal texts and lexemes; once its tokens are numbered they are symbols.
-/

namespace Likeness.Grammar

open Likeness.Text (CharSet)

/-- The side to which a rule groups when it meets itself at equal precedence. -/
inductive Side where
  | left
  | right
deriving BEq, Hashable, DecidableEq, Inhabited

/-- Another name under which a symbol appears in a tree, and whether it is a named node there. -/
structure Alias where
  name : String
  named : Bool
deriving BEq, Hashable, Inhabited

/-- A regular expression over characters. -/
inductive Pattern where
  | empty
  | chars (s : CharSet)
  | seq (a b : Pattern)
  | alt (a b : Pattern)
  | many1 (a : Pattern)
deriving BEq, Hashable, Inhabited

namespace Pattern

def ofList : List Char → Pattern
  | [] => .empty
  | [c] => .chars (.single c)
  | c :: cs => .seq (.chars (.single c)) (ofList cs)

/-- Exactly the given text. -/
def lit (s : String) : Pattern := ofList s.toList

def opt (a : Pattern) : Pattern := .alt a .empty
def many (a : Pattern) : Pattern := .alt (.many1 a) .empty

/-- `n` copies in a row. -/
def times (a : Pattern) : Nat → Pattern
  | 0 => .empty
  | 1 => a
  | n + 1 => .seq a (times a n)

def oneOf (s : String) : Pattern := .chars (.ofString s)

def seqs : List Pattern → Pattern
  | [] => .empty
  | [a] => a
  | a :: as => .seq a (seqs as)

def alts : List Pattern → Pattern
  | [] => .empty
  | [a] => a
  | a :: as => .alt a (alts as)

end Pattern

/-- What a token of the grammar reads.

`immediate` tokens allow no blank before them. Of two tokens that read the same text the one of
higher `rank` wins, then the one of higher `standing`, then the earlier one. -/
structure Lexeme where
  pattern : Pattern
  immediate : Bool
  rank : Int
  standing : Nat
deriving BEq, Hashable, Inhabited

/-- The marks that a rule can carry. -/
structure Mark where
  rank : Option Int := none
  side : Option Side := none
  weight : Int := 0
  alias? : Option Alias := none
  field : Option String := none
deriving BEq, Hashable, Inhabited

/-- A rule over leaves `α`. -/
inductive Rule (α : Type) where
  | blank
  | leaf (a : α)
  | seq (a b : Rule α)
  | alt (a b : Rule α)
  | many1 (a : Rule α)
  | mark (m : Mark) (a : Rule α)
deriving BEq, Hashable, Inhabited

/-- A leaf of a written grammar. -/
inductive Leaf where
  | ref (name : String)
  | text (s : String)
  | token (l : Lexeme)
deriving BEq, Hashable, Inhabited

namespace Rule

variable {α β : Type}

/-- Replaces every leaf by a rule. -/
def bind (f : α → Rule β) : Rule α → Rule β
  | blank => .blank
  | leaf a => f a
  | seq a b => .seq (a.bind f) (b.bind f)
  | alt a b => .alt (a.bind f) (b.bind f)
  | many1 a => .many1 (a.bind f)
  | mark m a => .mark m (a.bind f)

def opt (a : Rule α) : Rule α := .alt a .blank
def many (a : Rule α) : Rule α := .alt (.many1 a) .blank

def seqs : List (Rule α) → Rule α
  | [] => .blank
  | [a] => a
  | a :: as => .seq a (seqs as)

def alts : List (Rule α) → Rule α
  | [] => .blank
  | [a] => a
  | a :: as => .alt a (alts as)

/-- The rule itself, with a higher or lower precedence. -/
def ranked (n : Int) (a : Rule α) : Rule α := .mark { rank := some n } a

def leftward (n : Int) (a : Rule α) : Rule α := .mark { rank := some n, side := some .left } a
def rightward (n : Int) (a : Rule α) : Rule α := .mark { rank := some n, side := some .right } a

/-- Prefers or avoids the rule where a text has several readings. -/
def weighted (n : Int) (a : Rule α) : Rule α := .mark { weight := n } a

def named (name : String) (a : Rule α) : Rule α := .mark { alias? := some ⟨name, true⟩ } a
def shownAs (name : String) (a : Rule α) : Rule α := .mark { alias? := some ⟨name, false⟩ } a
def field (name : String) (a : Rule α) : Rule α := .mark { field := some name } a

end Rule

/-- A written grammar.

`supertypes` and rules whose names start with an underscore make no node of their own; `inlined`
rules are replaced by their bodies; `extras` may stand anywhere; `separators` are the blanks between
tokens. `externals` are the tokens that a scanner of its own reads, and `word` is the token whose
texts the keywords are taken from. -/
structure Source where
  rules : List (String × Rule Leaf)
  extras : List String
  separators : Pattern
  externals : List Leaf
  supertypes : List String
  inlined : List String
  word : String

end Likeness.Grammar
