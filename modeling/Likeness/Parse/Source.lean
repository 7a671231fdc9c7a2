import Likeness.Grammar.Python
import Likeness.Parse.Cursor
import Likeness.Tree.Normal

/-!
# Syntax trees of sources

`syntaxTree` parses a source. A source with an error anywhere has no tree: the answer is the place
of the first error then. A tree that is too deep is refused as well. Lines and columns count from 1,
columns in bytes.
-/

namespace Likeness.Parse

open Likeness.Tree (SyntaxTree NormalTree)

/-! ### Errors -/

inductive Cause where
  | unexpectedSyntax
  | missing (expected : String)
  | tooDeep (limit : Nat)
  /-- There is no grammar to parse with. -/
  | language (reason : String)
  | noTree
  | invalidOptions (reason : String)
deriving BEq, DecidableEq, Inhabited, Repr

def Cause.message : Cause → String
  | unexpectedSyntax => "unexpected syntax"
  | missing e => s!"missing \x60{e}\x60"
  | tooDeep n => s!"nesting deeper than {n}"
  | language r => s!"grammar unavailable: {r}"
  | noTree => "parser produced no tree"
  | invalidOptions r => s!"invalid syntax configuration: {r}"

/-- Why a source has no tree, and where. -/
structure Error where
  line : Nat
  column : Nat
  cause : Cause
deriving BEq, DecidableEq, Inhabited, Repr

namespace Error

def message (e : Error) : String :=
  s!"parse error at line {e.line}, column {e.column}: {e.cause.message}"

def atStart (cause : Cause) : Error := ⟨1, 1, cause⟩

/-- An error where a node begins. -/
def at' (v : NodeView) (cause : Cause) : Error := ⟨v.row + 1, v.column + 1, cause⟩

end Error

/-- How deep a tree may be. `version` numbers the rules and must not be 0. -/
structure Options where
  version : Nat := 1
  maxDepth : Nat := 1000
deriving BEq, DecidableEq, Inhabited, Repr

def Options.check (o : Options) : Except Error Unit :=
  if o.version == 0 then .error (.atStart (.invalidOptions "config version must be >= 1"))
  else if o.maxDepth == 0 then .error (.atStart (.invalidOptions "max_depth must be >= 1"))
  else .ok ()

/-! ### Lowering -/

mutual

/-- Turns the tree below a cursor into a syntax tree; the cursor comes back to where it was. A node
at depth `limit` is an error. -/
def lowerNode (limit : Nat) : (fuel depth : Nat) → Cursor → Except Error (SyntaxTree × Cursor)
  | 0, _, c => .ok (.node c.view.kind c.view.field c.view.named [], c)
  | fuel + 1, depth, c =>
    if limit ≤ depth then .error (.at' c.view (.tooDeep limit))
    else match c.firstChild? with
      | none => .ok (.node c.view.kind c.view.field c.view.named [], c)
      | some child => do
        let (children, last) ← lowerSiblings limit fuel (depth + 1) child
        return (.node c.view.kind c.view.field c.view.named children, (last.parent?).getD last)

/-- Turns the tree below a cursor and those of the siblings after it into syntax trees; the cursor
comes to the last sibling. -/
def lowerSiblings (limit : Nat) : (fuel depth : Nat) → Cursor →
    Except Error (List SyntaxTree × Cursor)
  | 0, _, c => .ok ([], c)
  | fuel + 1, depth, c => do
    let (t, c) ← lowerNode limit fuel depth c
    match c.nextSibling? with
    | none => return ([t], c)
    | some next =>
      let (ts, last) ← lowerSiblings limit fuel depth next
      return (t :: ts, last)

end

/-- The syntax tree of a concrete tree, if it is not deeper than `limit`. -/
def lower (limit : Nat) (t : ConcreteTree) : Except Error SyntaxTree :=
  (lowerNode limit (2 * t.size + 1) 0 (.ofTree t)).map (·.1)

/-! ### The first error -/

mutual

/-- The first node from a cursor on that is an error or missing. Nodes without an error below them
are passed over. -/
def firstErrorFrom : (fuel : Nat) → Cursor → Option NodeView
  | 0, _ => none
  | fuel + 1, c =>
    if c.view.error || c.view.missing then some c.view
    else match if c.view.broken then c.firstChild? else none with
      | some child => firstErrorFrom fuel child
      | none => firstErrorAfter fuel c

/-- The first such node behind the tree below a cursor. -/
def firstErrorAfter : (fuel : Nat) → Cursor → Option NodeView
  | 0, _ => none
  | fuel + 1, c =>
    match c.nextSibling? with
    | some next => firstErrorFrom fuel next
    | none => match c.parent? with
      | some parent => firstErrorAfter fuel parent
      | none => none

end

/-- The first node of a tree, in the order of the text, that is an error or missing. -/
def firstError (t : ConcreteTree) : Option NodeView :=
  firstErrorFrom (4 * t.size + 4) (.ofTree t)

/-- The error that a tree with an error in it shows first. -/
def describeError (t : ConcreteTree) : Error :=
  match firstError t with
  | some v => .at' v (if v.missing then .missing v.kind else .unexpectedSyntax)
  | none => .atStart .unexpectedSyntax

/-- The syntax tree of a concrete tree without errors. -/
def syntaxTreeOf (limit : Nat) (t : ConcreteTree) : Except Error SyntaxTree :=
  if t.view.broken then .error (describeError t) else lower limit t

/-! ### Sources -/

/-- The table of the grammar that sources are parsed by. -/
def table : Grammar.Table := .ofSource Grammar.Python.source

/-- The syntax tree of a source. -/
def syntaxTree (source : String) (o : Options) : Except Error SyntaxTree := do
  o.check
  syntaxTreeOf o.maxDepth (.ofText table source)

/-- The normalized tree of a source. -/
def normalTree (source : String) (o : Options) : Except Error NormalTree :=
  (syntaxTree source o).map Tree.normalize

end Likeness.Parse
