import Likeness.Grammar.Rule
import Std.Data.HashMap

/-!
# From rules to productions

A written grammar is brought into the form that a table is built from. Its leaves are numbered, each
repetition becomes a rule of its own, each rule becomes a list of productions, inlined rules are
put in place, and an alias that a symbol always has becomes a property of the symbol.
-/

namespace Likeness.Grammar

open Std (HashMap)

/-- A symbol while the grammar is being prepared. -/
inductive Sym where
  | terminal (i : Nat)
  | external (i : Nat)
  | rule (i : Nat)
deriving BEq, Hashable, DecidableEq, Inhabited

/-- How a symbol shows in a tree. -/
inductive Shape where
  | named
  | anonymous
  | hidden
  | helper
deriving BEq, DecidableEq, Inhabited

/-- A token of the grammar. -/
structure Terminal where
  name : String
  shape : Shape
  lexeme : Lexeme
  leaf : Leaf
  uses : Nat
deriving Inhabited

/-- A rule of the grammar, by its body. -/
structure Definition where
  name : String
  shape : Shape
  body : Rule Sym
deriving Inhabited

/-- The shape that a rule's name announces. -/
def shapeOf (name : String) : Shape := if name.startsWith "_" then .hidden else .named

/-! ### Numbering the leaves -/

/-- The number of a leaf in the table of tokens, which gains the leaf if it is new. -/
def internToken (owner : String) (leaf : Leaf) (l : Lexeme) (text : Option String)
    (tokens : Array Terminal) : Nat × Array Terminal :=
  match tokens.findIdx? (fun t => t.leaf == leaf) with
  | some i => (i, tokens.modify i fun t => { t with uses := t.uses + 1 })
  | none =>
    let entry : Terminal := match text with
      | some s => ⟨s, .anonymous, l, leaf, 1⟩
      | none => ⟨owner ++ "_token", .helper, l, leaf, 1⟩
    (tokens.size, tokens.push entry)

/-- The symbol of a name: a rule if there is one, else a token of the outer scanner. -/
def resolve (rules externals : HashMap String Nat) (name : String) : Sym :=
  match rules[name]? with
  | some i => .rule i
  | none => .external (externals.getD name 0)

/-- Numbers the leaves of one rule. -/
def numberLeaves (rules externals : HashMap String Nat) (owner : String) :
    Rule Leaf → Array Terminal → Rule Sym × Array Terminal
  | .blank, ts => (.blank, ts)
  | .leaf (.ref name), ts => (.leaf (resolve rules externals name), ts)
  | .leaf (.text s), ts =>
    let (i, ts) := internToken owner (.text s) ⟨.lit s, false, 0, 2⟩ (some s) ts
    (.leaf (.terminal i), ts)
  | .leaf (.token l), ts =>
    let (i, ts) := internToken owner (.token l) l none ts
    (.leaf (.terminal i), ts)
  | .seq a b, ts =>
    let (a, ts) := numberLeaves rules externals owner a ts
    let (b, ts) := numberLeaves rules externals owner b ts
    (.seq a b, ts)
  | .alt a b, ts =>
    let (a, ts) := numberLeaves rules externals owner a ts
    let (b, ts) := numberLeaves rules externals owner b ts
    (.alt a b, ts)
  | .many1 a, ts =>
    let (a, ts) := numberLeaves rules externals owner a ts
    (.many1 a, ts)
  | .mark m a, ts =>
    let (a, ts) := numberLeaves rules externals owner a ts
    (.mark m a, ts)

/-! ### Repetitions -/

/-- The rules that repetitions have become so far, found again by what they repeat. -/
structure Repeats where
  first : Nat
  known : HashMap (Rule Sym) Nat := {}
  added : Array Definition := #[]

/-- Replaces each repetition by a rule that is one item or two of its own kind. -/
def unrollRepeats (owner : String) : Rule Sym → Repeats → Rule Sym × Repeats
  | .seq a b, st =>
    let (a, st) := unrollRepeats owner a st
    let (b, st) := unrollRepeats owner b st
    (.seq a b, st)
  | .alt a b, st =>
    let (a, st) := unrollRepeats owner a st
    let (b, st) := unrollRepeats owner b st
    (.alt a b, st)
  | .mark m a, st =>
    let (a, st) := unrollRepeats owner a st
    (.mark m a, st)
  | .many1 a, st =>
    let (a, st) := unrollRepeats owner a st
    match st.known[a]? with
    | some i => (.leaf (.rule i), st)
    | none =>
      let i := st.first + st.added.size
      let self : Rule Sym := .leaf (.rule i)
      (self, { st with
        known := st.known.insert a i
        added := st.added.push ⟨owner ++ "_repeat", .helper, .alt (.seq self self) a⟩ })
  | r, st => (r, st)

/-! ### Productions -/

/-- One place of a production: a symbol and the marks that hold there. -/
structure Step (σ : Type) where
  sym : σ
  rank : Option Int
  side : Option Side
  alias? : Option Alias
  field : Option String
deriving BEq, Hashable, Inhabited

/-- One way to build a rule. -/
structure Production (σ : Type) where
  steps : List (Step σ)
  weight : Int
deriving BEq, Hashable, Inhabited

/-- The bodies without choice that a body with choices stands for. -/
def branches : Rule Sym → List (Rule Sym)
  | .seq a b => (branches a).flatMap fun x => (branches b).map (.seq x)
  | .alt a b => branches a ++ branches b
  | .mark m a => (branches a).map (.mark m)
  | r => [r]

/-- Gives the last of the steps read so far, which are kept in reverse, back the marks around it. -/
def restoreLast (inner outer : Mark) : List (Step Sym) → List (Step Sym)
  | [] => []
  | s :: ss =>
    let s := if inner.rank.isSome then { s with rank := outer.rank } else s
    let s := if inner.side.isSome then { s with side := outer.side } else s
    s :: ss

/-- The steps of a body without choice, in reverse, and the weight of greatest size. A mark ends
before the last step of a body that is not the end of the production. -/
def flatten (outer : Mark) (atEnd : Bool) : Rule Sym → List (Step Sym) × Int →
    List (Step Sym) × Int
  | .seq a b, acc => flatten outer atEnd b (flatten outer false a acc)
  | .leaf s, (steps, w) => (⟨s, outer.rank, outer.side, outer.alias?, outer.field⟩ :: steps, w)
  | .mark m a, (steps, w) =>
    let here : Mark := ⟨m.rank <|> outer.rank, m.side <|> outer.side, 0, m.alias? <|> outer.alias?,
      m.field <|> outer.field⟩
    let w := if m.weight.natAbs > w.natAbs then m.weight else w
    let (steps', w) := flatten here atEnd a (steps, w)
    if steps'.length > steps.length && !atEnd then (restoreLast m outer steps', w)
    else (steps', w)
  | _, acc => acc

/-- The production of a body without choice. -/
def Production.ofBody (r : Rule Sym) : Production Sym :=
  let (steps, w) := flatten {} true r ([], 0)
  ⟨steps.reverse, w⟩

/-- The productions of a rule, each once. -/
def productionsOf (body : Rule Sym) : List (Production Sym) :=
  ((branches body).foldl (fun acc r =>
    let p := Production.ofBody r
    if acc.contains p then acc else p :: acc) []).reverse

end Likeness.Grammar
