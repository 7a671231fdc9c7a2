import Likeness.Grammar.Production

/-!
# Prepared grammars

A prepared grammar has numbers for symbols and nothing but productions for rules. The symbols are
numbered so that the end of the text is first, the word token second, then the other tokens in the
order in which the grammar mentions them, then the tokens of the outer scanner, then the rules.
-/

namespace Likeness.Grammar

open Std (HashMap)

/-! ### Aliases that a symbol always has -/

/-- How a symbol is used: its aliases with their counts, and whether it also stands bare. -/
structure Usage where
  aliases : List (Alias × Nat) := []
  bare : Bool := false
deriving Inhabited

def Usage.add (u : Usage) : Option Alias → Usage
  | none => { u with bare := true }
  | some a =>
    if u.aliases.any (·.1 == a) then
      { u with aliases := u.aliases.map fun (b, n) => if b == a then (b, n + 1) else (b, n) }
    else { u with aliases := u.aliases ++ [(a, 1)] }

/-- The most frequent alias of a symbol that never stands bare; of equals the first. -/
def Usage.constant? (u : Usage) : Option Alias :=
  if u.bare then none
  else (u.aliases.foldl (fun best a =>
    match best with
    | none => some a
    | some b => if b.2 < a.2 then some a else some b) (none : Option (Alias × Nat))).map (·.1)

abbrev Productions (σ : Type) := List (Production σ)

/-- The constant alias of each symbol that has one. -/
def constantAliases (rules : Array (Productions Sym)) (inlined extras : List Sym) :
    HashMap Sym Alias :=
  let uses : HashMap Sym Usage := rules.foldl (fun m ps => ps.foldl (fun m p =>
    p.steps.foldl (fun m s =>
      if inlined.contains s.sym then m else m.insert s.sym ((m.getD s.sym {}).add s.alias?)) m) m)
    {}
  let uses := extras.foldl (fun m s => m.insert s ((m.getD s {}).add none)) uses
  uses.fold (fun m s u => match u.constant? with
    | some a => m.insert s a
    | none => m) {}

/-- Whether a rule needs the alias at place `i` for another production than `p`. -/
def aliasNeeded (constant : HashMap Sym Alias) (ps : Productions Sym) (p : Production Sym)
    (i : Nat) (a : Alias) : Bool :=
  ps.any fun q => q != p && match q.steps[i]? with
    | some s => s.alias? == some a && constant[s.sym]? != some a
    | none => false

/-- Drops each alias that its symbol always has. -/
def dropConstantAliases (constant : HashMap Sym Alias) (ps : Productions Sym) :
    Productions Sym :=
  ps.map fun p => { p with
    steps := p.steps.zipIdx.map fun (s, i) => match s.alias? with
      | none => s
      | some a =>
        if constant[s.sym]? == some a && !aliasNeeded constant ps p i a
        then { s with alias? := none } else s }

/-! ### Inlining -/

/-- The steps of an inlined production in the place of step `s`: they take over its alias and its
field, and the last of them the precedence that it lacks. -/
def Step.replacedBy (s : Step Sym) (steps : List (Step Sym)) : List (Step Sym) :=
  steps.zipIdx.map fun (t, i) =>
    let t := { t with alias? := s.alias? <|> t.alias?, field := s.field <|> t.field }
    if i + 1 == steps.length then { t with rank := t.rank <|> s.rank, side := t.side <|> s.side }
    else t

/-- All productions that arise from one by inlining; `depth` bounds the nesting of inlined
rules. -/
def inlineProduction (rules : Array (Productions Sym)) (inlined : List Sym) :
    (depth : Nat) → Production Sym → Productions Sym
  | 0, p => [p]
  | depth + 1, p =>
    p.steps.foldl (fun acc s =>
      let options : List (List (Step Sym) × Int) :=
        match s.sym, inlined.contains s.sym with
        | .rule i, true =>
          (rules.getD i []).flatMap fun q =>
            (inlineProduction rules inlined depth q).map fun q => (s.replacedBy q.steps, q.weight)
        | _, _ => [([s], 0)]
      acc.flatMap fun a => options.map fun (steps, w) =>
        ⟨a.steps ++ steps, if w.natAbs > a.weight.natAbs then w else a.weight⟩)
      [⟨[], p.weight⟩]

/-! ### The prepared grammar -/

/-- How a symbol shows in a tree. -/
structure SymbolInfo where
  name : String
  visible : Bool
  named : Bool
deriving Inhabited

/-- A rule of a prepared grammar. `fields` are the field names that stand in the rule, also inside
hidden rules of it. -/
structure RuleInfo where
  productions : Array (Production Nat)
  hidden : Bool
  helper : Bool
  supertype : Bool
  fields : List String
deriving Inhabited

/-- A grammar whose symbols are numbers: tokens below `tokenCount`, then the rules. -/
structure Prepared where
  symbols : Array SymbolInfo
  tokenCount : Nat
  rules : Array RuleInfo
  /-- The tokens that the grammar's own patterns read, in the order of their mention. -/
  lexemes : Array (Nat × Lexeme)
  separators : Pattern
  /-- The tokens that the outer scanner reads, in its order. -/
  outer : Array Nat
  /-- Whether a token of the outer scanner is also read by a pattern, for each of them. -/
  shared : Array Bool
  extras : List Nat
  word : Nat
deriving Inhabited

namespace Prepared

def ruleIndex? (g : Prepared) (s : Nat) : Option Nat :=
  if s < g.tokenCount then none else some (s - g.tokenCount)

def isToken (g : Prepared) (s : Nat) : Bool := s < g.tokenCount

end Prepared

/-- The field names of each rule, from those known so far. -/
def collectFields (rules : Array (Productions Sym)) (hidden : Nat → Bool)
    (known : Array (List String)) : Array (List String) :=
  rules.map fun ps => (ps.foldl (fun acc p => p.steps.foldl (fun acc s =>
    let own := s.field.toList
    let inner := match s.sym with
      | .rule i => if hidden i then known.getD i [] else []
      | _ => []
    (own ++ inner).foldl (fun acc f => if acc.contains f then acc else f :: acc) acc) acc)
    []).mergeSort

/-- `n` rounds of `f`. -/
def iterate {α : Type} (f : α → α) : Nat → α → α
  | 0, a => a
  | n + 1, a => iterate f n (f a)

def Leaf.name : Leaf → String
  | .ref s => s
  | .text s => s
  | .token _ => ""

/-- Prepares a written grammar. -/
def Source.prepare (src : Source) : Prepared :=
  let ruleIds : HashMap String Nat := .ofList (src.rules.map (·.1)).zipIdx
  let outerIds : HashMap String Nat := .ofList (src.externals.map (·.name)).zipIdx
  -- number the leaves of the rules, then of the outer tokens
  let (bodies, tokens) := src.rules.foldl
    (fun (acc : Array (Rule Sym) × Array Terminal) (name, r) =>
      let (b, ts) := numberLeaves ruleIds outerIds name r acc.2
      (acc.1.push b, ts)) (#[], #[])
  let (outers, tokens) := src.externals.foldl
    (fun (acc : Array (Rule Sym) × Array Terminal) leaf =>
      let (b, ts) := numberLeaves ruleIds outerIds leaf.name (.leaf leaf) acc.2
      (acc.1.push b, ts)) (#[], tokens)
  -- a rule that is one token, used nowhere else, gives the token its name and goes away
  let single? (i : Nat) : Option Nat :=
    match bodies.getD i .blank with
    | .leaf (.terminal t) => if 0 < i && (tokens.getD t default).uses == 1 then some t else none
    | _ => none
  let names := (src.rules.map (·.1)).toArray
  let kept := (List.range bodies.size).filter fun i => (single? i).isNone
  let newIndex : HashMap Nat Nat := .ofList kept.zipIdx
  let tokens := (List.range bodies.size).foldl (fun ts i => match single? i with
    | some t => ts.modify t fun e =>
      { e with name := names.getD i "", shape := shapeOf (names.getD i "") }
    | none => ts) tokens
  let rename : Sym → Sym
    | .rule i => match single? i with
      | some t => .terminal t
      | none => .rule (newIndex.getD i 0)
    | s => s
  let byName (name : String) : Sym := rename (resolve ruleIds outerIds name)
  let definitions : Array Definition := (kept.map fun i =>
    let name := names.getD i ""
    let shape := if src.supertypes.contains name then .hidden else shapeOf name
    ⟨name, shape, (bodies.getD i .blank).bind fun s => .leaf (rename s)⟩).toArray
  -- repetitions
  let (definitions, repeats) := definitions.foldl
    (fun (acc : Array Definition × Repeats) d =>
      let (b, st) := unrollRepeats d.name d.body acc.2
      (acc.1.push { d with body := b }, st)) (#[], { first := kept.length })
  let definitions := definitions ++ repeats.added
  -- productions
  let rules := definitions.map fun d => productionsOf d.body
  let inlined := src.inlined.map byName
  let extras := src.extras.map byName
  let constant := constantAliases rules inlined extras
  let rules := rules.map (dropConstantAliases constant)
  let rules := rules.mapIdx fun i ps =>
    if inlined.contains (.rule i) then [] else
      (ps.flatMap (inlineProduction rules inlined 4)).foldl
        (fun acc p => if acc.contains p then acc else acc ++ [p]) []
  let hidden (i : Nat) : Bool := (definitions.getD i default).shape != .named
  let fields := iterate (collectFields rules hidden) 8 (rules.map fun _ => [])
  -- numbers
  let word := match byName src.word with
    | .terminal i => i
    | _ => 0
  let order := word :: (List.range tokens.size).filter (· != word)
  let terminalId : HashMap Nat Nat := .ofList (order.zipIdx.map fun (t, k) => (t, k + 1))
  let outerSym (i : Nat) : Sym := match outers.getD i .blank with
    | .leaf s => rename s
    | _ => .external i
  let alone := (List.range outers.size).filter fun i => outerSym i == .external i
  let outerId : HashMap Nat Nat := .ofList
    (alone.zipIdx.map fun (i, k) => (i, tokens.size + 1 + k))
  let tokenCount := tokens.size + 1 + alone.length
  let number : Sym → Nat
    | .terminal t => terminalId.getD t 0
    | .external i => outerId.getD i 0
    | .rule i => tokenCount + i
  let show' (s : Sym) (name : String) (shape : Shape) : SymbolInfo :=
    match constant[s]? with
    | some a => ⟨a.name, true, a.named⟩
    | none => ⟨name, shape == .named || shape == .anonymous, shape == .named⟩
  let tokenInfo := order.map fun t =>
    let e := tokens.getD t default
    show' (.terminal t) e.name e.shape
  let outerInfo := alone.map fun i =>
    let name := (src.externals.getD i (.ref "")).name
    show' (.external i) name (shapeOf name)
  let ruleInfo := definitions.toList.zipIdx.map fun (d, i) => show' (.rule i) d.name d.shape
  { symbols := (⟨"end", false, true⟩ :: tokenInfo ++ outerInfo ++ ruleInfo).toArray
    tokenCount
    rules := (definitions.toList.zipIdx.map fun (d, i) =>
      { productions := ((rules.getD i []).map fun p => ⟨p.steps.map fun s =>
          ⟨number s.sym, s.rank, s.side, s.alias?, s.field⟩, p.weight⟩).toArray
        hidden := d.shape != .named
        helper := d.shape == .helper
        supertype := src.supertypes.contains d.name
        fields := fields.getD i [] : RuleInfo }).toArray
    lexemes := (tokens.toList.zipIdx.map fun (e, t) => (number (.terminal t), e.lexeme)).toArray
    separators := src.separators
    outer := ((List.range outers.size).map fun i => number (outerSym i)).toArray
    shared := ((List.range outers.size).map fun i => outerSym i != .external i).toArray
    extras := extras.map number
    word := number (.terminal word) }

end Likeness.Grammar
