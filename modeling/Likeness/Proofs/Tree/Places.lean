import Mathlib.Data.List.Basic
import Mathlib.Tactic.Common
import Likeness.Tree.Normal

/-!
# The nodes of a syntax tree in their places

What a node is normalized to depends on the nodes above it, by way of a scope that is handed down.  Here that is told
without the scope, by the path from the node up to the root.

* `SyntaxTree.places` : the nodes below the root in document order, each with the nodes above it;
* `Place.InParameters` : whether a name declares a parameter, by its path; `declaredIn_iff` : the flag that is handed
  down says just that;
* `Place.label` and `Place.Survives` : what a node becomes and whether it stays, by its path; `fateOf_scope` : they are
  what becomes of it;
* `normalAt_node` and `normalize_node` : normalizing by places, one node at a time.
-/

namespace Likeness.Tree

/-- A node of a syntax tree, without its children. -/
structure Node where
  kind : String
  field : Option String
  named : Bool
deriving DecidableEq, Repr

/-- The node at the top of a tree. -/
def SyntaxTree.top (t : SyntaxTree) : Node := ⟨t.kind, t.field, t.named⟩

/-! ### Kinds of nodes -/

def parameterKinds : List String := ["parameters", "lambda_parameters"]

def defaultKinds : List String := ["default_parameter", "typed_parameter", "typed_default_parameter"]

def patternKinds : List String := ["list_splat_pattern", "dictionary_splat_pattern", "tuple_pattern"]

namespace Node

variable (a : Node)

def IsComment : Prop := a.kind = "comment"

def IsParentheses : Prop := a.kind = "parenthesized_expression"

/-- An identifier, also one that is spelt like a keyword. -/
def IsName : Prop := a.kind = "identifier" ∨ a.kind = "keyword_identifier"

def IsLiteral : Prop := (literalType? a.kind).isSome

/-- Whether the nodes below a node stay in the tree. Comments, names and literals lose their children, and so do
tokens. -/
def Opens : Prop := ¬a.IsComment ∧ ¬a.IsName ∧ ¬a.IsLiteral ∧ (a.IsParentheses ∨ a.named = true)

/-- Whether a node among declared parameters passes this on to a child with the given field. -/
def Passes (field : Option String) : Prop :=
  a.kind ∈ patternKinds ∨ a.kind ∈ defaultKinds ∧ field ≠ some "value" ∧ field ≠ some "type"

instance : Decidable a.IsComment := inferInstanceAs (Decidable (_ = _))
instance : Decidable a.IsParentheses := inferInstanceAs (Decidable (_ = _))
instance : Decidable a.IsName := inferInstanceAs (Decidable (_ ∨ _))
instance : Decidable a.IsLiteral := inferInstanceAs (Decidable (_ = true))
instance : Decidable a.Opens := inferInstanceAs (Decidable (_ ∧ _ ∧ _ ∧ (_ ∨ _)))

end Node

/-- Whether a child declares parameters, by the node above it: lists of parameters begin this, and some nodes pass it
on. -/
theorem declares_iff (a : Node) (field : Option String) (inherited : Bool) :
    declares a.kind field inherited = true ↔ a.kind ∈ parameterKinds ∨ a.Passes field ∧ inherited = true := by
  unfold declares Node.Passes parameterKinds defaultKinds patternKinds
  split
  · simp_all
  · split
    · rename_i hdefault
      have hpattern : a.kind ∉ ["list_splat_pattern", "dictionary_splat_pattern", "tuple_pattern"] := by
        simp only [List.contains_eq_mem, List.mem_cons, List.not_mem_nil, or_false, decide_eq_true_eq] at hdefault
        rcases hdefault with h | h | h <;> rw [h] <;> decide
      simp_all
      tauto
    · split <;> simp_all

theorem declares_parentheses (field : Option String) (inherited : Bool) :
    declares "parenthesized_expression" field inherited = false := rfl

/-! ### Places -/

/-- A node and the way up from it. -/
structure Place where
  node : Node
  /-- The nodes above it but for the root, the nearest first. -/
  above : List Node
  root : Node
deriving DecidableEq, Repr

namespace SyntaxTree

mutual
/-- The nodes of a tree in document order, each in its place. -/
def placesFrom (above : List Node) (root : Node) : SyntaxTree → List Place
  | .node kind field named children =>
    ⟨⟨kind, field, named⟩, above, root⟩ :: placesAll (⟨kind, field, named⟩ :: above) root children

def placesAll (above : List Node) (root : Node) : List SyntaxTree → List Place
  | [] => []
  | t :: ts => placesFrom above root t ++ placesAll above root ts
end

/-- The nodes below the root of a tree in document order. -/
def places (t : SyntaxTree) : List Place := placesAll [] t.top t.children

end SyntaxTree

/-- The parts that a name can play in its parent, and what it is used for there. -/
def nameParts : List ((String × Option String) × Role) :=
  [(("function_definition", some "name"), .functionName), (("class_definition", some "name"), .className),
    (("attribute", some "attribute"), .attributeName), (("keyword_argument", some "name"), .keywordName)]

theorem roleOf_eq (field : Option String) (scope : Scope) :
    roleOf field scope = (nameParts.lookup (scope.parent, field)).getD
      (if scope.inParameters = true then .parameter else .variableName) := by
  unfold roleOf nameParts
  simp only [List.lookup_cons, List.lookup_nil]
  repeat' split
  all_goals simp_all

/-- Whether parameters are declared below the given nodes, for a child with the given field. -/
def declaredIn : List Node → Option String → Bool
  | [], _ => false
  | a :: above, field => declares a.kind field (declaredIn above a.field)

namespace Place

variable (p : Place)

def parent : Node := p.above.headD p.root

/-- Whether a node declares parameters: it stands below a list of parameters other than the root, and all that is
in between passes this on to the next node down. -/
def InParameters : Prop :=
  ∃ inner list outer, p.above = inner ++ list :: outer ∧ list.kind ∈ parameterKinds ∧
    ∀ step ∈ inner.zip (p.node :: inner), step.1.Passes step.2.field

theorem inParameters_cons {node a root : Node} {above : List Node} :
    InParameters ⟨node, a :: above, root⟩ ↔
      a.kind ∈ parameterKinds ∨ a.Passes node.field ∧ InParameters ⟨a, above, root⟩ := by
  constructor
  · rintro ⟨inner, list, outer, habove, hlist, hsteps⟩
    cases inner with
    | nil =>
      obtain ⟨rfl, rfl⟩ := List.cons.inj habove
      exact .inl hlist
    | cons b inner =>
      obtain ⟨rfl, hrest⟩ := List.cons.inj habove
      rw [List.zip_cons_cons] at hsteps
      obtain ⟨hfirst, hsteps⟩ := List.forall_mem_cons.1 hsteps
      exact .inr ⟨hfirst, inner, list, outer, hrest, hlist, hsteps⟩
  · rintro (hlist | ⟨hpasses, inner, list, outer, habove, hlist, hsteps⟩)
    · exact ⟨[], a, above, rfl, hlist, by simp⟩
    · refine ⟨a :: inner, list, outer, congrArg (a :: ·) habove, hlist, ?_⟩
      rw [List.zip_cons_cons]
      exact List.forall_mem_cons.2 ⟨hpasses, hsteps⟩

/-- The flag that is handed down to a node tells whether it declares parameters. -/
theorem declaredIn_iff {node root : Node} {above : List Node} :
    declaredIn above node.field = true ↔ InParameters ⟨node, above, root⟩ := by
  induction above generalizing node with
  | nil =>
    constructor
    · intro h
      cases h
    · rintro ⟨inner, list, outer, habove, -⟩
      cases inner <;> cases habove
  | cons a above ih => rw [declaredIn, declares_iff, inParameters_cons, ih]

instance : Decidable p.InParameters := decidable_of_iff _ declaredIn_iff

/-- What is handed down to a node. -/
def scope : Scope := ⟨p.parent.kind, declaredIn p.above p.node.field⟩

/-- What a name is used for by the part it plays in its parent, if it plays one of its own. -/
def part? : Option Role := nameParts.lookup (p.parent.kind, p.node.field)

/-- What a name is used for. -/
def role : Role := p.part?.getD (if p.InParameters then .parameter else .variableName)

/-- What a node is in the normalized tree, if it stays. -/
def label : Label :=
  if p.node.IsName then .name p.role
  else match literalType? p.node.kind with
    | some type => .literal type
    | none => if p.node.named then .ofKind p.node.kind else .operator p.node.kind

/-- Whether a node stays if those above it let it. -/
def Stays : Prop :=
  ¬p.node.IsComment ∧ ¬p.node.IsParentheses ∧
    (p.node.IsName ∨ p.node.IsLiteral ∨ p.node.named = true ∨ p.parent.kind ∈ operatorKinds)

/-- Whether a node is in the normalized tree. -/
def Survives : Prop := (∀ a ∈ p.above, a.Opens) ∧ p.Stays

instance : Decidable p.Stays := inferInstanceAs (Decidable (_ ∧ _ ∧ (_ ∨ _ ∨ _ ∨ _)))
instance : Decidable p.Survives := inferInstanceAs (Decidable (_ ∧ _))

theorem roleOf_scope : roleOf p.node.field p.scope = p.role := by
  rw [roleOf_eq, role]
  exact congrArg _ (if_congr declaredIn_iff rfl rfl)

/-- A node that the nodes below it outlive is a pair of parentheses. -/
theorem stays_iff_of_opens (h : p.node.Opens) : p.Stays ↔ ¬p.node.IsParentheses := by
  obtain ⟨hcomment, -, -, hnamed⟩ := h
  constructor
  · intro hstays
    exact hstays.2.1
  · intro hparentheses
    exact ⟨hcomment, hparentheses, .inr (.inr (.inl (hnamed.resolve_left hparentheses)))⟩

theorem stays_iff_of_named (h : p.node.named = true) :
    p.Stays ↔ ¬p.node.IsComment ∧ ¬p.node.IsParentheses := by
  simp [Stays, h]

/-- What becomes of a node, told by its place. -/
theorem fateOf_scope : fateOf p.node.kind p.node.field p.node.named p.scope =
    if p.node.Opens then (if p.node.IsParentheses then .unwrapped else .kept p.label)
    else if p.Stays then .leaf p.label else .dropped := by
  have hcomment : (p.node.kind == "comment") = decide p.node.IsComment := beq_eq_decide _ _
  have hparentheses : (p.node.kind == "parenthesized_expression") = decide p.node.IsParentheses := beq_eq_decide _ _
  have hname : (p.node.kind == "identifier" || p.node.kind == "keyword_identifier") = decide p.node.IsName := by
    rw [Bool.eq_iff_iff, Bool.or_eq_true, beq_iff_eq, beq_iff_eq, decide_eq_true_iff]
    rfl
  rw [fateOf, roleOf_scope, hcomment, hparentheses, hname]
  by_cases hc : p.node.IsComment
  · simp [hc, Node.Opens, Stays]
  by_cases hp : p.node.IsParentheses
  · have hkind : p.node.kind = "parenthesized_expression" := hp
    have hn : ¬p.node.IsName := by
      rw [Node.IsName, hkind]
      decide
    have hl : ¬p.node.IsLiteral := by
      rw [Node.IsLiteral, hkind]
      decide
    simp [hc, hp, hn, hl, Node.Opens]
  by_cases hn : p.node.IsName
  · simp [hc, hp, hn, Node.Opens, Stays, label]
  cases htype : literalType? p.node.kind with
  | some type =>
    have hl : p.node.IsLiteral := by simp [Node.IsLiteral, htype]
    simp [hc, hp, hn, hl, htype, Node.Opens, Stays, label]
  | none =>
    have hl : ¬p.node.IsLiteral := by simp [Node.IsLiteral, htype]
    cases hnamed : p.node.named <;> simp [hc, hp, hn, hl, htype, hnamed, Node.Opens, Stays, label, scope]

end Place

/-! ### Normalizing by places -/

/-- What a tree is normalized to below the given nodes. -/
def normalAt (above : List Node) (root : Node) (t : SyntaxTree) : List NormalTree :=
  normalNodes (Place.mk t.top above root).scope t

/-- What the children of a node are normalized to, whatever is handed down to them. -/
theorem normalAll_eq_flatMap (parent : String) (inherited unwrapped : Bool) (ts : List SyntaxTree) :
    normalAll parent inherited unwrapped ts = ts.flatMap fun t =>
      normalNodes ⟨parent, if unwrapped then false else declares parent t.field inherited⟩ t := by
  induction ts with
  | nil => rfl
  | cons t ts ih => rw [normalAll, ih, List.flatMap_cons]

/-- What a node is normalized to by its place, over what its children are normalized to. -/
def Place.normal (p : Place) (below : List NormalTree) : List NormalTree :=
  let below := if p.node.Opens then below else []
  if p.Stays then [.node p.label below] else below

theorem Place.normal_congr {p q : Place} (hopens : p.node.Opens ↔ q.node.Opens) (hstays : p.Stays ↔ q.Stays)
    (hlabel : p.label = q.label) (below : List NormalTree) : p.normal below = q.normal below := by
  simp only [Place.normal, hopens, hstays, hlabel]

theorem normalAt_node (above : List Node) (root : Node) (t : SyntaxTree) :
    normalAt above root t =
      Place.normal ⟨t.top, above, root⟩ (t.children.flatMap (normalAt (t.top :: above) root)) := by
  obtain ⟨kind, field, named, children⟩ := t
  let p : Place := ⟨⟨kind, field, named⟩, above, root⟩
  change _ = p.normal (children.flatMap (normalAt (p.node :: above) root))
  have hfate : fateOf kind field named p.scope = _ := p.fateOf_scope
  change normalNodes p.scope _ = _
  rw [normalNodes, hfate, Place.normal]
  by_cases hopens : p.node.Opens
  · have hstays := p.stays_iff_of_opens hopens
    rw [if_pos hopens, if_pos hopens]
    by_cases hparentheses : p.node.IsParentheses
    · rw [if_pos hparentheses, if_neg (by simpa [hstays] using hparentheses)]
      change normalAll kind false true children = _
      rw [normalAll_eq_flatMap]
      refine List.flatMap_congr fun child _ => ?_
      -- parentheses hand nothing down, as if they were any other node
      have hkind : p.node.kind = "parenthesized_expression" := hparentheses
      have hdeclares : declaredIn (p.node :: above) child.top.field = false := by
        rw [declaredIn, hkind, declares_parentheses]
      rw [normalAt, Place.scope, hdeclares]
      rfl
    · rw [if_neg hparentheses, if_pos (hstays.2 hparentheses)]
      change [NormalTree.node p.label (normalAll kind _ false children)] = _
      rw [normalAll_eq_flatMap]
      rfl
  · rw [if_neg hopens, if_neg hopens]
    by_cases hstays : p.Stays
    · rw [if_pos hstays, if_pos hstays]
    · rw [if_neg hstays, if_neg hstays]

theorem normalize_node (t : SyntaxTree) :
    normalize t = .node (.shape .module) (t.children.flatMap (normalAt [] t.top)) := by
  obtain ⟨kind, field, named, children⟩ := t
  rw [normalize, normalAll_eq_flatMap]
  rfl

end Likeness.Tree
