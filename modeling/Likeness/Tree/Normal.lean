import Likeness.Tree.Label

/-!
# Normalized trees

A syntax tree is normalized by forgetting what does not show its structure: comments and parentheses
go, names become the role they play, literals become their type, and of the tokens only operators
stay. The symbols of a normalized tree are its labels from left to right, with a mark behind the
children of each node that has some.
-/

namespace Likeness.Tree

/-- A syntax tree. `field` is the part that a node plays in its parent; tokens such as keywords and
brackets are not `named`. -/
inductive SyntaxTree where
  | node (kind : String) (field : Option String) (named : Bool) (children : List SyntaxTree)
deriving Inhabited, Repr

namespace SyntaxTree

def kind : SyntaxTree → String
  | node k _ _ _ => k

def field : SyntaxTree → Option String
  | node _ f _ _ => f

def named : SyntaxTree → Bool
  | node _ _ n _ => n

def children : SyntaxTree → List SyntaxTree
  | node _ _ _ cs => cs

end SyntaxTree

/-- A normalized tree. -/
inductive NormalTree where
  | node (label : Label) (children : List NormalTree)
deriving Inhabited, Repr

namespace NormalTree

def label : NormalTree → Label
  | node l _ => l

def children : NormalTree → List NormalTree
  | node _ cs => cs

def isLeaf (t : NormalTree) : Bool := t.children.isEmpty

mutual

/-- The number of nodes. -/
def size : NormalTree → Nat
  | node _ cs => 1 + sizeAll cs

def sizeAll : List NormalTree → Nat
  | [] => 0
  | t :: ts => size t + sizeAll ts

end
end NormalTree

/-! ### Normalizing -/

/-- The nodes whose tokens are kept. -/
def operatorKinds : List String :=
  ["binary_operator", "boolean_operator", "comparison_operator", "unary_operator",
    "augmented_assignment"]

/-- Where a node stands: the kind of its parent, and whether parameters are declared there. -/
structure Scope where
  parent : String
  inParameters : Bool
deriving DecidableEq, Inhabited, Repr

/-- What a name is used for. -/
def roleOf (field : Option String) (scope : Scope) : Role :=
  if scope.parent == "function_definition" && field == some "name" then .functionName
  else if scope.parent == "class_definition" && field == some "name" then .className
  else if scope.parent == "attribute" && field == some "attribute" then .attributeName
  else if scope.parent == "keyword_argument" && field == some "name" then .keywordName
  else if scope.inParameters then .parameter
  else .variableName

/-- Whether a child of a node declares parameters. Default values and types do not. -/
def declares (kind : String) (field : Option String) (inherited : Bool) : Bool :=
  if ["parameters", "lambda_parameters"].contains kind then true
  else if ["default_parameter", "typed_parameter", "typed_default_parameter"].contains kind then
    inherited && field != some "value" && field != some "type"
  else if ["list_splat_pattern", "dictionary_splat_pattern", "tuple_pattern"].contains kind then
    inherited
  else false

/-- The type of a literal by its kind. -/
def literalType? (kind : String) : Option LiteralType :=
  [("string", .str), ("concatenated_string", .str), ("integer", .int), ("float", .float),
    ("true", .bool), ("false", .bool), ("none", LiteralType.none)].lookup kind

/-- What becomes of a node, its children aside. -/
inductive Fate where
  /-- The node and all below it go. -/
  | dropped
  /-- The node goes, its children stay. -/
  | unwrapped
  /-- The node stays and loses its children. -/
  | leaf (label : Label)
  /-- The node stays with its children. -/
  | kept (label : Label)
deriving DecidableEq, Inhabited, Repr

/-- What becomes of a node. -/
def fateOf (kind : String) (field : Option String) (named : Bool) (scope : Scope) : Fate :=
  if kind == "comment" then .dropped
  else if kind == "parenthesized_expression" then .unwrapped
  else if kind == "identifier" || kind == "keyword_identifier" then
    .leaf (.name (roleOf field scope))
  else match literalType? kind with
    | some t => .leaf (.literal t)
    | none =>
      if named then .kept (.ofKind kind)
      else if operatorKinds.contains scope.parent then .leaf (.operator kind)
      else .dropped

mutual

/-- What a node is normalized to. -/
def normalNodes (scope : Scope) : SyntaxTree → List NormalTree
  | .node kind field named children =>
    match fateOf kind field named scope with
    | .dropped => []
    | .unwrapped => normalAll kind false true children
    | .leaf l => [.node l []]
    | .kept l => [.node l (normalAll kind scope.inParameters false children)]

/-- What the children of a node are normalized to. -/
def normalAll (parent : String) (inherited unwrapped : Bool) : List SyntaxTree → List NormalTree
  | [] => []
  | t :: ts =>
    let declared := if unwrapped then false else declares parent t.field inherited
    normalNodes ⟨parent, declared⟩ t ++ normalAll parent inherited unwrapped ts

end

/-- The normalized tree of a syntax tree. Its root stands for the whole text. -/
def normalize : SyntaxTree → NormalTree
  | .node kind _ _ children => .node (.shape .module) (normalAll kind false true children)

/-! ### Symbols -/

/-- A label, or the end of the children of a node. -/
inductive Symbol where
  | node (label : Label)
  | close
deriving DecidableEq, Hashable, Inhabited, Repr

def Symbol.text : Symbol → String
  | node l => l.text
  | close => "End"

namespace NormalTree

mutual

/-- The symbols of a tree. -/
def serialize : NormalTree → List Symbol
  | .node l cs => .node l :: (if cs.isEmpty then [] else serializeAll cs ++ [.close])

def serializeAll : List NormalTree → List Symbol
  | [] => []
  | t :: ts => serialize t ++ serializeAll ts

end

/-- The symbols of a whole text: those of the nodes below its root. -/
def symbols (t : NormalTree) : List Symbol := serializeAll t.children

end NormalTree
end Likeness.Tree
