/-!
# Labels of normalized trees

What a node of a normalized tree is. Names are told by the role they play, literals by their type;
the spelling of both is forgotten. Nodes of kinds that are not known by name keep their kind.
-/

namespace Likeness.Tree

/-- The kinds of nodes that are known by name. -/
inductive Shape where
  | module
  | block
  | functionDef
  | classDef
  | decorated
  | decorator
  | parameters
  | defaultParameter
  | typedParameter
  | splatParameter
  | ifStatement
  | elifClause
  | elseClause
  | forStatement
  | whileStatement
  | tryStatement
  | exceptClause
  | finallyClause
  | withStatement
  | withItem
  | matchStatement
  | caseClause
  | returnStatement
  | assign
  | augAssign
  | exprStatement
  | assertStatement
  | deleteStatement
  | globalStatement
  | nonlocalStatement
  | importStatement
  | importFrom
  | raiseStatement
  | passStatement
  | breakStatement
  | continueStatement
  | call
  | arguments
  | keywordArgument
  | splat
  | binaryOp
  | boolOp
  | compare
  | unaryOp
  | notOp
  | attributeAccess
  | subscript
  | slice
  | lambda
  | conditional
  | namedExpr
  | comprehension
  | forInClause
  | ifClause
  | yieldExpr
  | awaitExpr
  | listExpr
  | tuple
  | dict
  | setExpr
  | pair
deriving DecidableEq, Hashable, Inhabited, Repr

def Shape.name : Shape → String
  | module => "Module"
  | block => "Block"
  | functionDef => "FunctionDef"
  | classDef => "ClassDef"
  | decorated => "Decorated"
  | decorator => "Decorator"
  | parameters => "Parameters"
  | defaultParameter => "DefaultParameter"
  | typedParameter => "TypedParameter"
  | splatParameter => "SplatParameter"
  | ifStatement => "If"
  | elifClause => "Elif"
  | elseClause => "Else"
  | forStatement => "For"
  | whileStatement => "While"
  | tryStatement => "Try"
  | exceptClause => "Except"
  | finallyClause => "Finally"
  | withStatement => "With"
  | withItem => "WithItem"
  | matchStatement => "Match"
  | caseClause => "Case"
  | returnStatement => "Return"
  | assign => "Assign"
  | augAssign => "AugAssign"
  | exprStatement => "ExprStmt"
  | assertStatement => "Assert"
  | deleteStatement => "Delete"
  | globalStatement => "Global"
  | nonlocalStatement => "Nonlocal"
  | importStatement => "Import"
  | importFrom => "ImportFrom"
  | raiseStatement => "Raise"
  | passStatement => "Pass"
  | breakStatement => "Break"
  | continueStatement => "Continue"
  | call => "Call"
  | arguments => "Arguments"
  | keywordArgument => "KeywordArg"
  | splat => "Splat"
  | binaryOp => "BinaryOp"
  | boolOp => "BoolOp"
  | compare => "Compare"
  | unaryOp => "UnaryOp"
  | notOp => "Not"
  | attributeAccess => "Attribute"
  | subscript => "Subscript"
  | slice => "Slice"
  | lambda => "Lambda"
  | conditional => "Conditional"
  | namedExpr => "NamedExpr"
  | comprehension => "Comprehension"
  | forInClause => "ForIn"
  | ifClause => "IfClause"
  | yieldExpr => "Yield"
  | awaitExpr => "Await"
  | listExpr => "List"
  | tuple => "Tuple"
  | dict => "Dict"
  | setExpr => "Set"
  | pair => "Pair"

/-- The kinds of syntax nodes and what they are in a normalized tree. -/
def shapes : List (String × Shape) := [
  ("module", .module), ("block", .block), ("function_definition", .functionDef),
  ("class_definition", .classDef), ("decorated_definition", .decorated), ("decorator", .decorator),
  ("parameters", .parameters), ("lambda_parameters", .parameters),
  ("default_parameter", .defaultParameter), ("typed_default_parameter", .defaultParameter),
  ("typed_parameter", .typedParameter), ("list_splat_pattern", .splatParameter),
  ("dictionary_splat_pattern", .splatParameter), ("if_statement", .ifStatement),
  ("elif_clause", .elifClause), ("else_clause", .elseClause), ("for_statement", .forStatement),
  ("while_statement", .whileStatement), ("try_statement", .tryStatement),
  ("except_clause", .exceptClause), ("except_group_clause", .exceptClause),
  ("finally_clause", .finallyClause), ("with_statement", .withStatement), ("with_item", .withItem),
  ("match_statement", .matchStatement), ("case_clause", .caseClause),
  ("return_statement", .returnStatement), ("assignment", .assign),
  ("augmented_assignment", .augAssign), ("expression_statement", .exprStatement),
  ("assert_statement", .assertStatement), ("delete_statement", .deleteStatement),
  ("global_statement", .globalStatement), ("nonlocal_statement", .nonlocalStatement),
  ("import_statement", .importStatement), ("import_from_statement", .importFrom),
  ("future_import_statement", .importFrom), ("raise_statement", .raiseStatement),
  ("pass_statement", .passStatement), ("break_statement", .breakStatement),
  ("continue_statement", .continueStatement), ("call", .call), ("argument_list", .arguments),
  ("keyword_argument", .keywordArgument), ("list_splat", .splat), ("dictionary_splat", .splat),
  ("binary_operator", .binaryOp), ("boolean_operator", .boolOp), ("comparison_operator", .compare),
  ("unary_operator", .unaryOp), ("not_operator", .notOp), ("attribute", .attributeAccess),
  ("subscript", .subscript), ("slice", .slice), ("lambda", .lambda),
  ("conditional_expression", .conditional), ("named_expression", .namedExpr),
  ("list_comprehension", .comprehension), ("set_comprehension", .comprehension),
  ("dictionary_comprehension", .comprehension), ("generator_expression", .comprehension),
  ("for_in_clause", .forInClause), ("if_clause", .ifClause), ("yield", .yieldExpr),
  ("await", .awaitExpr), ("list", .listExpr), ("tuple", .tuple), ("pattern_list", .tuple),
  ("expression_list", .tuple), ("dictionary", .dict), ("set", .setExpr), ("pair", .pair)]

/-- What a name is used for. -/
inductive Role where
  | functionName
  | className
  | parameter
  | attributeName
  | keywordName
  | variableName
deriving DecidableEq, Hashable, Inhabited, Repr

def Role.name : Role → String
  | functionName => "FunctionName"
  | className => "ClassName"
  | parameter => "Parameter"
  | attributeName => "AttributeName"
  | keywordName => "KeywordName"
  | variableName => "Variable"

inductive LiteralType where
  | int
  | float
  | str
  | bool
  | none
deriving DecidableEq, Hashable, Inhabited, Repr

def LiteralType.name : LiteralType → String
  | int => "Int"
  | float => "Float"
  | str => "Str"
  | bool => "Bool"
  | none => "None"

/-- What a node of a normalized tree is. -/
inductive Label where
  | shape (s : Shape)
  /-- An operator, as it is written. -/
  | operator (token : String)
  | name (role : Role)
  | literal (type : LiteralType)
  /-- A node of another kind. -/
  | other (kind : String)
deriving DecidableEq, Hashable, Inhabited, Repr

/-- The label of a named node by its kind. -/
def Label.ofKind (kind : String) : Label :=
  match shapes.lookup kind with
  | some s => .shape s
  | none => .other kind

/-- How a label is written. -/
def Label.text : Label → String
  | shape s => s.name
  | operator t => "Operator:" ++ t
  | name r => "Name:" ++ r.name
  | literal t => "Literal:" ++ t.name
  | other k => "Other:" ++ k

end Likeness.Tree
