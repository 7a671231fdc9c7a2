import Likeness.Grammar.Rule
import Likeness.Text.Names

/-!
# The grammar of Python

The grammar covers Python 3 with pattern matching and type parameters, and the `print` and `exec`
statements and tuple parameters of Python 2. Line ends, indentation, and the parts of strings come
from the scanner of `Likeness.Parse.Layout`.
-/

namespace Likeness.Grammar.Python

open Likeness.Text (CharSet)
open Rule

abbrev R := Rule Leaf

def sym (name : String) : R := .leaf (.ref name)
def tok (s : String) : R := .leaf (.text s)
def toks (ss : List String) : R := alts (ss.map tok)
def syms (names : List String) : R := alts (names.map sym)

/-- A token given by a pattern. -/
def lexeme (p : Pattern) : R := .leaf (.token ⟨p, false, 0, 0⟩)

/-- One or more items with separators between them. -/
def sepBy1 (a : R) (sep : String) : R := .seq a (many (.seq (tok sep) a))

def commaSep1 (a : R) : R := sepBy1 a ","
def comma? : R := opt (tok ",")

/-- The binding strengths of operators. -/
def ranks : List (Rule Leaf → Rule Leaf) :=
  let level (side : Side) (n : Int) (op : String) : R → R := fun operand =>
    .mark { rank := some n, side := some side } <|
      seqs [field "left" operand, field "operator" (tok op), field "right" operand]
  [level .left 18 "+", level .left 18 "-", level .left 19 "*", level .left 19 "@",
    level .left 19 "/", level .left 19 "%", level .left 19 "//", level .right 21 "**",
    level .left 14 "|", level .left 15 "&", level .left 16 "^", level .left 17 "<<",
    level .left 17 ">>"]

def boolean (n : Int) (op : String) : R :=
  leftward n <| seqs [field "left" (sym "expression"), field "operator" (tok op),
    field "right" (sym "expression")]

/-! ### Statements -/

def simpleStatements : List (String × R) := [
  ("module", many (sym "_statement")),
  ("_statement", syms ["_simple_statements", "_compound_statement"]),
  ("_simple_statements",
    seqs [sepBy1 (sym "_simple_statement") ";", opt (tok ";"), sym "_newline"]),
  ("_simple_statement", syms ["future_import_statement", "import_statement",
    "import_from_statement", "print_statement", "assert_statement", "expression_statement",
    "return_statement", "delete_statement", "raise_statement", "pass_statement",
    "break_statement", "continue_statement", "global_statement", "nonlocal_statement",
    "exec_statement", "type_alias_statement"]),
  ("import_statement", seqs [tok "import", sym "_import_list"]),
  ("import_prefix", many1 (tok ".")),
  ("relative_import", seqs [sym "import_prefix", opt (sym "dotted_name")]),
  ("future_import_statement", seqs [tok "from", tok "__future__", tok "import",
    alts [sym "_import_list", seqs [tok "(", sym "_import_list", tok ")"]]]),
  ("import_from_statement", seqs [tok "from",
    field "module_name" (syms ["relative_import", "dotted_name"]), tok "import",
    alts [sym "wildcard_import", sym "_import_list",
      seqs [tok "(", sym "_import_list", tok ")"]]]),
  ("_import_list",
    seqs [commaSep1 (field "name" (syms ["dotted_name", "aliased_import"])), comma?]),
  ("aliased_import", seqs [field "name" (sym "dotted_name"), tok "as",
    field "alias" (sym "identifier")]),
  ("wildcard_import", tok "*"),
  ("print_statement", alts [
    ranked 1 (seqs [tok "print", sym "chevron",
      many (seqs [tok ",", field "argument" (sym "expression")]), comma?]),
    ranked (-3) (weighted (-1)
      (seqs [tok "print", commaSep1 (field "argument" (sym "expression")), comma?]))]),
  ("chevron", seqs [tok ">>", sym "expression"]),
  ("assert_statement", seqs [tok "assert", commaSep1 (sym "expression")]),
  ("expression_statement", alts [sym "expression",
    seqs [commaSep1 (sym "expression"), comma?], sym "assignment", sym "augmented_assignment",
    sym "yield"]),
  ("named_expression", seqs [field "name" (sym "_named_expression_lhs"), tok ":=",
    field "value" (sym "expression")]),
  ("_named_expression_lhs", syms ["identifier", "keyword_identifier"]),
  ("return_statement", seqs [tok "return", opt (sym "_expressions")]),
  ("delete_statement", seqs [tok "del", sym "_expressions"]),
  ("_expressions", syms ["expression", "expression_list"]),
  ("raise_statement", seqs [tok "raise", opt (sym "_expressions"),
    opt (seqs [tok "from", field "cause" (sym "expression")])]),
  ("pass_statement", leftward 0 (tok "pass")),
  ("break_statement", leftward 0 (tok "break")),
  ("continue_statement", leftward 0 (tok "continue"))]

def compoundStatements : List (String × R) := [
  ("_compound_statement", syms ["if_statement", "for_statement", "while_statement",
    "try_statement", "with_statement", "function_definition", "class_definition",
    "decorated_definition", "match_statement"]),
  ("if_statement", seqs [tok "if", field "condition" (sym "expression"), tok ":",
    field "consequence" (sym "_suite"), many (field "alternative" (sym "elif_clause")),
    opt (field "alternative" (sym "else_clause"))]),
  ("elif_clause", seqs [tok "elif", field "condition" (sym "expression"), tok ":",
    field "consequence" (sym "_suite")]),
  ("else_clause", seqs [tok "else", tok ":", field "body" (sym "_suite")]),
  ("match_statement", seqs [tok "match", commaSep1 (field "subject" (sym "expression")), comma?,
    tok ":", field "body" (named "block" (sym "_match_block"))]),
  ("_match_block", alts [
    seqs [sym "_indent", many (field "alternative" (sym "case_clause")), sym "_dedent"],
    sym "_newline"]),
  ("case_clause", seqs [tok "case", commaSep1 (sym "case_pattern"), comma?,
    opt (field "guard" (sym "if_clause")), tok ":", field "consequence" (sym "_suite")]),
  ("for_statement", seqs [opt (tok "async"), tok "for", field "left" (sym "_left_hand_side"),
    tok "in", field "right" (sym "_expressions"), tok ":", field "body" (sym "_suite"),
    field "alternative" (opt (sym "else_clause"))]),
  ("while_statement", seqs [tok "while", field "condition" (sym "expression"), tok ":",
    field "body" (sym "_suite"), opt (field "alternative" (sym "else_clause"))]),
  ("try_statement", seqs [tok "try", tok ":", field "body" (sym "_suite"), alts [
    seqs [many1 (sym "except_clause"), opt (sym "else_clause"), opt (sym "finally_clause")],
    seqs [many1 (sym "except_group_clause"), opt (sym "else_clause"),
      opt (sym "finally_clause")],
    sym "finally_clause"]]),
  ("except_clause", seqs [tok "except",
    opt (seqs [sym "expression", opt (seqs [toks ["as", ","], sym "expression"])]), tok ":",
    sym "_suite"]),
  ("except_group_clause", seqs [tok "except*",
    seqs [sym "expression", opt (seqs [tok "as", sym "expression"])], tok ":", sym "_suite"]),
  ("finally_clause", seqs [tok "finally", tok ":", sym "_suite"]),
  ("with_statement", seqs [opt (tok "async"), tok "with", sym "with_clause", tok ":",
    field "body" (sym "_suite")]),
  ("with_clause", alts [
    seqs [commaSep1 (sym "with_item"), comma?],
    seqs [tok "(", commaSep1 (sym "with_item"), comma?, tok ")"]]),
  ("with_item", weighted 1 (field "value" (sym "expression"))),
  ("function_definition", seqs [opt (tok "async"), tok "def", field "name" (sym "identifier"),
    field "type_parameters" (opt (sym "type_parameter")),
    field "parameters" (sym "parameters"),
    opt (seqs [tok "->", field "return_type" (sym "type")]), tok ":",
    field "body" (sym "_suite")]),
  ("parameters", seqs [tok "(", opt (sym "_parameters"), tok ")"]),
  ("lambda_parameters", sym "_parameters"),
  ("list_splat", seqs [tok "*", sym "expression"]),
  ("dictionary_splat", seqs [tok "**", sym "expression"]),
  ("global_statement", seqs [tok "global", commaSep1 (sym "identifier")]),
  ("nonlocal_statement", seqs [tok "nonlocal", commaSep1 (sym "identifier")]),
  ("exec_statement", seqs [tok "exec", field "code" (syms ["string", "identifier"]),
    opt (seqs [tok "in", commaSep1 (sym "expression")])]),
  ("type_alias_statement",
    weighted 1 (seqs [tok "type", sym "type", tok "=", sym "type"])),
  ("class_definition", seqs [tok "class", field "name" (sym "identifier"),
    field "type_parameters" (opt (sym "type_parameter")),
    field "superclasses" (opt (sym "argument_list")), tok ":", field "body" (sym "_suite")]),
  ("type_parameter", seqs [tok "[", commaSep1 (sym "type"), comma?, tok "]"]),
  ("parenthesized_list_splat", ranked 1 (seqs [tok "(", alts [
    named "parenthesized_expression" (sym "parenthesized_list_splat"), sym "list_splat"],
    tok ")"])),
  ("argument_list", seqs [tok "(", opt (commaSep1 (alts [sym "expression", sym "list_splat",
    sym "dictionary_splat", named "parenthesized_expression" (sym "parenthesized_list_splat"),
    sym "keyword_argument"])), comma?, tok ")"]),
  ("decorated_definition", seqs [many1 (sym "decorator"),
    field "definition" (syms ["class_definition", "function_definition"])]),
  ("decorator", seqs [tok "@", sym "expression", sym "_newline"]),
  ("_suite", alts [named "block" (sym "_simple_statements"), seqs [sym "_indent", sym "block"],
    named "block" (sym "_newline")]),
  ("block", seqs [many (sym "_statement"), sym "_dedent"]),
  ("expression_list", rightward 0 (seqs [sym "expression", alts [tok ",",
    seqs [many1 (seqs [tok ",", sym "expression"]), comma?]]])),
  ("dotted_name", ranked 1 (sepBy1 (sym "identifier") "."))]

/-! ### Patterns -/

def casePatterns : List (String × R) :=
  let listed (open' close : String) (item : R) : R :=
    seqs [tok open', opt (seqs [commaSep1 item, comma?]), tok close]
  let number := syms ["integer", "float"]
  [("case_pattern", ranked 1 (alts [named "as_pattern" (sym "_as_pattern"),
    sym "keyword_pattern", sym "_simple_pattern"])),
  ("_simple_pattern", ranked 1 (alts [sym "class_pattern", sym "splat_pattern",
    sym "union_pattern", named "list_pattern" (sym "_list_pattern"),
    named "tuple_pattern" (sym "_tuple_pattern"), sym "dict_pattern", sym "string",
    sym "concatenated_string", sym "true", sym "false", sym "none",
    seqs [opt (tok "-"), number], sym "complex_pattern", sym "dotted_name", tok "_"])),
  ("_as_pattern", seqs [sym "case_pattern", tok "as", sym "identifier"]),
  ("union_pattern", rightward 0 (seqs [sym "_simple_pattern",
    many1 (leftward 0 (seqs [tok "|", sym "_simple_pattern"]))])),
  ("_list_pattern", listed "[" "]" (sym "case_pattern")),
  ("_tuple_pattern", listed "(" ")" (sym "case_pattern")),
  ("dict_pattern", listed "\x7b" "\x7d" (syms ["_key_value_pattern", "splat_pattern"])),
  ("_key_value_pattern", seqs [field "key" (sym "_simple_pattern"), tok ":",
    field "value" (sym "case_pattern")]),
  ("keyword_pattern", seqs [sym "identifier", tok "=", sym "_simple_pattern"]),
  ("splat_pattern", ranked 1 (seqs [toks ["*", "**"], alts [sym "identifier", tok "_"]])),
  ("class_pattern", .seq (sym "dotted_name") (listed "(" ")" (sym "case_pattern"))),
  ("complex_pattern", ranked 1 (seqs [opt (tok "-"), number, toks ["+", "-"], number]))]

def targetPatterns : List (String × R) :=
  let starred := syms ["identifier", "keyword_identifier", "subscript", "attribute"]
  [("_parameters", seqs [commaSep1 (sym "parameter"), comma?]),
  ("_patterns", seqs [commaSep1 (sym "pattern"), comma?]),
  ("parameter", syms ["identifier", "typed_parameter", "default_parameter",
    "typed_default_parameter", "list_splat_pattern", "tuple_pattern", "keyword_separator",
    "positional_separator", "dictionary_splat_pattern"]),
  ("pattern", syms ["identifier", "keyword_identifier", "subscript", "attribute",
    "list_splat_pattern", "tuple_pattern", "list_pattern"]),
  ("tuple_pattern", seqs [tok "(", opt (sym "_patterns"), tok ")"]),
  ("list_pattern", seqs [tok "[", opt (sym "_patterns"), tok "]"]),
  ("default_parameter", seqs [field "name" (syms ["identifier", "tuple_pattern"]), tok "=",
    field "value" (sym "expression")]),
  ("typed_default_parameter", ranked (-1) (seqs [field "name" (sym "identifier"), tok ":",
    field "type" (sym "type"), tok "=", field "value" (sym "expression")])),
  ("list_splat_pattern", seqs [tok "*", starred]),
  ("dictionary_splat_pattern", seqs [tok "**", starred]),
  ("as_pattern", leftward 0 (seqs [sym "expression", tok "as",
    field "alias" (named "as_pattern_target" (sym "expression"))]))]

/-! ### Expressions -/

def expressions : List (String × R) := [
  ("_expression_within_for_in_clause", alts [sym "expression",
    named "lambda" (sym "lambda_within_for_in_clause")]),
  ("expression", syms ["comparison_operator", "not_operator", "boolean_operator", "lambda",
    "primary_expression", "conditional_expression", "named_expression", "as_pattern"]),
  ("primary_expression", alts [syms ["await", "binary_operator", "identifier",
    "keyword_identifier", "string", "concatenated_string", "integer", "float", "true", "false",
    "none", "unary_operator", "attribute", "subscript", "call", "list", "list_comprehension",
    "dictionary", "dictionary_comprehension", "set", "set_comprehension", "tuple",
    "parenthesized_expression", "generator_expression", "ellipsis"],
    named "list_splat" (sym "list_splat_pattern")]),
  ("not_operator", ranked 12 (seqs [tok "not", field "argument" (sym "expression")])),
  ("boolean_operator", alts [boolean 11 "and", boolean 10 "or"]),
  ("binary_operator", alts (ranks.map fun f => f (sym "primary_expression"))),
  ("unary_operator", ranked 20 (seqs [field "operator" (toks ["+", "-", "~"]),
    field "argument" (sym "primary_expression")])),
  ("comparison_operator", leftward 13 (seqs [sym "primary_expression", many1 (seqs [
    field "operators" (alts [toks ["<", "<=", "==", "!=", ">=", ">", "<>", "in"],
      shownAs "not in" (seqs [tok "not", tok "in"]), tok "is",
      shownAs "is not" (seqs [tok "is", tok "not"])]),
    sym "primary_expression"])])),
  ("lambda", ranked (-2) (seqs [tok "lambda",
    field "parameters" (opt (sym "lambda_parameters")), tok ":",
    field "body" (sym "expression")])),
  ("lambda_within_for_in_clause", seqs [tok "lambda",
    field "parameters" (opt (sym "lambda_parameters")), tok ":",
    field "body" (sym "_expression_within_for_in_clause")]),
  ("assignment", seqs [field "left" (sym "_left_hand_side"), alts [
    seqs [tok "=", field "right" (sym "_right_hand_side")],
    seqs [tok ":", field "type" (sym "type")],
    seqs [tok ":", field "type" (sym "type"), tok "=",
      field "right" (sym "_right_hand_side")]]]),
  ("augmented_assignment", seqs [field "left" (sym "_left_hand_side"),
    field "operator" (toks ["+=", "-=", "*=", "/=", "@=", "//=", "%=", "**=", ">>=", "<<=",
      "&=", "^=", "|="]),
    field "right" (sym "_right_hand_side")]),
  ("_left_hand_side", syms ["pattern", "pattern_list"]),
  ("pattern_list", seqs [sym "pattern", alts [tok ",",
    seqs [many1 (seqs [tok ",", sym "pattern"]), comma?]]]),
  ("_right_hand_side", syms ["expression", "expression_list", "assignment",
    "augmented_assignment", "pattern_list", "yield"]),
  ("yield", rightward 0 (seqs [tok "yield",
    alts [seqs [tok "from", sym "expression"], opt (sym "_expressions")]])),
  ("attribute", ranked 22 (seqs [field "object" (sym "primary_expression"), tok ".",
    field "attribute" (sym "identifier")])),
  ("subscript", ranked 22 (seqs [field "value" (sym "primary_expression"), tok "[",
    commaSep1 (field "subscript" (syms ["expression", "slice"])), comma?, tok "]"])),
  ("slice", seqs [opt (sym "expression"), tok ":", opt (sym "expression"),
    opt (seqs [tok ":", opt (sym "expression")])]),
  ("ellipsis", tok "..."),
  ("call", ranked 22 (seqs [field "function" (sym "primary_expression"),
    field "arguments" (syms ["generator_expression", "argument_list"])])),
  ("typed_parameter", ranked (-1) (seqs [
    syms ["identifier", "list_splat_pattern", "dictionary_splat_pattern"], tok ":",
    field "type" (sym "type")])),
  ("type", alts [ranked 1 (sym "expression"), sym "splat_type", sym "generic_type",
    sym "union_type", sym "constrained_type", sym "member_type"]),
  ("splat_type", ranked 1 (seqs [toks ["*", "**"], sym "identifier"])),
  ("generic_type", ranked 1 (seqs [alts [sym "identifier", named "identifier" (tok "type")],
    sym "type_parameter"])),
  ("union_type", leftward 0 (seqs [sym "type", tok "|", sym "type"])),
  ("constrained_type", rightward 0 (seqs [sym "type", tok ":", sym "type"])),
  ("member_type", seqs [sym "type", tok ".", sym "identifier"]),
  ("keyword_argument", seqs [field "name" (syms ["identifier", "keyword_identifier"]), tok "=",
    field "value" (sym "expression")])]

/-! ### Displays, comprehensions and literals -/

def displays : List (String × R) := [
  ("list", seqs [tok "[", opt (sym "_collection_elements"), tok "]"]),
  ("set", seqs [tok "\x7b", sym "_collection_elements", tok "\x7d"]),
  ("tuple", seqs [tok "(", opt (sym "_collection_elements"), tok ")"]),
  ("dictionary", seqs [tok "\x7b", opt (commaSep1 (syms ["pair", "dictionary_splat"])), comma?,
    tok "\x7d"]),
  ("pair", seqs [field "key" (sym "expression"), tok ":", field "value" (sym "expression")]),
  ("list_comprehension", seqs [tok "[", field "body" (sym "expression"),
    sym "_comprehension_clauses", tok "]"]),
  ("dictionary_comprehension", seqs [tok "\x7b", field "body" (sym "pair"),
    sym "_comprehension_clauses", tok "\x7d"]),
  ("set_comprehension", seqs [tok "\x7b", field "body" (sym "expression"),
    sym "_comprehension_clauses", tok "\x7d"]),
  ("generator_expression", seqs [tok "(", field "body" (sym "expression"),
    sym "_comprehension_clauses", tok ")"]),
  ("_comprehension_clauses", seqs [sym "for_in_clause",
    many (syms ["for_in_clause", "if_clause"])]),
  ("parenthesized_expression",
    ranked 1 (seqs [tok "(", syms ["expression", "yield"], tok ")"])),
  ("_collection_elements", seqs [commaSep1 (syms ["expression", "yield", "list_splat",
    "parenthesized_list_splat"]), comma?]),
  ("for_in_clause", leftward 0 (seqs [opt (tok "async"), tok "for",
    field "left" (sym "_left_hand_side"), tok "in",
    field "right" (commaSep1 (sym "_expression_within_for_in_clause")), comma?])),
  ("if_clause", seqs [tok "if", sym "expression"]),
  ("conditional_expression", rightward (-1) (seqs [sym "expression", tok "if",
    sym "expression", tok "else", sym "expression"])),
  ("concatenated_string", seqs [sym "string", many1 (sym "string")]),
  ("string", seqs [sym "string_start", many (syms ["interpolation", "string_content"]),
    sym "string_end"]),
  ("string_content", rightward 0 (many1 (syms ["escape_interpolation", "escape_sequence",
    "_not_escape_sequence", "_string_content"]))),
  ("interpolation", seqs [tok "\x7b", field "expression" (sym "_f_expression"), opt (tok "="),
    opt (field "type_conversion" (sym "type_conversion")),
    opt (field "format_specifier" (sym "format_specifier")), tok "\x7d"]),
  ("_f_expression", syms ["expression", "expression_list", "pattern_list", "yield"])]

def digit : CharSet := .range '0' '9'
def hexDigit : CharSet := digit ++ .range 'a' 'f' ++ .range 'A' 'F'

/-- Digits, in groups that an underscore may end. -/
def digits : Pattern := .many1 (.seq (.many1 (.chars digit)) (.opt (.lit "_")))

/-- Digits of a base other than ten, in groups that an underscore may begin. -/
def based (mark : String) (set : CharSet) : Pattern :=
  .seqs [.lit "0", .oneOf mark, .many1 (.seq (.opt (.lit "_")) (.many1 (.chars set))),
    .opt (.oneOf "Ll")]

def integer : Pattern := .alts [based "xX" hexDigit, based "oO" (.range '0' '7'),
  based "bB" (.range '0' '1'), .seq digits (.alt (.opt (.oneOf "Ll")) (.opt (.oneOf "jJ")))]

def float : Pattern :=
  let exponent : Pattern := .seqs [.oneOf "eE", .opt (.oneOf "+-"), digits]
  .seq (.alts [
      .seqs [digits, .lit ".", .opt digits, .opt exponent],
      .seqs [.opt digits, .lit ".", digits, .opt exponent],
      .seq digits exponent])
    (.opt (.oneOf "jJ"))

def escape : Pattern :=
  let hex := Pattern.chars hexDigit
  .seq (.lit "\\") (.alts [.seq (.lit "u") (hex.times 4), .seq (.lit "U") (hex.times 8),
    .seq (.lit "x") (hex.times 2), (Pattern.chars digit).times 3,
    .seq (.opt (.lit "\r")) (.lit "\n"), .oneOf "'\"abfrntv\\",
    .seqs [.lit "N\x7b", .many1 (.chars (CharSet.ofString "\x7d\x00").compl), .lit "\x7d"]])

def identifier : Pattern :=
  let underscore := CharSet.single '_'
  .seq (.chars (underscore ++ Text.nameStart)) (.many (.chars (underscore ++ Text.nameContinue)))

def literals : List (String × R) := [
  ("escape_sequence", .leaf (.token ⟨escape, true, 1, 1⟩)),
  ("_not_escape_sequence", .leaf (.token ⟨.lit "\\", true, 0, 3⟩)),
  ("format_specifier", seqs [tok ":", many (alts [
    .leaf (.token ⟨.many1 (.chars (CharSet.ofString "\x7b\x7d\n\x00").compl), false, 1, 0⟩),
    named "format_expression" (sym "interpolation")])]),
  ("type_conversion", lexeme (.seq (.lit "!") (.chars (.range 'a' 'z')))),
  ("integer", lexeme integer),
  ("float", lexeme float),
  ("identifier", lexeme identifier),
  ("keyword_identifier", ranked (-3)
    (named "identifier" (toks ["print", "exec", "async", "await", "match", "type"]))),
  ("true", tok "True"),
  ("false", tok "False"),
  ("none", tok "None"),
  ("await", ranked 20 (seqs [tok "await", sym "primary_expression"])),
  ("comment", lexeme (.seq (.lit "#") (.many (.chars (CharSet.ofString "\n\x00").compl)))),
  ("line_continuation", lexeme (.seq (.lit "\\")
    (.alt (.seq (.opt (.lit "\r")) (.lit "\n")) (.lit "\x00")))),
  ("positional_separator", tok "/"),
  ("keyword_separator", tok "*")]

/-- The grammar. -/
def source : Source where
  rules := simpleStatements ++ compoundStatements ++ casePatterns ++ targetPatterns ++
    expressions ++ displays ++ literals
  extras := ["comment", "line_continuation"]
  separators := .alt (.oneOf "\t\n\x0b\x0c\r \uFEFF\u2060\u200B")
    (.seq (.opt (.lit "\r")) (.lit "\n"))
  externals := [.ref "_newline", .ref "_indent", .ref "_dedent", .ref "string_start",
    .ref "_string_content", .ref "escape_interpolation", .ref "string_end", .ref "comment",
    .text "]", .text ")", .text "\x7d", .text "except"]
  supertypes := ["_simple_statement", "_compound_statement", "expression",
    "primary_expression", "pattern", "parameter"]
  inlined := ["_simple_statement", "_compound_statement", "_suite", "_expressions",
    "_left_hand_side", "keyword_identifier"]
  word := "identifier"

end Likeness.Grammar.Python
