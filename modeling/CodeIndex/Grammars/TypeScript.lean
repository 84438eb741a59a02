import CodeIndex.Grammars.TypeScript.Expressions
import CodeIndex.Grammars.TypeScript.Types
import CodeIndex.Grammars.TypeScript.Scan

/-!
# The grammar of TypeScript

There are two dialects: one with markup in expressions, one without it.
-/

namespace CodeIndex.Grammars.TypeScript

open CodeIndex.Grammar

def rule (name : String) : Ranked := .rule name

/-- One ordering, from tight to loose. -/
def order (l : List Ranked) : List Ranked := l

/-- Operators from tight to loose, and other choices between rules. -/
def orderings : List (List Ranked) := [
  order ["member", "template_call", "call", rule "update_expression", "unary_void", "binary_exp",
    "binary_times", "binary_plus", "binary_shift", "binary_compare", "binary_relation",
    "binary_equality", "bitwise_and", "bitwise_xor", "bitwise_or", "logical_and",
    "logical_or", "ternary", rule "sequence_expression", rule "arrow_function"],
  order ["assign", rule "primary_expression"],
  order ["member", "template_call", "new", "call", rule "expression"],
  order ["declare", "literal"],
  order [rule "primary_expression", rule "statement_block", "object"],
  order [rule "meta_property", rule "import"],
  order [rule "import_statement", rule "import"],
  order [rule "export_statement", rule "primary_expression"],
  order [rule "lexical_declaration", rule "primary_expression"],
  order ["call", "instantiation", "unary", "binary", rule "await_expression",
    rule "arrow_function"],
  order ["extends", "instantiation"],
  order [rule "intersection_type", rule "union_type", rule "conditional_type",
    rule "function_type", "binary", rule "type_predicate", rule "readonly_type"],
  order [rule "mapped_type_clause", rule "primary_expression"],
  order [rule "accessibility_modifier", rule "primary_expression"],
  order ["unary_void", rule "expression"],
  order [rule "extends_clause", rule "primary_expression"],
  order ["unary", "assign"],
  order ["declare", rule "expression"],
  order [rule "predefined_type", rule "unary_expression"],
  order [rule "type", rule "flow_maybe_type"],
  order [rule "tuple_type", rule "array_type", rule "pattern", rule "type"],
  order [rule "readonly_type", rule "pattern"],
  order [rule "readonly_type", rule "primary_expression"],
  order [rule "type_query", rule "subscript_expression", rule "expression"],
  order [rule "type_query", rule "_type_query_subscript_expression"],
  order [rule "nested_type_identifier", rule "generic_type", rule "primary_type",
    rule "lookup_type", rule "index_type_query", rule "type"],
  order [rule "as_expression", rule "satisfies_expression", rule "primary_type"],
  order [rule "_type_query_member_expression", rule "member_expression"],
  order [rule "member_expression", rule "_type_query_member_expression_in_type_annotation"],
  order [rule "_type_query_member_expression", rule "primary_expression"],
  order [rule "_type_query_subscript_expression", rule "subscript_expression"],
  order [rule "_type_query_subscript_expression", rule "primary_expression"],
  order [rule "_type_query_call_expression", rule "primary_expression"],
  order [rule "_type_query_instantiation_expression", rule "primary_expression"],
  order [rule "type_query", rule "primary_expression"],
  order [rule "override_modifier", rule "primary_expression"],
  order [rule "decorator_call_expression", rule "decorator"],
  order [rule "literal_type", rule "pattern"],
  order [rule "predefined_type", rule "pattern"],
  order [rule "call_expression", rule "_type_query_call_expression"],
  order [rule "call_expression", rule "_type_query_call_expression_in_type_annotation"],
  order [rule "new_expression", rule "primary_expression"],
  order [rule "meta_property", rule "primary_expression"],
  order [rule "construct_signature", rule "_property_name"]]

def definition (markup : Bool) : Definition where
  rules := modules ++ statements ++ values markup ++ (if markup then markupRules else []) ++
    functions ++ literals ++ components ++ declarations ++ typedDeclarations ++ annotations ++
    typeRules
  extras := [nt "comment", nt "html_comment", blank]
  externals := [
    nt "_automatic_semicolon", nt "_template_chars", nt "_ternary_qmark", nt "html_comment",
    "||", nt "escape_sequence", nt "regex_pattern", nt "jsx_text",
    nt "_function_signature_automatic_semicolon", nt "__error_recovery"]
  inlined := [
    "_expressions", "_semicolon", "_identifier", "_reserved_identifier", "_jsx_attribute",
    "_jsx_element_name", "_jsx_child", "_jsx_element", "_jsx_attribute_name",
    "_jsx_attribute_value", "_jsx_identifier", "_lhs_expression", "_type_identifier",
    "_jsx_start_opening_element"]
  families := [
    "statement", "declaration", "expression", "primary_expression", "pattern", "type",
    "primary_type"]
  word := some "identifier"
  orderings
  freeText := [
    doubleQuoted, singleQuoted, nt "regex_pattern", regexFlags, attributeText '"',
    attributeText '\'',
    nt "html_character_reference", nt "jsx_identifier", .literal "/>", .literal "?:"]

end CodeIndex.Grammars.TypeScript
