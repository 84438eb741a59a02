import CodeIndex.Grammars.TypeScript.Statements

/-!
# Types of TypeScript
-/

namespace CodeIndex.Grammars.TypeScript

open CodeIndex.Grammar

def queriedSubscript : Rule :=
  renamed "subscript_expression" (nt "_type_query_subscript_expression")

def queriedMember : Rule := renamed "member_expression" (nt "_type_query_member_expression")

def queriedCall : Rule := renamed "call_expression" (nt "_type_query_call_expression")

def annotatedMember : Rule :=
  renamed "member_expression" (nt "_type_query_member_expression_in_type_annotation")

def annotatedCall : Rule :=
  renamed "call_expression" (nt "_type_query_call_expression_in_type_annotation")

def annotations : List (String × Rule) := [
  ("omitting_type_annotation", seq ["-?:", nt "type"]),
  ("adding_type_annotation", seq ["+?:", nt "type"]),
  ("opting_type_annotation", seq ["?:", nt "type"]),
  ("type_annotation", seq [":", choice [nt "type", annotatedMember, annotatedCall]]),
  ("_type_query_member_expression_in_type_annotation", seq [
    field "object" (choice [nt "import", annotatedMember, annotatedCall]),
    ".",
    field "property" (choice [
      nt "private_property_identifier",
      renamed "property_identifier" (nt "identifier")])]),
  ("_type_query_call_expression_in_type_annotation", seq [
    field "function" (choice [nt "import", annotatedMember]),
    field "arguments" (nt "arguments")]),
  ("asserts", seq ["asserts", choice [nt "type_predicate", nt "identifier", nt "this"]]),
  ("asserts_annotation", seq [":", nt "asserts"])]

def typeRules : List (String × Rule) := [
  ("type", choice [
    nt "primary_type", nt "function_type", nt "readonly_type", nt "constructor_type",
    nt "infer_type", prec (-1) annotatedMember, prec (-1) annotatedCall]),
  ("tuple_parameter", seq [
    field "name" (choice [nt "identifier", nt "rest_pattern"]),
    field "type" (nt "type_annotation")]),
  ("optional_tuple_parameter", seq [
    field "name" (nt "identifier"), "?", field "type" (nt "type_annotation")]),
  ("optional_type", seq [nt "type", "?"]),
  ("rest_type", seq ["...", nt "type"]),
  ("_tuple_type_member", choice [
    renamed "required_parameter" (nt "tuple_parameter"),
    renamed "optional_parameter" (nt "optional_tuple_parameter"), nt "optional_type",
    nt "rest_type", nt "type"]),
  ("constructor_type", precLeft 0 (seq [
    opt "abstract", "new", typeParameters, field "parameters" (nt "formal_parameters"),
    "=>", field "type" (nt "type")])),
  ("primary_type", choice [
    nt "parenthesized_type", nt "predefined_type", typeIdentifier,
    nt "nested_type_identifier", nt "generic_type", nt "object_type", nt "array_type",
    nt "tuple_type", nt "flow_maybe_type", nt "type_query", nt "index_type_query",
    renamed "this_type" (nt "this"), nt "existential_type", nt "literal_type",
    nt "lookup_type", nt "conditional_type", nt "template_literal_type",
    nt "intersection_type", nt "union_type", "const"]),
  ("template_type", seq [
    openSubstitution, choice [nt "primary_type", nt "infer_type"], closeBrace]),
  ("template_literal_type", seq [
    backquote,
    many (choice [renamed "string_fragment" (nt "_template_chars"), nt "template_type"]),
    backquote]),
  ("infer_type", precRight 0 (seq [
    "infer", typeIdentifier, opt (seq ["extends", nt "type"])])),
  ("conditional_type", precRight 0 (seq [
    field "left" (nt "type"), "extends", field "right" (nt "type"), "?",
    field "consequence" (nt "type"), ":", field "alternative" (nt "type")])),
  ("generic_type", prec "call" (seq [
    field "name" (choice [typeIdentifier, nt "nested_type_identifier"]),
    field "type_arguments" (nt "type_arguments")])),
  ("type_predicate", seq [
    field "name" (choice [
      nt "identifier", nt "this", renamed "identifier" (nt "predefined_type")]),
    "is", field "type" (nt "type")]),
  ("type_predicate_annotation", seq [":", nt "type_predicate"]),
  ("_type_query_member_expression", seq [
    field "object" (choice [
      nt "identifier", nt "this", queriedSubscript, queriedMember, queriedCall]),
    choice [".", "?."],
    field "property" (choice [
      nt "private_property_identifier",
      renamed "property_identifier" (nt "identifier")])]),
  ("_type_query_subscript_expression", seq [
    field "object" (choice [
      nt "identifier", nt "this", queriedSubscript, queriedMember, queriedCall]),
    opt "?.", "[",
    field "index" (choice [nt "predefined_type", nt "string", nt "number"]), "]"]),
  ("_type_query_call_expression", seq [
    field "function" (choice [
      nt "import", nt "identifier", queriedMember, queriedSubscript]),
    field "arguments" (nt "arguments")]),
  ("_type_query_instantiation_expression", seq [
    field "function" (choice [
      nt "import", nt "identifier", queriedMember, queriedSubscript]),
    field "type_arguments" (nt "type_arguments")]),
  ("type_query", precRight 0 (seq [
    "typeof",
    choice [
      queriedSubscript, queriedMember, queriedCall,
      renamed "instantiation_expression" (nt "_type_query_instantiation_expression"),
      nt "identifier", nt "this"]])),
  ("index_type_query", seq ["keyof", nt "primary_type"]),
  ("lookup_type", seq [nt "primary_type", "[", nt "type", "]"]),
  ("mapped_type_clause", seq [
    field "name" typeIdentifier, "in", field "type" (nt "type"),
    opt (seq ["as", field "alias" (nt "type")])]),
  ("literal_type", choice [
    renamed "unary_expression" (nt "_number"), nt "number", nt "string", nt "true",
    nt "false", nt "null", nt "undefined"]),
  ("_number", precLeft 1 (seq [
    field "operator" (choice ["-", "+"]), field "argument" (nt "number")])),
  ("existential_type", .literal "*"),
  ("flow_maybe_type", precRight 0 (seq ["?", nt "primary_type"])),
  ("parenthesized_type", seq ["(", nt "type", ")"]),
  ("predefined_type", choice [
    "any", "number", "boolean", "string", "symbol",
    shownAs "unique symbol" (seq ["unique", "symbol"]), "void", "unknown", "string",
    "never", "object"]),
  ("type_arguments", seq ["<", commaSep1 (nt "type"), trailingComma, ">"]),
  ("object_type", seq [
    choice [openBrace, "\x7b|"],
    opt (seq [
      opt (choice [",", ";"]),
      sepBy1 (choice [",", semicolon]) (choice [
        nt "export_statement", nt "property_signature", nt "call_signature",
        nt "construct_signature", nt "index_signature", nt "method_signature"]),
      opt (choice [",", semicolon])]),
    choice [closeBrace, "|\x7d"]]),
  ("call_signature", nt "_call_signature"),
  ("property_signature", seq [
    accessibility, opt "static", override, opt "readonly", field "name" propertyName,
    opt "?", typeAnnotation]),
  ("type_parameters", seq ["<", commaSep1 (nt "type_parameter"), trailingComma, ">"]),
  ("type_parameter", seq [
    opt "const", field "name" typeIdentifier, field "constraint" (opt (nt "constraint")),
    field "value" (opt (nt "default_type"))]),
  ("default_type", seq ["=", nt "type"]),
  ("constraint", seq [choice ["extends", ":"], nt "type"]),
  ("construct_signature", seq [
    opt "abstract", "new", typeParameters, field "parameters" (nt "formal_parameters"),
    typeAnnotation]),
  ("index_signature", seq [
    opt (seq [field "sign" (opt (choice ["-", "+"])), "readonly"]),
    "[",
    choice [
      seq [
        field "name" (choice [nt "identifier", reserved]), ":",
        field "index_type" (nt "type")],
      nt "mapped_type_clause"],
    "]",
    field "type" (choice [
      nt "type_annotation", nt "omitting_type_annotation", nt "adding_type_annotation",
      nt "opting_type_annotation"])]),
  ("array_type", seq [nt "primary_type", "[", "]"]),
  ("tuple_type", seq ["[", commaSep (nt "_tuple_type_member"), trailingComma, "]"]),
  ("readonly_type", seq ["readonly", nt "type"]),
  ("union_type", precLeft 0 (seq [opt (nt "type"), "|", nt "type"])),
  ("intersection_type", precLeft 0 (seq [opt (nt "type"), "&", nt "type"])),
  ("function_type", precLeft 0 (seq [
    typeParameters, field "parameters" (nt "formal_parameters"), "=>",
    field "return_type" (choice [nt "type", nt "asserts", nt "type_predicate"])])),
  ("_type_identifier", renamed "type_identifier" (nt "identifier"))]

end CodeIndex.Grammars.TypeScript
