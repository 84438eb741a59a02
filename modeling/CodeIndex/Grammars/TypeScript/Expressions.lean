import CodeIndex.Grammars.TypeScript.Statements

/-!
# Expressions and patterns of TypeScript

Markup in expressions belongs to the dialect with markup only; type assertions in angle brackets
belong to the dialect without it.
-/

namespace CodeIndex.Grammars.TypeScript

open CodeIndex.Grammar

/-- The kinds of expression. -/
def expressionKinds (markup : Bool) : List Rule :=
  [nt "as_expression", nt "satisfies_expression", nt "instantiation_expression",
    nt "internal_module"] ++
  (if markup then [] else [nt "type_assertion"]) ++
  [nt "primary_expression"] ++
  (if markup then [nt "_jsx_element"] else []) ++
  [nt "assignment_expression", nt "augmented_assignment_expression", nt "await_expression",
    nt "unary_expression", nt "binary_expression", nt "ternary_expression",
    nt "update_expression", nt "new_expression", nt "yield_expression"]

def values (markup : Bool) : List (String × Rule) := [
  ("parenthesized_expression", seq [
    "(",
    choice [seq [expression, typeAnnotation], nt "sequence_expression"],
    ")"]),
  ("_expressions", choice [expression, nt "sequence_expression"]),
  ("expression", choice (expressionKinds markup)),
  ("primary_expression", choice [
    choice [
      nt "subscript_expression", nt "member_expression", nt "parenthesized_expression",
      nt "_identifier", reserved, nt "this", nt "super", nt "number", nt "string",
      nt "template_string", nt "regex", nt "true", nt "false", nt "null", nt "object",
      nt "array", nt "function_expression", nt "arrow_function", nt "generator_function",
      nt "class", nt "meta_property", nt "call_expression"],
    nt "non_null_expression"]),
  ("yield_expression", precRight 0 (seq [
    "yield", choice [seq ["*", expression], opt expression]])),
  ("object", prec "object" (seq [
    openBrace,
    looseList (choice [
      nt "pair", nt "spread_element", nt "method_definition",
      renamed "shorthand_property_identifier" anyIdentifier]),
    closeBrace])),
  ("object_pattern", prec "object" (seq [
    openBrace,
    looseList (choice [
      nt "pair_pattern", nt "rest_pattern", nt "object_assignment_pattern",
      renamed "shorthand_property_identifier_pattern" anyIdentifier]),
    closeBrace])),
  ("assignment_pattern", seq [
    field "left" (nt "pattern"), "=", field "right" expression]),
  ("object_assignment_pattern", seq [
    field "left" (choice [
      renamed "shorthand_property_identifier_pattern"
        (choice [nt "_reserved_identifier", nt "identifier"]),
      nt "_destructuring_pattern"]),
    "=", field "right" expression]),
  ("array", seq ["[", looseList (choice [expression, nt "spread_element"]), "]"]),
  ("array_pattern", seq [
    "[", looseList (choice [nt "pattern", nt "assignment_pattern"]), "]"])]

/-- Markup in expressions. -/
def markupRules : List (String × Rule) := [
  ("jsx_element", seq [
    field "open_tag" (nt "jsx_opening_element"), many (nt "_jsx_child"),
    field "close_tag" (nt "jsx_closing_element")]),
  ("html_character_reference", characterReference),
  ("jsx_expression", seq [
    openBrace,
    opt (choice [expression, nt "sequence_expression", nt "spread_element"]),
    closeBrace]),
  ("_jsx_child", choice [
    nt "jsx_text", nt "html_character_reference", nt "_jsx_element", nt "jsx_expression"]),
  ("jsx_opening_element", dynamic (-1) (seq [nt "_jsx_start_opening_element", ">"])),
  ("jsx_identifier", hyphenatedPattern),
  ("_jsx_identifier", choice [
    renamed "identifier" (nt "jsx_identifier"), nt "identifier"]),
  ("jsx_namespace_name", seq [nt "_jsx_identifier", ":", nt "_jsx_identifier"]),
  ("_jsx_element_name", choice [
    nt "_jsx_identifier", renamed "member_expression" (nt "nested_identifier"),
    nt "jsx_namespace_name"]),
  ("jsx_closing_element", seq [
    "</", opt (field "name" (nt "_jsx_element_name")), ">"]),
  ("jsx_self_closing_element", dynamic (-1) (seq [nt "_jsx_start_opening_element", "/>"])),
  ("_jsx_attribute", choice [nt "jsx_attribute", nt "jsx_expression"]),
  ("_jsx_attribute_name", choice [
    renamed "property_identifier" (nt "_jsx_identifier"), nt "jsx_namespace_name"]),
  ("jsx_attribute", seq [
    nt "_jsx_attribute_name", opt (seq ["=", nt "_jsx_attribute_value"])]),
  ("_jsx_string", choice [
    seq [
      "\"",
      many (choice [
        renamed "string_fragment" (nt "unescaped_double_jsx_string_fragment"),
        nt "html_character_reference"]),
      "\""],
    seq [
      "'",
      many (choice [
        renamed "string_fragment" (nt "unescaped_single_jsx_string_fragment"),
        nt "html_character_reference"]),
      "'"]]),
  ("unescaped_double_jsx_string_fragment", attributeText '"'),
  ("unescaped_single_jsx_string_fragment", attributeText '\''),
  ("_jsx_attribute_value", choice [
    renamed "string" (nt "_jsx_string"), nt "jsx_expression", nt "_jsx_element"]),
  ("_jsx_element", choice [nt "jsx_element", nt "jsx_self_closing_element"]),
  ("_jsx_start_opening_element", seq [
    "<",
    opt (seq [
      choice [
        field "name" (choice [nt "_jsx_identifier", nt "jsx_namespace_name"]),
        seq [
          field "name" (choice [
            nt "identifier", renamed "member_expression" (nt "nested_identifier")]),
          typeArguments]],
      many (field "attribute" (nt "_jsx_attribute"))])])]

def binaryLeft (p : String) (operator : String) : Rule :=
  precLeft p (seq [
    field "left" expression, field "operator" operator, field "right" expression])

def functions : List (String × Rule) := [
  ("nested_identifier", prec "member" (seq [
    field "object" (choice [
      nt "identifier", renamed "member_expression" (nt "nested_identifier")]),
    ".", field "property" (renamed "property_identifier" (nt "identifier"))])),
  ("class", prec "literal" (seq [
    decorators, "class", field "name" (opt typeIdentifier), typeParameters,
    opt (nt "class_heritage"), field "body" (nt "class_body")])),
  ("class_declaration", precLeft "declare" (seq [
    decorators, "class", field "name" typeIdentifier, typeParameters,
    opt (nt "class_heritage"), field "body" (nt "class_body"), insertedSemicolon])),
  ("class_heritage", choice [
    seq [nt "extends_clause", opt (nt "implements_clause")],
    nt "implements_clause"]),
  ("function_expression", prec "literal" (seq [
    opt "async", "function", field "name" (opt (nt "identifier")), nt "_call_signature",
    field "body" (nt "statement_block")])),
  ("function_declaration", precRight "declare" (seq [
    opt "async", "function", field "name" (nt "identifier"), nt "_call_signature",
    field "body" (nt "statement_block"), insertedSemicolon])),
  ("generator_function", prec "literal" (seq [
    opt "async", "function", "*", field "name" (opt (nt "identifier")),
    nt "_call_signature", field "body" (nt "statement_block")])),
  ("generator_function_declaration", precRight "declare" (seq [
    opt "async", "function", "*", field "name" (nt "identifier"), nt "_call_signature",
    field "body" (nt "statement_block"), insertedSemicolon])),
  ("arrow_function", seq [
    opt "async",
    choice [
      field "parameter" (choice [reserved, nt "identifier"]),
      nt "_call_signature"],
    "=>", field "body" (choice [expression, nt "statement_block"])]),
  ("_call_signature", seq [
    typeParameters, field "parameters" (nt "formal_parameters"),
    field "return_type" (opt (choice [
      nt "type_annotation", nt "asserts_annotation", nt "type_predicate_annotation"]))]),
  ("_formal_parameter", choice [nt "required_parameter", nt "optional_parameter"]),
  ("optional_chain", .literal "?."),
  ("call_expression", choice [
    prec "call" (seq [
      field "function" (choice [expression, nt "import"]), typeArguments,
      field "arguments" (nt "arguments")]),
    prec "template_call" (seq [
      field "function" (choice [nt "primary_expression", nt "new_expression"]),
      field "arguments" (nt "template_string")]),
    prec "member" (seq [
      field "function" (nt "primary_expression"), "?.", typeArguments,
      field "arguments" (nt "arguments")])]),
  ("new_expression", precRight "new" (seq [
    "new", field "constructor" (nt "primary_expression"), typeArguments,
    field "arguments" (opt (nt "arguments"))])),
  ("await_expression", prec "unary_void" (seq ["await", expression])),
  ("member_expression", prec "member" (seq [
    field "object" (choice [expression, nt "primary_expression", nt "import"]),
    choice [".", field "optional_chain" (nt "optional_chain")],
    field "property" (choice [
      nt "private_property_identifier",
      renamed "property_identifier" (nt "identifier")])])),
  ("subscript_expression", precRight "member" (seq [
    field "object" (choice [expression, nt "primary_expression"]),
    opt (field "optional_chain" (nt "optional_chain")),
    "[", field "index" (nt "_expressions"), "]"])),
  ("_lhs_expression", choice [
    choice [
      nt "member_expression", nt "subscript_expression", nt "_identifier", reserved,
      nt "_destructuring_pattern"],
    nt "non_null_expression"]),
  ("assignment_expression", precRight "assign" (seq [
    opt "using",
    field "left" (choice [nt "parenthesized_expression", nt "_lhs_expression"]),
    "=", field "right" expression])),
  ("_augmented_assignment_lhs", choice [
    choice [
      nt "member_expression", nt "subscript_expression", reserved, nt "identifier",
      nt "parenthesized_expression"],
    nt "non_null_expression"]),
  ("augmented_assignment_expression", precRight "assign" (seq [
    field "left" (nt "_augmented_assignment_lhs"),
    field "operator" (choice [
      "+=", "-=", "*=", "/=", "%=", "^=", "&=", "|=", ">>=", ">>>=", "<<=", "**=", "&&=",
      "||=", "??="]),
    field "right" expression])),
  ("_initializer", seq ["=", field "value" expression]),
  ("_destructuring_pattern", choice [nt "object_pattern", nt "array_pattern"]),
  ("spread_element", seq ["...", expression]),
  ("ternary_expression", precRight "ternary" (seq [
    field "condition" expression, shownAs "?" (nt "_ternary_qmark"),
    field "consequence" expression, ":", field "alternative" expression])),
  ("binary_expression", choice [
    binaryLeft "logical_and" "&&", binaryLeft "logical_or" "||",
    binaryLeft "binary_shift" ">>", binaryLeft "binary_shift" ">>>",
    binaryLeft "binary_shift" "<<", binaryLeft "bitwise_and" "&",
    binaryLeft "bitwise_xor" "^", binaryLeft "bitwise_or" "|",
    binaryLeft "binary_plus" "+", binaryLeft "binary_plus" "-",
    binaryLeft "binary_times" "*", binaryLeft "binary_times" "/",
    binaryLeft "binary_times" "%",
    precRight "binary_exp" (seq [
      field "left" expression, field "operator" "**", field "right" expression]),
    binaryLeft "binary_relation" "<", binaryLeft "binary_relation" "<=",
    binaryLeft "binary_equality" "==", binaryLeft "binary_equality" "===",
    binaryLeft "binary_equality" "!=", binaryLeft "binary_equality" "!==",
    binaryLeft "binary_relation" ">=", binaryLeft "binary_relation" ">",
    binaryLeft "ternary" "??", binaryLeft "binary_relation" "instanceof",
    precLeft "binary_relation" (seq [
      field "left" (choice [expression, nt "private_property_identifier"]),
      field "operator" "in", field "right" expression])]),
  ("unary_expression", precLeft "unary_void" (seq [
    field "operator" (choice ["!", "~", "-", "+", "typeof", "void", "delete"]),
    field "argument" expression])),
  ("update_expression", precLeft 0 (choice [
    seq [field "argument" expression, field "operator" (choice ["++", "--"])],
    seq [field "operator" (choice ["++", "--"]), field "argument" expression]])),
  ("sequence_expression", precRight 0 (commaSep1 expression))]

def stringOf (quote : String) (fragment : String) : Rule :=
  seq [
    .literal quote,
    many (choice [renamed "string_fragment" (nt fragment), nt "escape_sequence"]),
    .literal quote]

def literals : List (String × Rule) := [
  ("string", choice [
    stringOf "\"" "unescaped_double_string_fragment",
    stringOf "'" "unescaped_single_string_fragment"]),
  ("unescaped_double_string_fragment", doubleQuoted),
  ("unescaped_single_string_fragment", singleQuoted),
  ("escape_sequence", immediate escapePattern),
  ("comment", token commentPattern),
  ("template_string", seq [
    backquote,
    many (choice [
      renamed "string_fragment" (nt "_template_chars"), nt "escape_sequence",
      nt "template_substitution"]),
    backquote]),
  ("template_substitution", seq [openSubstitution, nt "_expressions", closeBrace]),
  ("regex", seq [
    "/", field "pattern" (nt "regex_pattern"), immediate (prec 1 "/"),
    opt (field "flags" (nt "regex_flags"))]),
  ("regex_pattern", immediate (prec (-1) regexPattern)),
  ("regex_flags", regexFlags),
  ("number", token numberPattern),
  ("_identifier", choice [nt "undefined", nt "identifier"]),
  ("identifier", token identifierPattern),
  ("private_property_identifier", token privatePattern),
  ("meta_property", choice [seq ["new", ".", "target"], seq ["import", ".", "meta"]]),
  ("this", .literal "this"),
  ("super", .literal "super"),
  ("true", .literal "true"),
  ("false", .literal "false"),
  ("null", .literal "null"),
  ("undefined", .literal "undefined")]

def components : List (String × Rule) := [
  ("arguments", seq ["(", looseList (choice [expression, nt "spread_element"]), ")"]),
  ("decorator", seq [
    "@",
    choice [
      nt "identifier", renamed "member_expression" (nt "decorator_member_expression"),
      renamed "call_expression" (nt "decorator_call_expression")]]),
  ("decorator_member_expression", prec "member" (seq [
    field "object" (choice [
      nt "identifier", renamed "member_expression" (nt "decorator_member_expression")]),
    ".", field "property" (renamed "property_identifier" (nt "identifier"))])),
  ("decorator_call_expression", prec "call" (seq [
    field "function" (choice [
      nt "identifier", renamed "member_expression" (nt "decorator_member_expression")]),
    typeArguments, field "arguments" (nt "arguments")])),
  ("class_body", seq [
    openBrace,
    many (choice [
      seq [decorators, nt "method_definition", opt semicolon],
      seq [
        nt "method_signature",
        choice [nt "_function_signature_automatic_semicolon", ","]],
      nt "class_static_block",
      seq [
        choice [
          nt "abstract_method_signature", nt "index_signature", nt "method_signature",
          nt "public_field_definition"],
        choice [semicolon, ","]],
      ";"]),
    closeBrace]),
  ("formal_parameters", seq [
    "(", opt (seq [commaSep1 (nt "_formal_parameter"), trailingComma]), ")"]),
  ("class_static_block", seq ["static", field "body" (nt "statement_block")]),
  ("pattern", dynamic (-1) (choice [nt "_lhs_expression", nt "rest_pattern"])),
  ("rest_pattern", precRight 0 (seq ["...", nt "_lhs_expression"])),
  ("method_definition", precLeft 0 (seq [
    accessibility, opt "static", override, opt "readonly", opt "async", accessor,
    field "name" propertyName, opt "?", nt "_call_signature",
    field "body" (nt "statement_block")])),
  ("pair", seq [field "key" propertyName, ":", field "value" expression]),
  ("pair_pattern", seq [
    field "key" propertyName, ":",
    field "value" (choice [nt "pattern", nt "assignment_pattern"])]),
  ("_property_name", choice [
    renamed "property_identifier" anyIdentifier, nt "private_property_identifier",
    nt "string", nt "number", nt "computed_property_name"]),
  ("computed_property_name", seq ["[", expression, "]"]),
  ("_reserved_identifier", choice [
    "declare", "namespace", "type", "public", "private", "protected", "override",
    "readonly", "module", "any", "number", "boolean", "string", "symbol", "export",
    "object", "new", "readonly",
    choice ["get", "set", "async", "static", "export", "let"]]),
  ("_semicolon", choice [nt "_automatic_semicolon", ";"])]

end CodeIndex.Grammars.TypeScript
