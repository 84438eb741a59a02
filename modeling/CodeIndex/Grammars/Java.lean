import CodeIndex.Parsing.Lexer

/-!
# The grammar of Java
-/

namespace CodeIndex.Grammars.Java

open CodeIndex.Grammar

/-! ## Tokens -/

def sepDigits (d : Pattern) : Pattern :=
  .ofSeq [.plus d, .star (.ofSeq [.char '_', .plus d])]

/-- Digits with any number of underscores between groups. -/
def looseDigits : Pattern :=
  .ofAlt [
    .char '0',
    .ofSeq [
      .range '1' '9',
      .opt (.ofSeq [
        .opt (.char '_'), .plus .digit,
        .star (.ofSeq [.plus (.char '_'), .plus .digit])])]]

def decimalDigits : Pattern := sepDigits .digit

def hexDigits : Pattern := sepDigits .hexDigit

def long (p : Pattern) : Pattern := .ofSeq [p, .opt (.oneOf "lL")]

def exponent : Pattern := .ofSeq [.oneOf "eE", .opt (.oneOf "-+"), decimalDigits]

def floatSuffix : Pattern := .oneOf "fFdD"

def decimalFloat : Pattern :=
  .ofAlt [
    .ofSeq [decimalDigits, .char '.', .opt decimalDigits, .opt exponent, .opt floatSuffix],
    .ofSeq [.char '.', decimalDigits, .opt exponent, .opt floatSuffix],
    .ofSeq [looseDigits, exponent, .opt floatSuffix],
    .ofSeq [looseDigits, .opt exponent, floatSuffix]]

def hexFloat : Pattern :=
  .ofSeq [
    .ofAlt [.word "0x", .word "0X"],
    .ofAlt [
      .ofSeq [hexDigits, .opt (.char '.')],
      .ofSeq [.opt hexDigits, .char '.', hexDigits]],
    .opt (.ofSeq [
      .oneOf "pP", .opt (.oneOf "-+"), decimalDigits, .opt floatSuffix])]

def characterPattern : Pattern :=
  .ofSeq [
    .char '\'',
    .plus (.ofAlt [
      .noneOf "\\'\n",
      .ofSeq [.char '\\', .noneOf "\n"],
      .word "\\\n"]),
    .char '\'']

def escapePattern : Pattern :=
  .ofSeq [
    .char '\\',
    .ofAlt [
      .one (.compl (.union (.range '0' '7') (.ofList ['x', 'u']))),
      .upTo (.range '0' '7') 1 2,
      .ofSeq [.char 'x', .times .hexDigit 2],
      .ofSeq [.char 'u', .times .hexDigit 4],
      .ofSeq [.word "u\x7b", .plus .hexDigit, .char '\x7d']]]

def identifierPattern : Pattern :=
  .ofSeq [
    .one (.union .identifierStart (.ofList ['_', '$'])),
    .star (.one (.union .identifierContinue (.ofList ['\u00a2', '_', '$'])))]

def blockComment : Pattern :=
  .ofSeq [
    .word "/*", .star (.noneOf "*"), .plus (.char '*'),
    .star (.ofSeq [.noneOf "/*", .star (.noneOf "*"), .plus (.char '*')]), .char '/']

/-! ## Rules -/

def openBrace : Rule := "\x7b"
def closeBrace : Rule := "\x7d"

def anyIdentifier : Rule := choice [nt "identifier", nt "_reserved_identifier"]

def typeIdentifier : Rule := renamed "type_identifier" (nt "identifier")

def annotations : Rule := many (nt "_annotation")

/-- Text inside a multiline string. -/
def fragment : Rule := (.plus (.noneOf "\"\\") : Pattern)

/-- A quote inside a multiline string and the text after it. -/
def quotedFragment : Rule := (.ofSeq [.char '"', .star (.noneOf "\"\\")] : Pattern)

def toplevel : List (String × Rule) := [
  ("program", many (nt "_toplevel_statement")),
  ("_toplevel_statement", choice [nt "statement", nt "method_declaration"]),
  ("_literal", choice [
    nt "decimal_integer_literal", nt "hex_integer_literal", nt "octal_integer_literal",
    nt "binary_integer_literal", nt "decimal_floating_point_literal",
    nt "hex_floating_point_literal", nt "true", nt "false", nt "character_literal",
    nt "string_literal", nt "null_literal"]),
  ("decimal_integer_literal", token (long looseDigits)),
  ("hex_integer_literal", token (long (.ofSeq [.ofAlt [.word "0x", .word "0X"], hexDigits]))),
  ("octal_integer_literal", token (long (.ofSeq [
    .ofAlt [.word "0o", .word "0O", .char '0'], sepDigits (.range '0' '7')]))),
  ("binary_integer_literal", token (long (.ofSeq [
    .ofAlt [.word "0b", .word "0B"], sepDigits (.oneOf "01")]))),
  ("decimal_floating_point_literal", token decimalFloat),
  ("hex_floating_point_literal", token hexFloat),
  ("true", "true"),
  ("false", "false"),
  ("character_literal", token characterPattern),
  ("string_literal", choice [nt "_string_literal", nt "_multiline_string_literal"]),
  ("_string_literal", seq [
    "\"",
    many (choice [nt "string_fragment", nt "escape_sequence", nt "string_interpolation"]),
    "\""]),
  ("_multiline_string_literal", seq [
    "\"\"\"",
    many (choice [
      renamed "multiline_string_fragment" (nt "_multiline_string_fragment"),
      nt "_escape_sequence", nt "string_interpolation"]),
    "\"\"\""]),
  ("string_fragment", immediate (prec 1 (.plus (.noneOf "\"\\") : Pattern))),
  ("_multiline_string_fragment", choice [fragment, seq [quotedFragment, many fragment]]),
  ("string_interpolation", seq ["\\\x7b", nt "expression", closeBrace]),
  ("_escape_sequence", choice [
    prec 2 (immediate (.ofSeq [.char '\\', .noneOf "bfnrts'\"\\"] : Pattern)),
    prec 1 (nt "escape_sequence")]),
  ("escape_sequence", immediate escapePattern),
  ("null_literal", "null")]

def binary (p : Precedence) (operator : Rule) : Rule :=
  precLeft p (seq [
    field "left" (nt "expression"), field "operator" operator, field "right" (nt "expression")])

def unary (operator : Rule) : Rule :=
  precLeft 15 (seq [field "operator" operator, field "operand" (nt "expression")])

def expressions : List (String × Rule) := [
  ("expression", choice [
    nt "assignment_expression", nt "binary_expression", nt "instanceof_expression",
    nt "lambda_expression", nt "ternary_expression", nt "update_expression",
    nt "primary_expression", nt "unary_expression", nt "cast_expression",
    nt "switch_expression"]),
  ("cast_expression", prec 14 (choice [
    seq ["(", field "type" (nt "_type"), ")", field "value" (nt "expression")],
    seq [
      "(", sepBy1 "&" (field "type" (nt "_type")), ")",
      field "value" (choice [nt "primary_expression", nt "lambda_expression"])]])),
  ("assignment_expression", precRight 1 (seq [
    field "left" (choice [
      nt "identifier", nt "_reserved_identifier", nt "field_access", nt "array_access"]),
    field "operator" (choice [
      "=", "+=", "-=", "*=", "/=", "&=", "|=", "^=", "%=", "<<=", ">>=", ">>>="]),
    field "right" (nt "expression")])),
  ("binary_expression", choice [
    binary 10 ">", binary 10 "<", binary 10 ">=", binary 10 "<=", binary 9 "==", binary 9 "!=",
    binary 5 "&&", binary 4 "||", binary 12 "+", binary 12 "-", binary 13 "*", binary 13 "/",
    binary 8 "&", binary 6 "|", binary 7 "^", binary 13 "%", binary 11 "<<", binary 11 ">>",
    binary 11 ">>>"]),
  ("instanceof_expression", prec 10 (seq [
    field "left" (nt "expression"), "instanceof", opt "final",
    choice [
      seq [field "right" (nt "_type"), opt (field "name" anyIdentifier)],
      field "pattern" (nt "record_pattern")]])),
  ("lambda_expression", seq [
    field "parameters" (choice [
      nt "identifier", nt "_reserved_identifier", nt "formal_parameters",
      nt "inferred_parameters"]),
    "->",
    field "body" (choice [nt "expression", nt "block"])]),
  ("inferred_parameters", seq ["(", commaSep1 anyIdentifier, ")"]),
  ("ternary_expression", precRight 3 (seq [
    field "condition" (nt "expression"), "?", field "consequence" (nt "expression"), ":",
    field "alternative" (nt "expression")])),
  ("unary_expression", choice [unary "+", unary "-", unary "!", unary "~"]),
  ("update_expression", precLeft 15 (choice [
    seq [nt "expression", "++"], seq [nt "expression", "--"],
    seq ["++", nt "expression"], seq ["--", nt "expression"]])),
  ("primary_expression", choice [
    nt "_literal", nt "class_literal", nt "this", nt "identifier", nt "_reserved_identifier",
    nt "parenthesized_expression", nt "object_creation_expression", nt "field_access",
    nt "array_access", nt "method_invocation", nt "method_reference",
    nt "array_creation_expression", nt "template_expression"]),
  ("array_creation_expression", precRight 0 (seq [
    "new", annotations, field "type" (nt "_simple_type"),
    choice [
      seq [
        field "dimensions" (many1 (nt "dimensions_expr")),
        field "dimensions" (opt (nt "dimensions"))],
      seq [field "dimensions" (nt "dimensions"), field "value" (nt "array_initializer")]]])),
  ("dimensions_expr", seq [annotations, "[", nt "expression", "]"]),
  ("parenthesized_expression", seq ["(", nt "expression", ")"]),
  ("class_literal", dynamic 17 (seq [nt "_unannotated_type", ".", "class"])),
  ("object_creation_expression", choice [
    nt "_unqualified_object_creation_expression",
    seq [nt "primary_expression", ".", nt "_unqualified_object_creation_expression"]]),
  ("_unqualified_object_creation_expression", precRight 0 (seq [
    "new",
    choice [
      seq [annotations, field "type_arguments" (nt "type_arguments"), annotations],
      annotations],
    field "type" (nt "_simple_type"),
    field "arguments" (nt "argument_list"),
    opt (nt "class_body")])),
  ("field_access", seq [
    field "object" (choice [nt "primary_expression", nt "super"]),
    opt (seq [".", nt "super"]),
    ".",
    field "field" (choice [nt "identifier", nt "_reserved_identifier", nt "this"])]),
  ("template_expression", seq [
    field "template_processor" (nt "primary_expression"), ".",
    field "template_argument" (nt "string_literal")]),
  ("array_access", seq [
    field "array" (nt "primary_expression"), "[", field "index" (nt "expression"), "]"]),
  ("method_invocation", seq [
    choice [
      field "name" anyIdentifier,
      seq [
        field "object" (choice [nt "primary_expression", nt "super"]),
        ".",
        opt (seq [nt "super", "."]),
        field "type_arguments" (opt (nt "type_arguments")),
        field "name" anyIdentifier]],
    field "arguments" (nt "argument_list")]),
  ("argument_list", seq ["(", commaSep (nt "expression"), ")"]),
  ("method_reference", seq [
    choice [nt "_type", nt "primary_expression", nt "super"],
    "::", opt (nt "type_arguments"), choice ["new", nt "identifier"]]),
  ("type_arguments", seq ["<", commaSep (choice [nt "_type", nt "wildcard"]), ">"]),
  ("wildcard", seq [annotations, "?", opt (nt "_wildcard_bounds")]),
  ("_wildcard_bounds", choice [seq ["extends", nt "_type"], seq [nt "super", nt "_type"]]),
  ("dimensions", precRight 0 (many1 (seq [annotations, "[", "]"]))),
  ("switch_expression", seq [
    "switch", field "condition" (nt "parenthesized_expression"), field "body" (nt "switch_block")]),
  ("switch_block", seq [
    openBrace,
    choice [many (nt "switch_block_statement_group"), many (nt "switch_rule")],
    closeBrace]),
  ("switch_block_statement_group", precLeft 0 (seq [
    many1 (seq [nt "switch_label", ":"]), many (nt "statement")])),
  ("switch_rule", seq [
    nt "switch_label", "->",
    choice [nt "expression_statement", nt "throw_statement", nt "block"]]),
  ("switch_label", choice [
    seq ["case", choice [nt "pattern", commaSep1 (nt "expression")], opt (nt "guard")],
    "default"]),
  ("pattern", choice [nt "type_pattern", nt "record_pattern"]),
  ("type_pattern", seq [nt "_unannotated_type", anyIdentifier]),
  ("record_pattern", seq [
    choice [nt "identifier", nt "_reserved_identifier", nt "generic_type"],
    nt "record_pattern_body"]),
  ("record_pattern_body", seq [
    "(", commaSep (choice [nt "record_pattern_component", nt "record_pattern"]), ")"]),
  ("record_pattern_component", choice [
    nt "underscore_pattern", seq [nt "_unannotated_type", anyIdentifier]]),
  ("underscore_pattern", "_"),
  ("guard", seq ["when", nt "expression"])]

def statements : List (String × Rule) := [
  ("statement", choice [
    nt "declaration", nt "expression_statement", nt "labeled_statement", nt "if_statement",
    nt "while_statement", nt "for_statement", nt "enhanced_for_statement", nt "block", ";",
    nt "assert_statement", nt "do_statement", nt "break_statement", nt "continue_statement",
    nt "return_statement", nt "yield_statement", nt "switch_expression",
    nt "synchronized_statement", nt "local_variable_declaration", nt "throw_statement",
    nt "try_statement", nt "try_with_resources_statement"]),
  ("block", seq [openBrace, many (nt "statement"), closeBrace]),
  ("expression_statement", seq [nt "expression", ";"]),
  ("labeled_statement", seq [nt "identifier", ":", nt "statement"]),
  ("assert_statement", choice [
    seq ["assert", nt "expression", ";"],
    seq ["assert", nt "expression", ":", nt "expression", ";"]]),
  ("do_statement", seq [
    "do", field "body" (nt "statement"), "while",
    field "condition" (nt "parenthesized_expression"), ";"]),
  ("break_statement", seq ["break", opt (nt "identifier"), ";"]),
  ("continue_statement", seq ["continue", opt (nt "identifier"), ";"]),
  ("return_statement", seq ["return", opt (nt "expression"), ";"]),
  ("yield_statement", seq ["yield", nt "expression", ";"]),
  ("synchronized_statement", seq [
    "synchronized", nt "parenthesized_expression", field "body" (nt "block")]),
  ("throw_statement", seq ["throw", nt "expression", ";"]),
  ("try_statement", seq [
    "try", field "body" (nt "block"),
    choice [
      many1 (nt "catch_clause"),
      seq [many (nt "catch_clause"), nt "finally_clause"]]]),
  ("catch_clause", seq ["catch", "(", nt "catch_formal_parameter", ")", field "body" (nt "block")]),
  ("catch_formal_parameter", seq [
    opt (nt "modifiers"), nt "catch_type", nt "_variable_declarator_id"]),
  ("catch_type", sepBy1 "|" (nt "_unannotated_type")),
  ("finally_clause", seq ["finally", nt "block"]),
  ("try_with_resources_statement", seq [
    "try", field "resources" (nt "resource_specification"), field "body" (nt "block"),
    many (nt "catch_clause"), opt (nt "finally_clause")]),
  ("resource_specification", seq ["(", sepBy1 ";" (nt "resource"), opt ";", ")"]),
  ("resource", choice [
    seq [
      opt (nt "modifiers"), field "type" (nt "_unannotated_type"), nt "_variable_declarator_id",
      "=", field "value" (nt "expression")],
    nt "identifier",
    nt "field_access"]),
  ("if_statement", precRight 0 (seq [
    "if", field "condition" (nt "parenthesized_expression"),
    field "consequence" (nt "statement"),
    opt (seq ["else", field "alternative" (nt "statement")])])),
  ("while_statement", seq [
    "while", field "condition" (nt "parenthesized_expression"), field "body" (nt "statement")]),
  ("for_statement", seq [
    "for", "(",
    choice [
      field "init" (nt "local_variable_declaration"),
      seq [commaSep (field "init" (nt "expression")), ";"]],
    field "condition" (opt (nt "expression")), ";",
    commaSep (field "update" (nt "expression")), ")",
    field "body" (nt "statement")]),
  ("enhanced_for_statement", seq [
    "for", "(", opt (nt "modifiers"), field "type" (nt "_unannotated_type"),
    nt "_variable_declarator_id", ":", field "value" (nt "expression"), ")",
    field "body" (nt "statement")]),
  ("_annotation", choice [nt "marker_annotation", nt "annotation"]),
  ("marker_annotation", seq ["@", field "name" (nt "_name")]),
  ("annotation", seq [
    "@", field "name" (nt "_name"), field "arguments" (nt "annotation_argument_list")]),
  ("annotation_argument_list", seq [
    "(", choice [nt "_element_value", commaSep (nt "element_value_pair")], ")"]),
  ("element_value_pair", seq [
    field "key" anyIdentifier, "=", field "value" (nt "_element_value")]),
  ("_element_value", prec 2 (choice [
    nt "expression", nt "element_value_array_initializer", nt "_annotation"])),
  ("element_value_array_initializer", seq [
    openBrace, commaSep (nt "_element_value"), opt ",", closeBrace])]

def declarations : List (String × Rule) := [
  ("declaration", prec 2 (choice [
    nt "module_declaration", nt "package_declaration", nt "import_declaration",
    nt "class_declaration", nt "record_declaration", nt "interface_declaration",
    nt "annotation_type_declaration", nt "enum_declaration"])),
  ("module_declaration", seq [
    annotations, opt "open", "module", field "name" (nt "_name"),
    field "body" (nt "module_body")]),
  ("module_body", seq [openBrace, many (nt "module_directive"), closeBrace]),
  ("module_directive", choice [
    nt "requires_module_directive", nt "exports_module_directive", nt "opens_module_directive",
    nt "uses_module_directive", nt "provides_module_directive"]),
  ("requires_module_directive", seq [
    "requires", many (field "modifiers" (nt "requires_modifier")), field "module" (nt "_name"),
    ";"]),
  ("requires_modifier", choice ["transitive", "static"]),
  ("exports_module_directive", seq [
    "exports", field "package" (nt "_name"),
    opt (seq ["to", field "modules" (nt "_name"), many (seq [",", field "modules" (nt "_name")])]),
    ";"]),
  ("opens_module_directive", seq [
    "opens", field "package" (nt "_name"),
    opt (seq ["to", field "modules" (nt "_name"), many (seq [",", field "modules" (nt "_name")])]),
    ";"]),
  ("uses_module_directive", seq ["uses", field "type" (nt "_name"), ";"]),
  ("provides_module_directive", seq [
    "provides", field "provided" (nt "_name"), "with", nt "_name",
    many (seq [",", field "provider" (nt "_name")]), ";"]),
  ("package_declaration", seq [annotations, "package", nt "_name", ";"]),
  ("import_declaration", seq [
    "import", opt "static", nt "_name", opt (seq [".", nt "asterisk"]), ";"]),
  ("asterisk", .literal "*"),
  ("enum_declaration", seq [
    opt (nt "modifiers"), "enum", field "name" (nt "identifier"),
    field "interfaces" (opt (nt "super_interfaces")), field "body" (nt "enum_body")]),
  ("enum_body", seq [
    openBrace, commaSep (nt "enum_constant"), opt ",", opt (nt "enum_body_declarations"),
    closeBrace]),
  ("enum_body_declarations", seq [";", many (nt "_class_body_declaration")]),
  ("enum_constant", seq [
    opt (nt "modifiers"), field "name" (nt "identifier"),
    field "arguments" (opt (nt "argument_list")), field "body" (opt (nt "class_body"))]),
  ("class_declaration", seq [
    opt (nt "modifiers"), "class", field "name" (nt "identifier"),
    opt (field "type_parameters" (nt "type_parameters")),
    opt (field "superclass" (nt "superclass")),
    opt (field "interfaces" (nt "super_interfaces")),
    opt (field "permits" (nt "permits")),
    field "body" (nt "class_body")]),
  ("modifiers", many1 (choice [
    nt "_annotation", "public", "protected", "private", "abstract", "static", "final", "strictfp",
    "default", "synchronized", "native", "transient", "volatile", "sealed", "non-sealed"])),
  ("type_parameters", seq ["<", commaSep1 (nt "type_parameter"), ">"]),
  ("type_parameter", seq [annotations, typeIdentifier, opt (nt "type_bound")]),
  ("type_bound", seq ["extends", nt "_type", many (seq ["&", nt "_type"])]),
  ("superclass", seq ["extends", nt "_type"]),
  ("super_interfaces", seq ["implements", nt "type_list"]),
  ("type_list", seq [nt "_type", many (seq [",", nt "_type"])]),
  ("permits", seq ["permits", nt "type_list"]),
  ("class_body", seq [openBrace, many (nt "_class_body_declaration"), closeBrace]),
  ("_class_body_declaration", choice [
    nt "field_declaration", nt "record_declaration", nt "method_declaration",
    nt "compact_constructor_declaration", nt "class_declaration", nt "interface_declaration",
    nt "annotation_type_declaration", nt "enum_declaration", nt "block",
    nt "static_initializer", nt "constructor_declaration", ";"]),
  ("static_initializer", seq ["static", nt "block"]),
  ("constructor_declaration", seq [
    opt (nt "modifiers"), nt "_constructor_declarator", opt (nt "throws"),
    field "body" (nt "constructor_body")]),
  ("_constructor_declarator", seq [
    field "type_parameters" (opt (nt "type_parameters")), field "name" (nt "identifier"),
    field "parameters" (nt "formal_parameters")]),
  ("constructor_body", seq [
    openBrace, opt (nt "explicit_constructor_invocation"), many (nt "statement"), closeBrace]),
  ("explicit_constructor_invocation", seq [
    choice [
      seq [
        field "type_arguments" (opt (nt "type_arguments")),
        field "constructor" (choice [nt "this", nt "super"])],
      seq [
        field "object" (nt "primary_expression"), ".",
        field "type_arguments" (opt (nt "type_arguments")), field "constructor" (nt "super")]],
    field "arguments" (nt "argument_list"),
    ";"]),
  ("_name", choice [nt "identifier", nt "_reserved_identifier", nt "scoped_identifier"]),
  ("scoped_identifier", seq [field "scope" (nt "_name"), ".", field "name" anyIdentifier]),
  ("field_declaration", seq [
    opt (nt "modifiers"), field "type" (nt "_unannotated_type"), nt "_variable_declarator_list",
    ";"]),
  ("record_declaration", seq [
    opt (nt "modifiers"), "record", field "name" (nt "identifier"),
    opt (field "type_parameters" (nt "type_parameters")),
    field "parameters" (nt "formal_parameters"),
    opt (field "interfaces" (nt "super_interfaces")),
    field "body" (nt "class_body")]),
  ("annotation_type_declaration", seq [
    opt (nt "modifiers"), "@interface", field "name" (nt "identifier"),
    field "body" (nt "annotation_type_body")]),
  ("annotation_type_body", seq [
    openBrace,
    many (choice [
      nt "annotation_type_element_declaration", nt "constant_declaration",
      nt "class_declaration", nt "interface_declaration", nt "enum_declaration",
      nt "annotation_type_declaration", ";"]),
    closeBrace]),
  ("annotation_type_element_declaration", seq [
    opt (nt "modifiers"), field "type" (nt "_unannotated_type"), field "name" anyIdentifier,
    "(", ")", field "dimensions" (opt (nt "dimensions")), opt (nt "_default_value"), ";"]),
  ("_default_value", seq ["default", field "value" (nt "_element_value")]),
  ("interface_declaration", seq [
    opt (nt "modifiers"), "interface", field "name" (nt "identifier"),
    field "type_parameters" (opt (nt "type_parameters")), opt (nt "extends_interfaces"),
    opt (field "permits" (nt "permits")), field "body" (nt "interface_body")]),
  ("extends_interfaces", seq ["extends", nt "type_list"]),
  ("interface_body", seq [
    openBrace,
    many (choice [
      nt "constant_declaration", nt "enum_declaration", nt "method_declaration",
      nt "class_declaration", nt "interface_declaration", nt "record_declaration",
      nt "annotation_type_declaration", ";"]),
    closeBrace]),
  ("constant_declaration", seq [
    opt (nt "modifiers"), field "type" (nt "_unannotated_type"), nt "_variable_declarator_list",
    ";"]),
  ("_variable_declarator_list", commaSep1 (field "declarator" (nt "variable_declarator"))),
  ("variable_declarator", seq [
    nt "_variable_declarator_id", opt (seq ["=", field "value" (nt "_variable_initializer")])]),
  ("_variable_declarator_id", seq [
    field "name" (choice [nt "identifier", nt "_reserved_identifier", nt "underscore_pattern"]),
    field "dimensions" (opt (nt "dimensions"))]),
  ("_variable_initializer", choice [nt "expression", nt "array_initializer"]),
  ("array_initializer", seq [
    openBrace, commaSep (nt "_variable_initializer"), opt ",", closeBrace])]

def types : List (String × Rule) := [
  ("_type", choice [nt "_unannotated_type", nt "annotated_type"]),
  ("_unannotated_type", choice [nt "_simple_type", nt "array_type"]),
  ("_simple_type", choice [
    nt "void_type", nt "integral_type", nt "floating_point_type", nt "boolean_type",
    typeIdentifier, nt "scoped_type_identifier", nt "generic_type"]),
  ("annotated_type", seq [many1 (nt "_annotation"), nt "_unannotated_type"]),
  ("scoped_type_identifier", seq [
    choice [typeIdentifier, nt "scoped_type_identifier", nt "generic_type"],
    ".", annotations, typeIdentifier]),
  ("generic_type", dynamic 10 (seq [
    choice [typeIdentifier, nt "scoped_type_identifier"], nt "type_arguments"])),
  ("array_type", seq [
    field "element" (nt "_unannotated_type"), field "dimensions" (nt "dimensions")]),
  ("integral_type", choice ["byte", "short", "int", "long", "char"]),
  ("floating_point_type", choice ["float", "double"]),
  ("boolean_type", "boolean"),
  ("void_type", "void"),
  ("_method_header", seq [
    opt (seq [field "type_parameters" (nt "type_parameters"), annotations]),
    field "type" (nt "_unannotated_type"), nt "_method_declarator", opt (nt "throws")]),
  ("_method_declarator", seq [
    field "name" anyIdentifier, field "parameters" (nt "formal_parameters"),
    field "dimensions" (opt (nt "dimensions"))]),
  ("formal_parameters", seq [
    "(",
    choice [
      nt "receiver_parameter",
      seq [
        opt (seq [nt "receiver_parameter", ","]),
        commaSep (choice [nt "formal_parameter", nt "spread_parameter"])]],
    ")"]),
  ("formal_parameter", seq [
    opt (nt "modifiers"), field "type" (nt "_unannotated_type"), nt "_variable_declarator_id"]),
  ("receiver_parameter", seq [
    annotations, nt "_unannotated_type", many (seq [nt "identifier", "."]), nt "this"]),
  ("spread_parameter", seq [
    opt (nt "modifiers"), nt "_unannotated_type", "...", nt "variable_declarator"]),
  ("throws", seq ["throws", commaSep1 (nt "_type")]),
  ("local_variable_declaration", seq [
    opt (nt "modifiers"), field "type" (nt "_unannotated_type"), nt "_variable_declarator_list",
    ";"]),
  ("method_declaration", seq [
    opt (nt "modifiers"), nt "_method_header", choice [field "body" (nt "block"), ";"]]),
  ("compact_constructor_declaration", seq [
    opt (nt "modifiers"), field "name" (nt "identifier"), field "body" (nt "block")]),
  ("_reserved_identifier", choice [
    prec (-3) (renamed "identifier" (choice ["open", "module", "record", "with", "sealed"])),
    renamed "identifier" "yield"]),
  ("this", "this"),
  ("super", "super"),
  ("identifier", identifierPattern),
  ("line_comment", token (.ofSeq [.word "//", .star (.noneOf "\n")] : Pattern)),
  ("block_comment", token blockComment)]

def definition : Definition where
  rules := toplevel ++ expressions ++ statements ++ declarations ++ types
  extras := [nt "line_comment", nt "block_comment", (.oneOf " \t\r\n\x0b\x0c" : Pattern)]
  inlined := ["_name", "_simple_type", "_class_body_declaration", "_variable_initializer"]
  families := [
    "expression", "declaration", "statement", "primary_expression", "_literal", "_type",
    "_simple_type", "_unannotated_type", "module_directive"]
  word := some "identifier"
  freeText := [nt "string_fragment", fragment, quotedFragment]

end CodeIndex.Grammars.Java
