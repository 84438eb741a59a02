import CodeIndex.Grammars.TypeScript.Tokens

/-!
# Statements and declarations of TypeScript
-/

namespace CodeIndex.Grammars.TypeScript

open CodeIndex.Grammar

def expression : Rule := nt "expression"

def semicolon : Rule := nt "_semicolon"

def trailingComma : Rule := opt ","

def propertyName : Rule := nt "_property_name"

def typeIdentifier : Rule := nt "_type_identifier"

def typeAnnotation : Rule := field "type" (opt (nt "type_annotation"))

def typeParameters : Rule := field "type_parameters" (opt (nt "type_parameters"))

def typeArguments : Rule := field "type_arguments" (opt (nt "type_arguments"))

def decorators : Rule := many (field "decorator" (nt "decorator"))

def accessibility : Rule := opt (nt "accessibility_modifier")

def override : Rule := opt (nt "override_modifier")

def accessor : Rule := opt (choice ["get", "set", "*"])

def anyIdentifier : Rule := choice [nt "identifier", nt "_reserved_identifier"]

def reserved : Rule := renamed "identifier" (nt "_reserved_identifier")

/-- A list in which elements may be missing. -/
def looseList (r : Rule) : Rule := commaSep (opt r)

def insertedSemicolon : Rule := opt (nt "_automatic_semicolon")

def modules : List (String × Rule) := [
  ("program", seq [opt (nt "hash_bang_line"), many (nt "statement")]),
  ("hash_bang_line", (.ofSeq [.word "#!", .star (.noneOf "\n")] : Pattern)),
  ("export_statement", choice [
    choice [
      seq [
        "export",
        choice [
          seq ["*", nt "_from_clause"],
          seq [nt "namespace_export", nt "_from_clause"],
          seq [nt "export_clause", nt "_from_clause"],
          nt "export_clause"],
        semicolon],
      seq [
        decorators, "export",
        choice [
          field "declaration" (nt "declaration"),
          seq [
            "default",
            choice [
              field "declaration" (nt "declaration"),
              seq [field "value" expression, semicolon]]]]]],
    seq ["export", "type", nt "export_clause", opt (nt "_from_clause"), semicolon],
    seq ["export", "import", nt "import_alias"],
    seq ["export", "=", expression, semicolon],
    seq ["export", "as", "namespace", nt "identifier", semicolon]]),
  ("namespace_export", seq ["*", "as", nt "_module_export_name"]),
  ("export_clause", seq [
    openBrace, commaSep (nt "export_specifier"), trailingComma, closeBrace]),
  ("export_specifier", seq [
    opt (choice ["type", "typeof"]),
    seq [
      field "name" (nt "_module_export_name"),
      opt (seq ["as", field "alias" (nt "_module_export_name")])]]),
  ("_module_export_name", choice [nt "identifier", nt "string"]),
  ("declaration", choice [
    choice [
      nt "function_declaration", nt "generator_function_declaration", nt "class_declaration",
      nt "lexical_declaration", nt "variable_declaration"],
    nt "function_signature", nt "abstract_class_declaration", nt "module",
    prec "declare" (nt "internal_module"), nt "type_alias_declaration", nt "enum_declaration",
    nt "interface_declaration", nt "import_alias", nt "ambient_declaration"]),
  ("import", token "import"),
  ("import_statement", seq [
    "import", opt (choice ["type", "typeof"]),
    choice [
      seq [nt "import_clause", nt "_from_clause"],
      nt "import_require_clause",
      field "source" (nt "string")],
    opt (nt "import_attribute"), semicolon]),
  ("import_clause", choice [
    nt "namespace_import", nt "named_imports",
    seq [
      nt "_import_identifier",
      opt (seq [",", choice [nt "namespace_import", nt "named_imports"]])]]),
  ("_from_clause", seq ["from", field "source" (nt "string")]),
  ("namespace_import", seq ["*", "as", nt "identifier"]),
  ("named_imports", seq [
    openBrace, commaSep (nt "import_specifier"), trailingComma, closeBrace]),
  ("import_specifier", seq [
    opt (choice ["type", "typeof"]),
    choice [
      field "name" (nt "_import_identifier"),
      seq [
        field "name" (choice [nt "_module_export_name", renamed "identifier" "type"]),
        "as", field "alias" (nt "_import_identifier")]]]),
  ("import_attribute", seq ["with", nt "object"])]

def statements : List (String × Rule) := [
  ("statement", choice [
    nt "export_statement", nt "import_statement", nt "debugger_statement",
    nt "expression_statement", nt "declaration", nt "statement_block", nt "if_statement",
    nt "switch_statement", nt "for_statement", nt "for_in_statement", nt "while_statement",
    nt "do_statement", nt "try_statement", nt "with_statement", nt "break_statement",
    nt "continue_statement", nt "return_statement", nt "throw_statement",
    nt "empty_statement", nt "labeled_statement"]),
  ("expression_statement", seq [nt "_expressions", semicolon]),
  ("variable_declaration", seq ["var", commaSep1 (nt "variable_declarator"), semicolon]),
  ("lexical_declaration", seq [
    field "kind" (choice ["let", "const"]), commaSep1 (nt "variable_declarator"),
    semicolon]),
  ("variable_declarator", choice [
    seq [
      field "name" (choice [nt "identifier", nt "_destructuring_pattern"]), typeAnnotation,
      opt (nt "_initializer")],
    prec "declare" (seq [
      field "name" (nt "identifier"), "!", field "type" (nt "type_annotation")])]),
  ("statement_block", precRight 0 (seq [
    openBrace, many (nt "statement"), closeBrace, insertedSemicolon])),
  ("else_clause", seq ["else", nt "statement"]),
  ("if_statement", precRight 0 (seq [
    "if", field "condition" (nt "parenthesized_expression"),
    field "consequence" (nt "statement"),
    opt (field "alternative" (nt "else_clause"))])),
  ("switch_statement", seq [
    "switch", field "value" (nt "parenthesized_expression"),
    field "body" (nt "switch_body")]),
  ("for_statement", seq [
    "for", "(",
    choice [
      field "initializer" (choice [nt "lexical_declaration", nt "variable_declaration"]),
      seq [field "initializer" (nt "_expressions"), ";"],
      field "initializer" (nt "empty_statement")],
    field "condition" (choice [seq [nt "_expressions", ";"], nt "empty_statement"]),
    field "increment" (opt (nt "_expressions")),
    ")", field "body" (nt "statement")]),
  ("for_in_statement", seq [
    "for", opt "await", nt "_for_header", field "body" (nt "statement")]),
  ("_for_header", seq [
    "(",
    choice [
      field "left" (choice [nt "_lhs_expression", nt "parenthesized_expression"]),
      seq [
        field "kind" "var",
        field "left" (choice [nt "identifier", nt "_destructuring_pattern"]),
        opt (nt "_initializer")],
      seq [
        field "kind" (choice ["let", "const"]),
        field "left" (choice [nt "identifier", nt "_destructuring_pattern"])]],
    field "operator" (choice ["in", "of"]),
    field "right" (nt "_expressions"), ")"]),
  ("while_statement", seq [
    "while", field "condition" (nt "parenthesized_expression"),
    field "body" (nt "statement")]),
  ("do_statement", precRight 0 (seq [
    "do", field "body" (nt "statement"), "while",
    field "condition" (nt "parenthesized_expression"), opt semicolon])),
  ("try_statement", seq [
    "try", field "body" (nt "statement_block"),
    opt (field "handler" (nt "catch_clause")),
    opt (field "finalizer" (nt "finally_clause"))]),
  ("with_statement", seq [
    "with", field "object" (nt "parenthesized_expression"), field "body" (nt "statement")]),
  ("break_statement", seq [
    "break", field "label" (opt (renamed "statement_identifier" (nt "identifier"))),
    semicolon]),
  ("continue_statement", seq [
    "continue", field "label" (opt (renamed "statement_identifier" (nt "identifier"))),
    semicolon]),
  ("debugger_statement", seq ["debugger", semicolon]),
  ("return_statement", seq ["return", opt (nt "_expressions"), semicolon]),
  ("throw_statement", seq ["throw", nt "_expressions", semicolon]),
  ("empty_statement", ";"),
  ("labeled_statement", dynamic (-1) (seq [
    field "label" (renamed "statement_identifier" anyIdentifier), ":",
    field "body" (nt "statement")])),
  ("switch_body", seq [
    openBrace, many (choice [nt "switch_case", nt "switch_default"]), closeBrace]),
  ("switch_case", seq [
    "case", field "value" (nt "_expressions"), ":", field "body" (many (nt "statement"))]),
  ("switch_default", seq ["default", ":", field "body" (many (nt "statement"))]),
  ("catch_clause", seq [
    "catch",
    opt (seq [
      "(",
      field "parameter" (choice [nt "identifier", nt "_destructuring_pattern"]),
      opt (field "type" (nt "type_annotation")),
      ")"]),
    field "body" (nt "statement_block")]),
  ("finally_clause", seq ["finally", field "body" (nt "statement_block")])]

def declarations : List (String × Rule) := [
  ("public_field_definition", seq [
    decorators,
    opt (choice [
      seq ["declare", accessibility],
      seq [nt "accessibility_modifier", opt "declare"]]),
    choice [
      seq [opt "static", override, opt "readonly"],
      seq [opt "abstract", opt "readonly"],
      seq [opt "readonly", opt "abstract"],
      opt "accessor"],
    field "name" propertyName, opt (choice ["?", "!"]), typeAnnotation,
    opt (nt "_initializer")])]

/-- The rest of the declarations, which have no place among the statements of the untyped
language. -/
def typedDeclarations : List (String × Rule) := [
  ("_import_identifier", choice [nt "identifier", renamed "identifier" "type"]),
  ("non_null_expression", precLeft "unary" (seq [expression, "!"])),
  ("method_signature", seq [
    accessibility, opt "static", override, opt "readonly", opt "async", accessor,
    field "name" propertyName, opt "?", nt "_call_signature"]),
  ("abstract_method_signature", seq [
    accessibility, "abstract", override, accessor, field "name" propertyName, opt "?",
    nt "_call_signature"]),
  ("function_signature", seq [
    opt "async", "function", field "name" (nt "identifier"), nt "_call_signature",
    choice [semicolon, nt "_function_signature_automatic_semicolon"]]),
  ("type_assertion", precLeft "unary" (seq [nt "type_arguments", expression])),
  ("as_expression", precLeft "binary" (seq [
    expression, "as", choice ["const", nt "type"]])),
  ("satisfies_expression", precLeft "binary" (seq [expression, "satisfies", nt "type"])),
  ("instantiation_expression", prec "instantiation" (seq [
    expression, field "type_arguments" (nt "type_arguments")])),
  ("import_require_clause", seq [
    nt "identifier", "=", "require", "(", field "source" (nt "string"), ")"]),
  ("extends_clause", seq ["extends", commaSep1 (nt "_extends_clause_single")]),
  ("_extends_clause_single", prec "extends" (seq [
    field "value" expression, typeArguments])),
  ("implements_clause", seq ["implements", commaSep1 (nt "type")]),
  ("ambient_declaration", seq [
    "declare",
    choice [
      nt "declaration",
      seq ["global", nt "statement_block"],
      seq [
        "module", ".", renamed "property_identifier" (nt "identifier"), ":", nt "type",
        semicolon]]]),
  ("abstract_class_declaration", prec "declare" (seq [
    decorators, "abstract", "class", field "name" typeIdentifier, typeParameters,
    opt (nt "class_heritage"), field "body" (nt "class_body")])),
  ("module", seq ["module", nt "_module"]),
  ("internal_module", seq ["namespace", nt "_module"]),
  ("_module", precRight 0 (seq [
    field "name" (choice [nt "string", nt "identifier", nt "nested_identifier"]),
    field "body" (opt (nt "statement_block"))])),
  ("import_alias", seq [
    "import", nt "identifier", "=", choice [nt "identifier", nt "nested_identifier"],
    semicolon]),
  ("nested_type_identifier", prec "member" (seq [
    field "module" (choice [nt "identifier", nt "nested_identifier"]), ".",
    field "name" typeIdentifier])),
  ("interface_declaration", seq [
    "interface", field "name" typeIdentifier, typeParameters,
    opt (nt "extends_type_clause"),
    field "body" (renamed "interface_body" (nt "object_type"))]),
  ("extends_type_clause", seq [
    "extends",
    commaSep1 (field "type" (choice [
      typeIdentifier, nt "nested_type_identifier", nt "generic_type"]))]),
  ("enum_declaration", seq [
    opt "const", "enum", field "name" (nt "identifier"), field "body" (nt "enum_body")]),
  ("enum_body", seq [
    openBrace,
    opt (seq [
      commaSep1 (choice [field "name" propertyName, nt "enum_assignment"]),
      trailingComma]),
    closeBrace]),
  ("enum_assignment", seq [field "name" propertyName, nt "_initializer"]),
  ("type_alias_declaration", seq [
    "type", field "name" typeIdentifier, typeParameters, "=", field "value" (nt "type"),
    semicolon]),
  ("accessibility_modifier", choice ["public", "private", "protected"]),
  ("override_modifier", .literal "override"),
  ("required_parameter", seq [
    nt "_parameter_name", typeAnnotation, opt (nt "_initializer")]),
  ("optional_parameter", seq [
    nt "_parameter_name", "?", typeAnnotation, opt (nt "_initializer")]),
  ("_parameter_name", seq [
    decorators, accessibility, override, opt "readonly",
    field "pattern" (choice [nt "pattern", nt "this"])])]

end CodeIndex.Grammars.TypeScript
