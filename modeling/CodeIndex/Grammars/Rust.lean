import CodeIndex.Parsing.Lexer

/-!
# The grammar of Rust

Strings, comments and floating point numbers are found by a scanner of their own: raw strings end
with as many `#` as they began with, block comments nest, and `1.max(2)` has no floating point
number in it. What the scanner remembers is the number of `#` that the last raw string began with.
-/

namespace CodeIndex.Grammars.Rust

open CodeIndex.Grammar

/-! ## Tokens -/

def numericTypes : List String :=
  ["u8", "i8", "u16", "i16", "u32", "i32", "u64", "i64", "u128", "i128", "isize", "usize", "f32",
    "f64"]

def primitiveTypes : List String := numericTypes ++ ["bool", "str", "char"]

def primitive (name : String) : Rule := renamed name (choice (primitiveTypes.map .literal))

def punctuation : List String :=
  ["+", "-", "*", "/", "%", "^", "!", "&", "|", "&&", "||", "<<", ">>", "+=", "-=", "*=", "/=",
    "%=", "^=", "&=", "|=", "<<=", ">>=", "=", "==", "!=", ">", "<", ">=", "<=", "@", "_", ".",
    "..", "...", "..=", ",", ";", ":", "::", "->", "=>", "#", "?"]

/-- Words that may stand in the tokens of a macro. -/
def macroWords : List String :=
  ["as", "async", "await", "break", "const", "continue", "default", "enum", "fn", "for", "if",
    "impl", "let", "loop", "match", "mod", "pub", "return", "static", "struct", "trait", "type",
    "union", "unsafe", "use", "where", "while"]

def integerPattern : Pattern :=
  .ofSeq [
    .ofAlt [
      .ofSeq [.digit, .star (.oneOf "0123456789_")],
      .ofSeq [.word "0x", .plus (.ofAlt [.hexDigit, .char '_'])],
      .ofSeq [.word "0b", .plus (.oneOf "01_")],
      .ofSeq [.word "0o", .plus (.oneOf "01234567_")]],
    .opt (.ofAlt (numericTypes.map .word))]

/-- What follows the backslash of an escape. -/
def escaped : Pattern :=
  .ofAlt [
    .noneOf "xu",
    .ofSeq [.char 'u', .times .hexDigit 4],
    .ofSeq [.word "u\x7b", .plus .hexDigit, .char '\x7d'],
    .ofSeq [.char 'x', .times .hexDigit 2]]

def charPattern : Pattern :=
  .ofSeq [
    .opt (.char 'b'), .char '\'',
    .opt (.ofAlt [.ofSeq [.char '\\', escaped], .noneOf "\\'"]),
    .char '\'']

def identifierPattern : Pattern :=
  .ofSeq [
    .opt (.word "r#"),
    .one (.union (.single '_') .identifierStart),
    .star (.one (.union (.single '_') .identifierContinue))]

def shebangPattern : Pattern :=
  .ofSeq [
    .word "#!", .star (.oneOf "\r\x0c\t\x0b "),
    .opt (.ofSeq [.noneOf "[\n", .star (.noneOf "\n")]), .char '\n']

def metavariablePattern : Pattern :=
  .ofSeq [
    .char '$', .ofAlt [.letter, .char '_'],
    .star (.ofAlt [.letter, .digit, .char '_'])]

/-- The rest of a line. -/
def lineRest : Pattern := .star (.noneOf "\n")

/-- The separator and the operator of a repetition in a macro. -/
def repetitionSeparator : Rule := (.plus (.noneOf "+*?") : Pattern)

/-! ## Rules -/

def openBrace : Rule := "\x7b"
def closeBrace : Rule := "\x7d"

def typeIdentifier : Rule := nt "_type_identifier"

def visibility : Rule := opt (nt "visibility_modifier")

def typeParameters : Rule := field "type_parameters" (opt (nt "type_parameters"))

def whereClause : Rule := opt (nt "where_clause")

def expression : Rule := nt "_expression"

def trailingComma : Rule := opt ","

/-- A rule between each sort of bracket. -/
def bracketed (r : Rule) : Rule :=
  choice [seq ["(", r, ")"], seq ["[", r, "]"], seq [openBrace, r, closeBrace]]

def macroRules : Rule := seq [many (seq [nt "macro_rule", ";"]), opt (nt "macro_rule")]

def macros : List (String × Rule) := [
  ("source_file", seq [opt (nt "shebang"), many (nt "_statement")]),
  ("_statement", choice [nt "expression_statement", nt "_declaration_statement"]),
  ("empty_statement", ";"),
  ("expression_statement", choice [
    seq [expression, ";"], prec 1 (nt "_expression_ending_with_block")]),
  ("_declaration_statement", choice [
    nt "const_item", nt "macro_invocation", nt "macro_definition", nt "empty_statement",
    nt "attribute_item", nt "inner_attribute_item", nt "mod_item", nt "foreign_mod_item",
    nt "struct_item", nt "union_item", nt "enum_item", nt "type_item", nt "function_item",
    nt "function_signature_item", nt "impl_item", nt "trait_item", nt "associated_type",
    nt "let_declaration", nt "use_declaration", nt "extern_crate_declaration",
    nt "static_item"]),
  ("macro_definition", seq [
    "macro_rules!",
    field "name" (choice [nt "identifier", nt "_reserved_identifier"]),
    choice [
      seq ["(", macroRules, ")", ";"],
      seq ["[", macroRules, "]", ";"],
      seq [openBrace, macroRules, closeBrace]]]),
  ("macro_rule", seq [
    field "left" (nt "token_tree_pattern"), "=>", field "right" (nt "token_tree")]),
  ("_token_pattern", choice [
    nt "token_tree_pattern", nt "token_repetition_pattern", nt "token_binding_pattern",
    nt "metavariable", nt "_non_special_token"]),
  ("token_tree_pattern", bracketed (many (nt "_token_pattern"))),
  ("token_binding_pattern", prec 1 (seq [
    field "name" (nt "metavariable"), ":", field "type" (nt "fragment_specifier")])),
  ("token_repetition_pattern", seq [
    "$", "(", many (nt "_token_pattern"), ")", opt repetitionSeparator,
    choice ["+", "*", "?"]]),
  ("fragment_specifier", choice (
    ["block", "expr", "ident", "item", "lifetime", "literal", "meta", "pat", "path", "stmt", "tt",
      "ty", "vis"].map .literal)),
  ("_tokens", choice [
    nt "token_tree", nt "token_repetition", nt "metavariable", nt "_non_special_token"]),
  ("token_tree", bracketed (many (nt "_tokens"))),
  ("token_repetition", seq [
    "$", "(", many (nt "_tokens"), ")", opt repetitionSeparator, choice ["+", "*", "?"]]),
  ("_non_special_token", choice ([
    nt "_literal", nt "identifier", nt "mutable_specifier", nt "self", nt "super", nt "crate",
    primitive "primitive_type",
    precRight 0 (many1 (choice (punctuation.map .literal))),
    .literal "'"] ++ macroWords.map .literal))]

def items : List (String × Rule) := [
  ("attribute_item", seq ["#", "[", nt "attribute", "]"]),
  ("inner_attribute_item", seq ["#", "!", "[", nt "attribute", "]"]),
  ("attribute", seq [
    nt "_path",
    opt (choice [
      seq ["=", field "value" expression],
      field "arguments" (renamed "token_tree" (nt "delim_token_tree"))])]),
  ("mod_item", seq [
    visibility, "mod", field "name" (nt "identifier"),
    choice [";", field "body" (nt "declaration_list")]]),
  ("foreign_mod_item", seq [
    visibility, nt "extern_modifier", choice [";", field "body" (nt "declaration_list")]]),
  ("declaration_list", seq [openBrace, many (nt "_declaration_statement"), closeBrace]),
  ("struct_item", seq [
    visibility, "struct", field "name" typeIdentifier, typeParameters,
    choice [
      seq [whereClause, field "body" (nt "field_declaration_list")],
      seq [field "body" (nt "ordered_field_declaration_list"), whereClause, ";"],
      ";"]]),
  ("union_item", seq [
    visibility, "union", field "name" typeIdentifier, typeParameters, whereClause,
    field "body" (nt "field_declaration_list")]),
  ("enum_item", seq [
    visibility, "enum", field "name" typeIdentifier, typeParameters, whereClause,
    field "body" (nt "enum_variant_list")]),
  ("enum_variant_list", seq [
    openBrace, commaSep (seq [many (nt "attribute_item"), nt "enum_variant"]), trailingComma,
    closeBrace]),
  ("enum_variant", seq [
    visibility, field "name" (nt "identifier"),
    field "body" (opt (choice [
      nt "field_declaration_list", nt "ordered_field_declaration_list"])),
    opt (seq ["=", field "value" expression])]),
  ("field_declaration_list", seq [
    openBrace, commaSep (seq [many (nt "attribute_item"), nt "field_declaration"]),
    trailingComma, closeBrace]),
  ("field_declaration", seq [
    visibility, field "name" (nt "_field_identifier"), ":", field "type" (nt "_type")]),
  ("ordered_field_declaration_list", seq [
    "(",
    commaSep (seq [many (nt "attribute_item"), visibility, field "type" (nt "_type")]),
    trailingComma, ")"]),
  ("extern_crate_declaration", seq [
    visibility, "extern", nt "crate", field "name" (nt "identifier"),
    opt (seq ["as", field "alias" (nt "identifier")]), ";"]),
  ("const_item", seq [
    visibility, "const", field "name" (nt "identifier"), ":", field "type" (nt "_type"),
    opt (seq ["=", field "value" expression]), ";"]),
  ("static_item", seq [
    visibility, "static", opt "ref", opt (nt "mutable_specifier"),
    field "name" (nt "identifier"), ":", field "type" (nt "_type"),
    opt (seq ["=", field "value" expression]), ";"]),
  ("type_item", seq [
    visibility, "type", field "name" typeIdentifier, typeParameters, "=",
    field "type" (nt "_type"), whereClause, ";"]),
  ("function_item", seq [
    visibility, opt (nt "function_modifiers"), "fn",
    field "name" (choice [nt "identifier", nt "metavariable"]), typeParameters,
    field "parameters" (nt "parameters"),
    opt (seq ["->", field "return_type" (nt "_type")]), whereClause,
    field "body" (nt "block")]),
  ("function_signature_item", seq [
    visibility, opt (nt "function_modifiers"), "fn",
    field "name" (choice [nt "identifier", nt "metavariable"]), typeParameters,
    field "parameters" (nt "parameters"),
    opt (seq ["->", field "return_type" (nt "_type")]), whereClause, ";"]),
  ("function_modifiers", many1 (choice [
    "async", "default", "const", "unsafe", nt "extern_modifier"])),
  ("where_clause", precRight 0 (seq [
    "where", opt (seq [commaSep1 (nt "where_predicate"), trailingComma])])),
  ("where_predicate", seq [
    field "left" (choice [
      nt "lifetime", typeIdentifier, nt "scoped_type_identifier", nt "generic_type",
      nt "reference_type", nt "pointer_type", nt "tuple_type", nt "array_type",
      nt "higher_ranked_trait_bound", primitive "primitive_type"]),
    field "bounds" (nt "trait_bounds")]),
  ("impl_item", seq [
    opt "unsafe", "impl", typeParameters,
    opt (seq [
      opt "!",
      field "trait" (choice [
        typeIdentifier, nt "scoped_type_identifier", nt "generic_type"]),
      "for"]),
    field "type" (nt "_type"), whereClause,
    choice [field "body" (nt "declaration_list"), ";"]]),
  ("trait_item", seq [
    visibility, opt "unsafe", "trait", field "name" typeIdentifier, typeParameters,
    field "bounds" (opt (nt "trait_bounds")), whereClause,
    field "body" (nt "declaration_list")]),
  ("associated_type", seq [
    "type", field "name" typeIdentifier, typeParameters,
    field "bounds" (opt (nt "trait_bounds")), whereClause, ";"]),
  ("trait_bounds", seq [
    ":",
    sepBy1 "+" (choice [nt "_type", nt "lifetime", nt "higher_ranked_trait_bound"])]),
  ("higher_ranked_trait_bound", seq [
    "for", field "type_parameters" (nt "type_parameters"), field "type" (nt "_type")]),
  ("removed_trait_bound", seq ["?", nt "_type"]),
  ("type_parameters", prec 1 (seq [
    "<",
    commaSep1 (seq [
      many (nt "attribute_item"),
      choice [
        nt "lifetime", nt "metavariable", typeIdentifier, nt "constrained_type_parameter",
        nt "optional_type_parameter", nt "const_parameter"]]),
    trailingComma, ">"])),
  ("const_parameter", seq [
    "const", field "name" (nt "identifier"), ":", field "type" (nt "_type"),
    opt (seq [
      "=",
      field "value" (choice [
        nt "block", nt "identifier", nt "_literal", nt "negative_literal"])])]),
  ("constrained_type_parameter", seq [
    field "left" (choice [nt "lifetime", typeIdentifier]),
    field "bounds" (nt "trait_bounds")]),
  ("optional_type_parameter", seq [
    field "name" (choice [typeIdentifier, nt "constrained_type_parameter"]),
    "=", field "default_type" (nt "_type")]),
  ("let_declaration", seq [
    "let", opt (nt "mutable_specifier"), field "pattern" (nt "_pattern"),
    opt (seq [":", field "type" (nt "_type")]),
    opt (seq ["=", field "value" expression]),
    opt (seq ["else", field "alternative" (nt "block")]), ";"]),
  ("use_declaration", seq [
    visibility, "use", field "argument" (nt "_use_clause"), ";"]),
  ("_use_clause", choice [
    nt "_path", nt "use_as_clause", nt "use_list", nt "scoped_use_list", nt "use_wildcard"]),
  ("scoped_use_list", seq [
    field "path" (opt (nt "_path")), "::", field "list" (nt "use_list")]),
  ("use_list", seq [openBrace, commaSep (nt "_use_clause"), trailingComma, closeBrace]),
  ("use_as_clause", seq [
    field "path" (nt "_path"), "as", field "alias" (nt "identifier")]),
  ("use_wildcard", seq [opt (seq [nt "_path", "::"]), "*"]),
  ("parameters", seq [
    "(",
    commaSep (seq [
      opt (nt "attribute_item"),
      choice [
        nt "parameter", nt "self_parameter", nt "variadic_parameter", "_", nt "_type"]]),
    trailingComma, ")"]),
  ("self_parameter", seq [
    opt "&", opt (nt "lifetime"), opt (nt "mutable_specifier"), nt "self"]),
  ("variadic_parameter", seq [
    opt (nt "mutable_specifier"), opt (seq [field "pattern" (nt "_pattern"), ":"]), "..."]),
  ("parameter", seq [
    opt (nt "mutable_specifier"), field "pattern" (choice [nt "_pattern", nt "self"]), ":",
    field "type" (nt "_type")]),
  ("extern_modifier", seq ["extern", opt (nt "string_literal")]),
  ("visibility_modifier", choice [
    nt "crate",
    seq [
      "pub",
      opt (seq [
        "(",
        choice [nt "self", nt "super", nt "crate", seq ["in", nt "_path"]],
        ")"])]])]

def types : List (String × Rule) := [
  ("_type", choice [
    nt "abstract_type", nt "reference_type", nt "metavariable", nt "pointer_type",
    nt "generic_type", nt "scoped_type_identifier", nt "tuple_type", nt "unit_type",
    nt "array_type", nt "function_type", typeIdentifier, nt "macro_invocation",
    nt "never_type", nt "dynamic_type", nt "bounded_type", nt "removed_trait_bound",
    primitive "primitive_type"]),
  ("bracketed_type", seq ["<", choice [nt "_type", nt "qualified_type"], ">"]),
  ("qualified_type", seq [field "type" (nt "_type"), "as", field "alias" (nt "_type")]),
  ("lifetime", prec 1 (seq ["'", nt "identifier"])),
  ("array_type", seq [
    "[", field "element" (nt "_type"), opt (seq [";", field "length" expression]), "]"]),
  ("for_lifetimes", seq ["for", "<", commaSep1 (nt "lifetime"), trailingComma, ">"]),
  ("function_type", seq [
    opt (nt "for_lifetimes"),
    prec 15 (seq [
      choice [
        field "trait" (choice [typeIdentifier, nt "scoped_type_identifier"]),
        seq [opt (nt "function_modifiers"), "fn"]],
      field "parameters" (nt "parameters")]),
    opt (seq ["->", field "return_type" (nt "_type")])]),
  ("tuple_type", seq ["(", commaSep1 (nt "_type"), trailingComma, ")"]),
  ("unit_type", seq ["(", ")"]),
  ("generic_function", prec 1 (seq [
    field "function" (choice [
      nt "identifier", nt "scoped_identifier", nt "field_expression"]),
    "::", field "type_arguments" (nt "type_arguments")])),
  ("generic_type", prec 1 (seq [
    field "type" (choice [
      typeIdentifier, nt "_reserved_identifier", nt "scoped_type_identifier"]),
    field "type_arguments" (nt "type_arguments")])),
  ("generic_type_with_turbofish", seq [
    field "type" (choice [typeIdentifier, nt "scoped_identifier"]),
    "::", field "type_arguments" (nt "type_arguments")]),
  ("bounded_type", precLeft (-1) (choice [
    seq [nt "lifetime", "+", nt "_type"],
    seq [nt "_type", "+", nt "_type"],
    seq [nt "_type", "+", nt "lifetime"]])),
  ("type_arguments", seq [
    token (prec 1 "<"),
    commaSep1 (seq [
      choice [nt "_type", nt "type_binding", nt "lifetime", nt "_literal", nt "block"],
      opt (nt "trait_bounds")]),
    trailingComma, ">"]),
  ("type_binding", seq [
    field "name" typeIdentifier,
    field "type_arguments" (opt (nt "type_arguments")),
    "=", field "type" (nt "_type")]),
  ("reference_type", seq [
    "&", opt (nt "lifetime"), opt (nt "mutable_specifier"), field "type" (nt "_type")]),
  ("pointer_type", seq [
    "*", choice ["const", nt "mutable_specifier"], field "type" (nt "_type")]),
  ("never_type", "!"),
  ("abstract_type", seq [
    "impl", opt (seq ["for", nt "type_parameters"]),
    field "trait" (choice [
      typeIdentifier, nt "scoped_type_identifier", nt "removed_trait_bound", nt "generic_type",
      nt "function_type", nt "tuple_type"])]),
  ("dynamic_type", seq [
    "dyn",
    field "trait" (choice [
      nt "higher_ranked_trait_bound", typeIdentifier, nt "scoped_type_identifier",
      nt "generic_type", nt "function_type", nt "tuple_type"])]),
  ("mutable_specifier", "mut")]

def binary (p : Precedence) (operators : List String) : Rule :=
  precLeft p (seq [
    field "left" expression, field "operator" (choice (operators.map .literal)),
    field "right" expression])

def expressions : List (String × Rule) := [
  ("_expression_except_range", choice [
    nt "unary_expression", nt "reference_expression", nt "try_expression",
    nt "binary_expression", nt "assignment_expression", nt "compound_assignment_expr",
    nt "type_cast_expression", nt "call_expression", nt "return_expression",
    nt "yield_expression", nt "_literal", precLeft 0 (nt "identifier"), primitive "identifier",
    precLeft 0 (nt "_reserved_identifier"), nt "self", nt "scoped_identifier",
    nt "generic_function", nt "await_expression", nt "field_expression", nt "array_expression",
    nt "tuple_expression", prec 1 (nt "macro_invocation"), nt "unit_expression",
    nt "break_expression", nt "continue_expression", nt "index_expression", nt "metavariable",
    nt "closure_expression", nt "parenthesized_expression", nt "struct_expression",
    nt "_expression_ending_with_block"]),
  ("_expression", choice [nt "_expression_except_range", nt "range_expression"]),
  ("_expression_ending_with_block", choice [
    nt "unsafe_block", nt "async_block", nt "block", nt "if_expression", nt "match_expression",
    nt "while_expression", nt "loop_expression", nt "for_expression", nt "const_block"]),
  ("macro_invocation", seq [
    field "macro" (choice [
      nt "scoped_identifier", nt "identifier", nt "_reserved_identifier"]),
    "!", renamed "token_tree" (nt "delim_token_tree")]),
  ("delim_token_tree", bracketed (many (nt "_delim_tokens"))),
  ("_delim_tokens", choice [
    nt "_non_delim_token", renamed "token_tree" (nt "delim_token_tree")]),
  ("_non_delim_token", choice [nt "_non_special_token", "$"]),
  ("scoped_identifier", seq [
    field "path" (opt (choice [
      nt "_path", nt "bracketed_type",
      renamed "generic_type" (nt "generic_type_with_turbofish")])),
    "::", field "name" (choice [nt "identifier", nt "super"])]),
  ("scoped_type_identifier_in_expression_position", prec (-2) (seq [
    field "path" (opt (choice [
      nt "_path", renamed "generic_type" (nt "generic_type_with_turbofish")])),
    "::", field "name" typeIdentifier])),
  ("scoped_type_identifier", seq [
    field "path" (opt (choice [
      nt "_path", renamed "generic_type" (nt "generic_type_with_turbofish"),
      nt "bracketed_type", nt "generic_type"])),
    "::", field "name" typeIdentifier]),
  ("range_expression", precLeft 1 (choice [
    seq [expression, choice ["..", "...", "..="], expression],
    seq [expression, ".."],
    seq ["..", expression],
    ".."])),
  ("unary_expression", prec 12 (seq [choice ["-", "*", "!"], expression])),
  ("try_expression", prec 13 (seq [expression, "?"])),
  ("reference_expression", prec 12 (seq [
    "&", opt (nt "mutable_specifier"), field "value" expression])),
  ("binary_expression", choice [
    binary 3 ["&&"], binary 2 ["||"], binary 7 ["&"], binary 5 ["|"], binary 6 ["^"],
    binary 4 ["==", "!=", "<", "<=", ">", ">="], binary 8 ["<<", ">>"], binary 9 ["+", "-"],
    binary 10 ["*", "/", "%"]]),
  ("assignment_expression", precLeft 0 (seq [
    field "left" expression, "=", field "right" expression])),
  ("compound_assignment_expr",
    binary 0 ["+=", "-=", "*=", "/=", "%=", "&=", "|=", "^=", "<<=", ">>="]),
  ("type_cast_expression", precLeft 11 (seq [
    field "value" expression, "as", field "type" (nt "_type")])),
  ("return_expression", choice [
    precLeft 0 (seq ["return", expression]), prec (-1) "return"]),
  ("yield_expression", choice [
    precLeft 0 (seq ["yield", expression]), prec (-1) "yield"]),
  ("call_expression", prec 15 (seq [
    field "function" (nt "_expression_except_range"), field "arguments" (nt "arguments")])),
  ("arguments", seq [
    "(", commaSep (seq [many (nt "attribute_item"), expression]), trailingComma, ")"]),
  ("array_expression", seq [
    "[", many (nt "attribute_item"),
    choice [
      seq [expression, ";", field "length" expression],
      seq [commaSep (seq [many (nt "attribute_item"), expression]), trailingComma]],
    "]"]),
  ("parenthesized_expression", seq ["(", expression, ")"]),
  ("tuple_expression", seq [
    "(", many (nt "attribute_item"), seq [expression, ","], many (seq [expression, ","]),
    opt expression, ")"]),
  ("unit_expression", seq ["(", ")"]),
  ("struct_expression", seq [
    field "name" (choice [
      typeIdentifier,
      renamed "scoped_type_identifier" (nt "scoped_type_identifier_in_expression_position"),
      nt "generic_type_with_turbofish"]),
    field "body" (nt "field_initializer_list")]),
  ("field_initializer_list", seq [
    openBrace,
    commaSep (choice [
      nt "shorthand_field_initializer", nt "field_initializer", nt "base_field_initializer"]),
    trailingComma, closeBrace]),
  ("shorthand_field_initializer", seq [many (nt "attribute_item"), nt "identifier"]),
  ("field_initializer", seq [
    many (nt "attribute_item"),
    field "field" (choice [nt "_field_identifier", nt "integer_literal"]),
    ":", field "value" expression]),
  ("base_field_initializer", seq ["..", expression]),
  ("if_expression", precRight 0 (seq [
    "if", field "condition" (nt "_condition"), field "consequence" (nt "block"),
    opt (field "alternative" (nt "else_clause"))])),
  ("let_condition", seq [
    "let", field "pattern" (nt "_pattern"), "=", field "value" (precLeft 3 expression)]),
  ("_let_chain", precLeft 3 (choice [
    seq [nt "_let_chain", "&&", nt "let_condition"],
    seq [nt "_let_chain", "&&", expression],
    seq [nt "let_condition", "&&", expression],
    seq [nt "let_condition", "&&", nt "let_condition"],
    seq [expression, "&&", nt "let_condition"]])),
  ("_condition", choice [
    expression, nt "let_condition", renamed "let_chain" (nt "_let_chain")]),
  ("else_clause", seq ["else", choice [nt "block", nt "if_expression"]]),
  ("match_expression", seq [
    "match", field "value" expression, field "body" (nt "match_block")]),
  ("match_block", seq [
    openBrace,
    opt (seq [many (nt "match_arm"), renamed "match_arm" (nt "last_match_arm")]),
    closeBrace]),
  ("match_arm", precRight 0 (seq [
    many (choice [nt "attribute_item", nt "inner_attribute_item"]),
    field "pattern" (nt "match_pattern"), "=>",
    choice [
      seq [field "value" expression, ","],
      field "value" (prec 1 (nt "_expression_ending_with_block"))]])),
  ("last_match_arm", seq [
    many (choice [nt "attribute_item", nt "inner_attribute_item"]),
    field "pattern" (nt "match_pattern"), "=>", field "value" expression, trailingComma]),
  ("match_pattern", seq [
    nt "_pattern", opt (seq ["if", field "condition" (nt "_condition")])]),
  ("while_expression", seq [
    opt (seq [nt "label", ":"]), "while", field "condition" (nt "_condition"),
    field "body" (nt "block")]),
  ("loop_expression", seq [opt (seq [nt "label", ":"]), "loop", field "body" (nt "block")]),
  ("for_expression", seq [
    opt (seq [nt "label", ":"]), "for", field "pattern" (nt "_pattern"), "in",
    field "value" expression, field "body" (nt "block")]),
  ("const_block", seq ["const", field "body" (nt "block")]),
  ("closure_expression", prec (-1) (seq [
    opt "static", opt "async", opt "move", field "parameters" (nt "closure_parameters"),
    choice [
      seq [opt (seq ["->", field "return_type" (nt "_type")]), field "body" (nt "block")],
      field "body" (choice [expression, "_"])]])),
  ("closure_parameters", seq ["|", commaSep (choice [nt "_pattern", nt "parameter"]), "|"]),
  ("label", seq ["'", nt "identifier"]),
  ("break_expression", precLeft 0 (seq ["break", opt (nt "label"), opt expression])),
  ("continue_expression", precLeft 0 (seq ["continue", opt (nt "label")])),
  ("index_expression", prec 15 (seq [expression, "[", expression, "]"])),
  ("await_expression", prec 14 (seq [expression, ".", "await"])),
  ("field_expression", prec 14 (seq [
    field "value" expression, ".",
    field "field" (choice [nt "_field_identifier", nt "integer_literal"])])),
  ("unsafe_block", seq ["unsafe", nt "block"]),
  ("async_block", seq ["async", opt "move", nt "block"]),
  ("block", seq [
    opt (seq [nt "label", ":"]), openBrace, many (nt "_statement"), opt expression,
    closeBrace])]

def pattern : Rule := nt "_pattern"

def patterns : List (String × Rule) := [
  ("_pattern", choice [
    nt "_literal_pattern", primitive "identifier", nt "identifier", nt "scoped_identifier",
    nt "tuple_pattern", nt "tuple_struct_pattern", nt "struct_pattern",
    nt "_reserved_identifier", nt "ref_pattern", nt "slice_pattern", nt "captured_pattern",
    nt "reference_pattern", nt "remaining_field_pattern", nt "mut_pattern", nt "range_pattern",
    nt "or_pattern", nt "const_block", nt "macro_invocation", "_"]),
  ("tuple_pattern", seq [
    "(", commaSep (choice [pattern, nt "closure_expression"]), trailingComma, ")"]),
  ("slice_pattern", seq ["[", commaSep pattern, trailingComma, "]"]),
  ("tuple_struct_pattern", seq [
    field "type" (choice [
      nt "identifier", nt "scoped_identifier",
      renamed "generic_type" (nt "generic_type_with_turbofish")]),
    "(", commaSep (choice [pattern, nt "closure_expression"]), trailingComma, ")"]),
  ("struct_pattern", seq [
    field "type" (choice [typeIdentifier, nt "scoped_type_identifier"]),
    openBrace, commaSep (choice [nt "field_pattern", nt "remaining_field_pattern"]),
    trailingComma, closeBrace]),
  ("field_pattern", seq [
    opt "ref", opt (nt "mutable_specifier"),
    choice [
      field "name" (renamed "shorthand_field_identifier" (nt "identifier")),
      seq [field "name" (nt "_field_identifier"), ":", field "pattern" pattern]]]),
  ("remaining_field_pattern", ".."),
  ("mut_pattern", prec (-1) (seq [nt "mutable_specifier", pattern])),
  ("range_pattern", choice [
    seq [
      choice [nt "_literal_pattern", nt "_path"],
      choice [
        seq [choice ["...", "..=", ".."], choice [nt "_literal_pattern", nt "_path"]],
        ".."]],
    seq ["..", choice [nt "_literal_pattern", nt "_path"]]]),
  ("ref_pattern", seq ["ref", pattern]),
  ("captured_pattern", seq [nt "identifier", "@", pattern]),
  ("reference_pattern", seq ["&", opt (nt "mutable_specifier"), pattern]),
  ("or_pattern", precLeft (-2) (choice [seq [pattern, "|", pattern], seq ["|", pattern]]))]

def literals : List (String × Rule) := [
  ("_literal", choice [
    nt "string_literal", nt "raw_string_literal", nt "char_literal", nt "boolean_literal",
    nt "integer_literal", nt "float_literal"]),
  ("_literal_pattern", choice [
    nt "string_literal", nt "raw_string_literal", nt "char_literal", nt "boolean_literal",
    nt "integer_literal", nt "float_literal", nt "negative_literal"]),
  ("negative_literal", seq ["-", choice [nt "integer_literal", nt "float_literal"]]),
  ("integer_literal", token integerPattern),
  ("string_literal", seq [
    shownAs "\"" (.ofSeq [.opt (.oneOf "bc"), .char '"'] : Pattern),
    many (choice [nt "escape_sequence", nt "string_content"]),
    immediate "\""]),
  ("raw_string_literal", seq [
    nt "_raw_string_literal_start",
    renamed "string_content" (nt "raw_string_literal_content"),
    nt "_raw_string_literal_end"]),
  ("char_literal", token charPattern),
  ("escape_sequence", immediate (.ofSeq [.char '\\', escaped] : Pattern)),
  ("boolean_literal", choice ["true", "false"]),
  ("comment", choice [nt "line_comment", nt "block_comment"]),
  ("line_comment", seq [
    "//",
    choice [
      seq [immediate (prec 2 (.word "//" : Pattern)), lineRest],
      seq [
        nt "_line_doc_comment_marker",
        field "doc" (renamed "doc_comment" (nt "_line_doc_content"))],
      immediate (prec 1 lineRest)]]),
  ("_line_doc_comment_marker", choice [
    field "outer" (renamed "outer_doc_comment_marker" (nt "_outer_line_doc_comment_marker")),
    field "inner" (renamed "inner_doc_comment_marker" (nt "_inner_line_doc_comment_marker"))]),
  ("_inner_line_doc_comment_marker", immediate (prec 2 "!")),
  ("_outer_line_doc_comment_marker", immediate (prec 2 "/")),
  ("block_comment", seq [
    "/*",
    opt (choice [
      seq [
        nt "_block_doc_comment_marker",
        opt (field "doc" (renamed "doc_comment" (nt "_block_comment_content")))],
      nt "_block_comment_content"]),
    "*/"]),
  ("_block_doc_comment_marker", choice [
    field "outer" (renamed "outer_doc_comment_marker" (nt "_outer_block_doc_comment_marker")),
    field "inner" (renamed "inner_doc_comment_marker" (nt "_inner_block_doc_comment_marker"))]),
  ("_path", choice [
    nt "self", primitive "identifier", nt "metavariable", nt "super", nt "crate",
    nt "identifier", nt "scoped_identifier", nt "_reserved_identifier"]),
  ("identifier", identifierPattern),
  ("shebang", shebangPattern),
  ("_reserved_identifier", renamed "identifier" (choice ["default", "union"])),
  ("_type_identifier", renamed "type_identifier" (nt "identifier")),
  ("_field_identifier", renamed "field_identifier" (nt "identifier")),
  ("self", .literal "self"),
  ("super", .literal "super"),
  ("crate", .literal "crate"),
  ("metavariable", metavariablePattern)]

def definition : Definition where
  rules := macros ++ items ++ types ++ expressions ++ patterns ++ literals
  extras := [(.oneOf " \t\r\n\x0b\x0c" : Pattern), nt "line_comment", nt "block_comment"]
  externals := [
    nt "string_content", nt "_raw_string_literal_start", nt "raw_string_literal_content",
    nt "_raw_string_literal_end", nt "float_literal", nt "_outer_block_doc_comment_marker",
    nt "_inner_block_doc_comment_marker", nt "_block_comment_content", nt "_line_doc_content",
    nt "_error_sentinel"]
  inlined := [
    "_path", "_type_identifier", "_tokens", "_field_identifier", "_non_special_token",
    "_declaration_statement", "_reserved_identifier", "_expression_ending_with_block"]
  families := [
    "_expression", "_type", "_literal", "_literal_pattern", "_declaration_statement",
    "_pattern"]
  word := some "identifier"
  freeText := [repetitionSeparator, lineRest, immediate (prec 1 lineRest)]

/-! ## The scanner -/

open CodeIndex.Parsing

/-- The tokens of the scanner, by their numbers among the externals. -/
inductive Scan where
  | stringContent
  | rawStart
  | rawContent
  | rawEnd
  | float
  | outerBlockMarker
  | innerBlockMarker
  | blockContent
  | lineDoc
  | error

def Scan.number : Scan → Nat
  | stringContent => 0
  | rawStart => 1
  | rawContent => 2
  | rawEnd => 3
  | float => 4
  | outerBlockMarker => 5
  | innerBlockMarker => 6
  | blockContent => 7
  | lineDoc => 8
  | error => 9

def isSpace (c : Char) : Bool := c = ' ' || ('\t' ≤ c && c ≤ '\r')

def isNumeral (c : Char) : Bool := c = '_' || c.isDigit

/-- Text up to a quote or a backslash. -/
def scanString (c : Cursor) : Option Cursor :=
  let stop := c.skipWhile fun ch => ch ≠ '"' && ch ≠ '\\'
  if stop.atEnd || stop.byte = c.byte then none else some stop

/-- The beginning of a raw string, with the number of its `#`. -/
def scanRawStart (c : Cursor) : Option (Cursor × Nat) :=
  let c := if c.peek? = some 'b' || c.peek? = some 'c' then c.next else c
  if c.peek? ≠ some 'r' then none else
    let hashes := c.next
    let quote := hashes.skipWhile (· = '#')
    if quote.peek? = some '"' then some (quote.next, (quote.byte - hashes.byte) % 256) else none

/-- The text of a raw string: up to a quote that `hashes` many `#` follow. -/
def scanRawContent (hashes : Nat) (c : Cursor) : Option Cursor :=
  go c.rest c
where
  go : List Char → Cursor → Option Cursor
    | [], _ => none
    | ch :: rest, c =>
      if ch = '"' && (rest.take hashes).length = hashes && (rest.take hashes).all (· = '#') then
        some c
      else go rest c.next

def advance (n : Nat) (c : Cursor) : Cursor := Nat.repeat Cursor.next n c

/-- A number with a fraction or an exponent. -/
def scanFloat (c : Cursor) : Option Cursor :=
  let whole := c.next.skipWhile isNumeral
  let fraction : Option Cursor :=
    if whole.peek? ≠ some '.' then some whole else
      let afterDot := whole.next
      match afterDot.peek? with
      | some ch => if ch.isAlpha || ch = '.' then none else some (afterDot.skipWhile isNumeral)
      | none => some afterDot
  match fraction with
  | none => none
  | some f =>
    let hasFraction := whole.peek? = some '.'
    let exponentMark := f.peek? = some 'e' || f.peek? = some 'E'
    let stop : Option (Cursor × Bool) :=
      if exponentMark then
        let e := f.next
        let e := if e.peek? = some '+' || e.peek? = some '-' then e.next else e
        if (e.peek?.map isNumeral).getD false then some (e.skipWhile isNumeral, true)
        else some (f, false)
      else if hasFraction then some (f, true) else none
    match stop with
    | none => none
    | some (stop, suffixAllowed) =>
      let suffixed := stop.peek? = some 'u' || stop.peek? = some 'i' || stop.peek? = some 'f'
      let digits := stop.next
      if suffixAllowed && suffixed && (digits.peek?.map Char.isDigit).getD false then
        some (digits.skipWhile Char.isDigit)
      else some stop

/-- What the last character of a block comment may begin. -/
inductive CommentState where
  | slash
  | star
  | other
  deriving DecidableEq

/-- The text of a block comment, up to the mark that ends it: `depth` comments are open, and `stop`
is the end of what surely belongs to the text. -/
def scanBlockContent : List Char → CommentState → Nat → Cursor → Option Cursor → Cursor
  | [], _, _, c, stop => stop.getD c
  | ch :: rest, st, depth, c, stop =>
    match st with
    | .slash =>
      let depth := if ch = '*' then depth + 1 else depth
      scanBlockContent rest .other depth c.next (if ch = '/' then some c.next else stop)
    | .star =>
      if ch = '*' then scanBlockContent rest .star depth c.next (some c)
      else if ch = '/' then
        if depth = 1 then stop.getD c.next
        else scanBlockContent rest .other (depth - 1) c.next (some c.next)
      else scanBlockContent rest .other depth c.next stop
    | .other =>
      let st := if ch = '/' then .slash else if ch = '*' then .star else .other
      scanBlockContent rest st depth c.next (some (if ch = '/' then c.next else c))

/-- A part of a block comment. -/
def scanBlock (possible : Scan → Bool) (c : Cursor) : Option (Scan × Cursor) :=
  let first := c.peek?
  let second := c.next
  let content : Option (Scan × Cursor) :=
    if !possible .blockContent then none
    else if first = some '*' && second.peek? = some '/' then none
    else
      let st : CommentState :=
        if first = some '*' then .star else if first = some '/' then .slash else .other
      let marked := if possible .outerBlockMarker && first = some '*' then some second else none
      let stop := scanBlockContent second.rest st 1 second marked
      some (.blockContent, stop)
  if possible .innerBlockMarker && first = some '!' then some (.innerBlockMarker, second)
  else if possible .outerBlockMarker && first = some '*' then
    if second.peek? = some '/' then none
    else if second.peek? ≠ some '*' then some (.outerBlockMarker, second)
    else content
  else content

/-- The rest of a line with its end. -/
def scanLineDoc (c : Cursor) : Cursor := (c.skipWhile (· ≠ '\n')).next

def scan : Scanner := fun possible memory c =>
  let possible (s : Scan) : Bool := possible s.number
  let found (s : Scan) (start stop : Cursor) (memory : Memory) : Option Scanned :=
    some ⟨s.number, start, stop, memory⟩
  if possible .error then none
  else if possible .blockContent || possible .innerBlockMarker || possible .outerBlockMarker then
    match scanBlock possible c with
    | some (s, stop) => found s c stop memory
    | none => none
  else if possible .stringContent && !possible .float then
    match scanString c with
    | some stop => found .stringContent c stop memory
    | none => none
  else if possible .lineDoc then found .lineDoc c (scanLineDoc c) memory
  else
    let start := c.skipWhile isSpace
    let hashes := memory.headD 0
    let first := start.peek?
    if possible .rawStart && (first = some 'r' || first = some 'b' || first = some 'c') then
      match scanRawStart start with
      | some (stop, hashes) => found .rawStart start stop [hashes]
      | none => none
    else if possible .rawContent then
      match scanRawContent hashes start with
      | some stop => found .rawContent start stop memory
      | none => none
    else if possible .rawEnd && first = some '"' then
      found .rawEnd start (advance hashes start.next) memory
    else if possible .float && (first.map Char.isDigit).getD false then
      match scanFloat start with
      | some stop => found .float start stop memory
      | none => none
    else none

end CodeIndex.Grammars.Rust
