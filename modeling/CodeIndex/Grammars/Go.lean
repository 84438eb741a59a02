import CodeIndex.Parsing.Lexer

/-!
# The grammar of Go
-/

namespace CodeIndex.Grammars.Go

open CodeIndex.Grammar

/-! ## Tokens -/

def newline : Rule := "\n"

/-- What ends a statement; the end of the text does too. -/
def terminator : Rule := choice [newline, ";", "\x00"]

def sepDigits (d : Pattern) : Pattern :=
  .ofSeq [d, .star (.ofSeq [.opt (.char '_'), d])]

def octalDigit : Pattern := .range '0' '7'

def decimalDigits : Pattern := sepDigits .digit

def intPattern : Pattern :=
  .ofAlt [
    .ofSeq [.char '0', .oneOf "bB", .opt (.char '_'), sepDigits (.oneOf "01")],
    .char '0',
    .ofSeq [.range '1' '9', .opt (.ofSeq [.opt (.char '_'), decimalDigits])],
    .ofSeq [.char '0', .opt (.oneOf "oO"), .opt (.char '_'), sepDigits octalDigit],
    .ofSeq [.char '0', .oneOf "xX", .opt (.char '_'), sepDigits .hexDigit]]

def exponent (letters : String) : Pattern :=
  .ofSeq [.oneOf letters, .opt (.oneOf "+-"), decimalDigits]

def hexMantissa : Pattern :=
  .ofAlt [
    .ofSeq [.opt (.char '_'), sepDigits .hexDigit, .char '.', .opt (sepDigits .hexDigit)],
    .ofSeq [.opt (.char '_'), sepDigits .hexDigit],
    .ofSeq [.char '.', sepDigits .hexDigit]]

def floatPattern : Pattern :=
  .ofAlt [
    .ofSeq [decimalDigits, .char '.', .opt decimalDigits, .opt (exponent "eE")],
    .ofSeq [decimalDigits, exponent "eE"],
    .ofSeq [.char '.', decimalDigits, .opt (exponent "eE")],
    .ofSeq [.char '0', .oneOf "xX", hexMantissa, exponent "pP"]]

def imaginaryPattern : Pattern :=
  .ofSeq [.ofAlt [decimalDigits, intPattern, floatPattern], .char 'i']

def runePattern : Pattern :=
  .ofSeq [
    .char '\'',
    .ofAlt [
      .noneOf "'\\",
      .ofSeq [
        .char '\\',
        .ofAlt [
          .ofSeq [.char 'x', .times .hexDigit 2],
          .times octalDigit 3,
          .ofSeq [.char 'u', .times .hexDigit 4],
          .ofSeq [.char 'U', .times .hexDigit 8],
          .oneOf "abfnrtv\\'\""]]],
    .char '\'']

def escapePattern : Pattern :=
  .ofSeq [
    .char '\\',
    .ofAlt [
      .noneOf "xuU",
      .upTo .digit 2 1,
      .ofSeq [.char 'x', .hexDigit, .plus .hexDigit],
      .ofSeq [.char 'u', .times .hexDigit 4],
      .ofSeq [.char 'U', .times .hexDigit 8]]]

def identifierPattern : Pattern :=
  .ofSeq [
    .one (.union (.single '_') .identifierStart),
    .star (.one (.union (.single '_') .identifierContinue))]

/-- A comment to the end of the line, or between marks. -/
def commentPattern : Pattern :=
  .ofAlt [
    .ofSeq [.word "//", .star (.noneOf "\n")],
    .ofSeq [
      .word "/*", .star (.noneOf "*"), .plus (.char '*'),
      .star (.ofSeq [.noneOf "/*", .star (.noneOf "*"), .plus (.char '*')]), .char '/']]

/-! ## Rules -/

def openBrace : Rule := "\x7b"
def closeBrace : Rule := "\x7d"

def statementEnds (r : Rule) : Rule :=
  opt (seq [r, many (seq [terminator, r]), opt terminator])

def declarations : List (String × Rule) := [
  ("source_file", seq [
    many (choice [
      seq [nt "_statement", terminator],
      seq [nt "_top_level_declaration", terminator]]),
    opt (nt "_top_level_declaration")]),
  ("_top_level_declaration", choice [
    nt "package_clause", nt "function_declaration", nt "method_declaration",
    nt "import_declaration"]),
  ("package_clause", seq ["package", nt "_package_identifier"]),
  ("import_declaration", seq ["import", choice [nt "import_spec", nt "import_spec_list"]]),
  ("import_spec", seq [
    opt (field "name" (choice [nt "dot", nt "blank_identifier", nt "_package_identifier"])),
    field "path" (nt "_string_literal")]),
  ("dot", "."),
  ("blank_identifier", "_"),
  ("import_spec_list", seq ["(", statementEnds (nt "import_spec"), ")"]),
  ("_declaration", choice [
    nt "const_declaration", nt "type_declaration", nt "var_declaration"]),
  ("const_declaration", seq ["const", choice [
    nt "const_spec",
    seq ["(", many (seq [nt "const_spec", terminator]), ")"]]]),
  ("const_spec", precLeft 0 (seq [
    field "name" (commaSep1 (nt "identifier")),
    opt (seq [
      opt (field "type" (nt "_type")), "=", field "value" (nt "expression_list")])])),
  ("var_declaration", seq ["var", choice [
    nt "var_spec",
    seq ["(", many (seq [nt "var_spec", terminator]), ")"]]]),
  ("var_spec", seq [
    field "name" (commaSep1 (nt "identifier")),
    choice [
      seq [field "type" (nt "_type"), opt (seq ["=", field "value" (nt "expression_list")])],
      seq ["=", field "value" (nt "expression_list")]]]),
  ("function_declaration", precRight 1 (seq [
    "func",
    field "name" (nt "identifier"),
    field "type_parameters" (opt (nt "type_parameter_list")),
    field "parameters" (nt "parameter_list"),
    field "result" (opt (choice [nt "parameter_list", nt "_simple_type"])),
    field "body" (opt (nt "block"))])),
  ("method_declaration", precRight 1 (seq [
    "func",
    field "receiver" (nt "parameter_list"),
    field "name" (nt "_field_identifier"),
    field "parameters" (nt "parameter_list"),
    field "result" (opt (choice [nt "parameter_list", nt "_simple_type"])),
    field "body" (opt (nt "block"))])),
  ("type_parameter_list", seq [
    "[", commaSep1 (nt "parameter_declaration"), opt ",", "]"]),
  ("parameter_list", seq [
    "(",
    opt (seq [
      commaSep (choice [nt "parameter_declaration", nt "variadic_parameter_declaration"]),
      opt ","]),
    ")"]),
  ("parameter_declaration", seq [
    field "name" (commaSep (nt "identifier")), field "type" (nt "_type")]),
  ("variadic_parameter_declaration", seq [
    field "name" (opt (nt "identifier")), "...", field "type" (nt "_type")]),
  ("type_alias", seq [field "name" (nt "_type_identifier"), "=", field "type" (nt "_type")]),
  ("type_declaration", seq ["type", choice [
    nt "type_spec",
    nt "type_alias",
    seq ["(", many (seq [choice [nt "type_spec", nt "type_alias"], terminator]), ")"]]]),
  ("type_spec", dynamic 1 (seq [
    field "name" (nt "_type_identifier"),
    field "type_parameters" (opt (nt "type_parameter_list")),
    field "type" (nt "_type")])),
  ("field_name_list", commaSep1 (nt "_field_identifier")),
  ("expression_list", commaSep1 (nt "_expression"))]

def types : List (String × Rule) := [
  ("_type", choice [nt "_simple_type", nt "parenthesized_type"]),
  ("parenthesized_type", seq ["(", nt "_type", ")"]),
  ("_simple_type", choice [
    dynamic (-1) (nt "_type_identifier"),
    nt "generic_type", nt "qualified_type", nt "pointer_type", nt "struct_type",
    nt "interface_type", nt "array_type", nt "slice_type", nt "map_type", nt "channel_type",
    nt "function_type", nt "union_type", nt "negated_type"]),
  ("generic_type", dynamic 1 (seq [
    field "type" (choice [
      nt "_type_identifier", nt "qualified_type", nt "union_type", nt "negated_type"]),
    field "type_arguments" (nt "type_arguments")])),
  ("type_arguments", dynamic 2 (seq ["[", commaSep1 (nt "_type"), opt ",", "]"])),
  ("pointer_type", prec 6 (seq ["*", nt "_type"])),
  ("array_type", precRight 0 (seq [
    "[", field "length" (nt "_expression"), "]", field "element" (nt "_type")])),
  ("implicit_length_array_type", seq ["[", "...", "]", field "element" (nt "_type")]),
  ("slice_type", precRight 0 (seq ["[", "]", field "element" (nt "_type")])),
  ("struct_type", seq ["struct", nt "field_declaration_list"]),
  ("union_type", precLeft 0 (seq [
    nt "_type", many1 (precLeft 0 (seq ["|", nt "_type"]))])),
  ("negated_type", precLeft 0 (seq ["~", nt "_type"])),
  ("field_declaration_list", seq [
    openBrace, statementEnds (nt "field_declaration"), closeBrace]),
  ("field_declaration", seq [
    choice [
      seq [commaSep1 (field "name" (nt "_field_identifier")), field "type" (nt "_type")],
      seq [
        opt "*",
        field "type" (choice [
          nt "_type_identifier", nt "qualified_type", nt "generic_type"])]],
    field "tag" (opt (nt "_string_literal"))]),
  ("interface_type", seq [
    "interface", openBrace, statementEnds (nt "_interface_elem"), closeBrace]),
  ("_interface_elem", choice [
    nt "method_spec", nt "interface_type_name", nt "constraint_elem", nt "struct_elem"]),
  ("interface_type_name", choice [nt "_type_identifier", nt "qualified_type"]),
  ("constraint_elem", seq [
    nt "constraint_term", many (seq ["|", nt "constraint_term"])]),
  ("constraint_term", prec (-1) (seq [opt "~", nt "_type_identifier"])),
  ("struct_elem", seq [nt "struct_term", many (seq ["|", nt "struct_term"])]),
  ("struct_term", prec (-1) (seq [opt (choice ["~", "*"]), nt "struct_type"])),
  ("method_spec", seq [
    field "name" (nt "_field_identifier"),
    field "parameters" (nt "parameter_list"),
    field "result" (opt (choice [nt "parameter_list", nt "_simple_type"]))]),
  ("map_type", precRight 0 (seq [
    "map", "[", field "key" (nt "_type"), "]", field "value" (nt "_type")])),
  ("channel_type", precLeft 0 (choice [
    seq ["chan", field "value" (nt "_type")],
    seq ["chan", "<-", field "value" (nt "_type")],
    prec 6 (seq ["<-", "chan", field "value" (nt "_type")])])),
  ("function_type", precRight 0 (seq [
    "func",
    field "parameters" (nt "parameter_list"),
    field "result" (opt (choice [nt "parameter_list", nt "_simple_type"]))]))]

def assignmentOperators : List Rule :=
  ["*=", "/=", "%=", "<<=", ">>=", "&=", "&^=", "+=", "-=", "|=", "^=", "="]

def label : Rule := renamed "label_name" (nt "identifier")

def statements : List (String × Rule) := [
  ("block", seq [openBrace, opt (nt "_statement_list"), closeBrace]),
  ("_statement_list", choice [
    seq [
      nt "_statement",
      many (seq [terminator, nt "_statement"]),
      opt (seq [terminator, opt (renamed "labeled_statement" (nt "empty_labeled_statement"))])],
    renamed "labeled_statement" (nt "empty_labeled_statement")]),
  ("_statement", choice [
    nt "_declaration", nt "_simple_statement", nt "return_statement", nt "go_statement",
    nt "defer_statement", nt "if_statement", nt "for_statement",
    nt "expression_switch_statement", nt "type_switch_statement", nt "select_statement",
    nt "labeled_statement", nt "fallthrough_statement", nt "break_statement",
    nt "continue_statement", nt "goto_statement", nt "block", nt "empty_statement"]),
  ("empty_statement", ";"),
  ("_simple_statement", choice [
    nt "expression_statement", nt "send_statement", nt "inc_statement", nt "dec_statement",
    nt "assignment_statement", nt "short_var_declaration"]),
  ("expression_statement", nt "_expression"),
  ("send_statement", seq [
    field "channel" (nt "_expression"), "<-", field "value" (nt "_expression")]),
  ("receive_statement", seq [
    opt (seq [field "left" (nt "expression_list"), choice ["=", ":="]]),
    field "right" (nt "_expression")]),
  ("inc_statement", seq [nt "_expression", "++"]),
  ("dec_statement", seq [nt "_expression", "--"]),
  ("assignment_statement", seq [
    field "left" (nt "expression_list"),
    field "operator" (choice assignmentOperators),
    field "right" (nt "expression_list")]),
  ("short_var_declaration", seq [
    field "left" (nt "expression_list"), ":=", field "right" (nt "expression_list")]),
  ("labeled_statement", seq [field "label" label, ":", nt "_statement"]),
  ("empty_labeled_statement", seq [field "label" label, ":"]),
  ("fallthrough_statement", precLeft 0 "fallthrough"),
  ("break_statement", seq ["break", opt label]),
  ("continue_statement", seq ["continue", opt label]),
  ("goto_statement", seq ["goto", label]),
  ("return_statement", seq ["return", opt (nt "expression_list")]),
  ("go_statement", seq ["go", nt "_expression"]),
  ("defer_statement", seq ["defer", nt "_expression"]),
  ("if_statement", seq [
    "if",
    opt (seq [field "initializer" (nt "_simple_statement"), ";"]),
    field "condition" (nt "_expression"),
    field "consequence" (nt "block"),
    opt (seq ["else", field "alternative" (choice [nt "block", nt "if_statement"])])]),
  ("for_statement", seq [
    "for",
    opt (choice [nt "_expression", nt "for_clause", nt "range_clause"]),
    field "body" (nt "block")]),
  ("for_clause", seq [
    field "initializer" (opt (nt "_simple_statement")),
    ";",
    field "condition" (opt (nt "_expression")),
    ";",
    field "update" (opt (nt "_simple_statement"))]),
  ("range_clause", seq [
    opt (seq [field "left" (nt "expression_list"), choice ["=", ":="]]),
    "range",
    field "right" (nt "_expression")]),
  ("expression_switch_statement", seq [
    "switch",
    opt (seq [field "initializer" (nt "_simple_statement"), ";"]),
    field "value" (opt (nt "_expression")),
    openBrace,
    many (choice [nt "expression_case", nt "default_case"]),
    closeBrace]),
  ("expression_case", seq [
    "case", field "value" (nt "expression_list"), ":", opt (nt "_statement_list")]),
  ("default_case", seq ["default", ":", opt (nt "_statement_list")]),
  ("type_switch_statement", seq [
    "switch", nt "_type_switch_header", openBrace,
    many (choice [nt "type_case", nt "default_case"]), closeBrace]),
  ("_type_switch_header", seq [
    opt (seq [field "initializer" (nt "_simple_statement"), ";"]),
    opt (seq [field "alias" (nt "expression_list"), ":="]),
    field "value" (nt "_expression"), ".", "(", "type", ")"]),
  ("type_case", seq [
    "case", field "type" (commaSep1 (nt "_type")), ":", opt (nt "_statement_list")]),
  ("select_statement", seq [
    "select", openBrace,
    many (choice [nt "communication_case", nt "default_case"]), closeBrace]),
  ("communication_case", seq [
    "case",
    field "communication" (choice [nt "send_statement", nt "receive_statement"]),
    ":",
    opt (nt "_statement_list")])]

def builtinAllocator : Rule := renamed "identifier" (choice ["new", "make"])

def binary (p : Precedence) (operators : List Rule) : Rule :=
  precLeft p (seq [
    field "left" (nt "_expression"),
    field "operator" (choice operators),
    field "right" (nt "_expression")])

def expressions : List (String × Rule) := [
  ("_expression", choice [
    nt "unary_expression", nt "binary_expression", nt "selector_expression",
    nt "index_expression", nt "slice_expression", nt "call_expression",
    nt "type_assertion_expression", nt "type_conversion_expression",
    nt "type_instantiation_expression", nt "identifier", builtinAllocator,
    nt "composite_literal", nt "func_literal", nt "_string_literal", nt "int_literal",
    nt "float_literal", nt "imaginary_literal", nt "rune_literal", nt "nil", nt "true",
    nt "false", nt "iota", nt "parenthesized_expression"]),
  ("parenthesized_expression", seq ["(", nt "_expression", ")"]),
  ("call_expression", prec 7 (choice [
    seq [
      field "function" builtinAllocator,
      field "arguments" (renamed "argument_list" (nt "special_argument_list"))],
    seq [
      field "function" (nt "_expression"),
      field "type_arguments" (opt (nt "type_arguments")),
      field "arguments" (nt "argument_list")]])),
  ("variadic_argument", precRight 0 (seq [nt "_expression", "..."])),
  ("special_argument_list", seq [
    "(",
    opt (seq [nt "_type", many (seq [",", nt "_expression"]), opt ","]),
    ")"]),
  ("argument_list", seq [
    "(",
    opt (seq [commaSep (choice [nt "_expression", nt "variadic_argument"]), opt ","]),
    ")"]),
  ("selector_expression", prec 7 (seq [
    field "operand" (nt "_expression"), ".", field "field" (nt "_field_identifier")])),
  ("index_expression", prec 7 (seq [
    field "operand" (nt "_expression"), "[", field "index" (nt "_expression"), "]"])),
  ("slice_expression", prec 7 (seq [
    field "operand" (nt "_expression"),
    "[",
    choice [
      seq [
        field "start" (opt (nt "_expression")), ":", field "end" (opt (nt "_expression"))],
      seq [
        field "start" (opt (nt "_expression")), ":", field "end" (nt "_expression"),
        ":", field "capacity" (nt "_expression")]],
    "]"])),
  ("type_assertion_expression", prec 7 (seq [
    field "operand" (nt "_expression"), ".", "(", field "type" (nt "_type"), ")"])),
  ("type_conversion_expression", dynamic (-1) (seq [
    field "type" (nt "_type"), "(", field "operand" (nt "_expression"), opt ",", ")"])),
  ("type_instantiation_expression", prec 7 (seq [
    field "type" (nt "_type"), "[", commaSep1 (nt "_type"), opt ",", "]"])),
  ("composite_literal", prec (-1) (seq [
    field "type" (choice [
      nt "map_type", nt "slice_type", nt "array_type", nt "implicit_length_array_type",
      nt "struct_type", nt "_type_identifier", nt "generic_type", nt "qualified_type"]),
    field "body" (nt "literal_value")])),
  ("literal_value", seq [
    openBrace,
    opt (seq [commaSep (choice [nt "literal_element", nt "keyed_element"]), opt ","]),
    closeBrace]),
  ("literal_element", choice [nt "_expression", nt "literal_value"]),
  ("keyed_element", seq [nt "literal_element", ":", nt "literal_element"]),
  ("func_literal", seq [
    "func",
    field "parameters" (nt "parameter_list"),
    field "result" (opt (choice [nt "parameter_list", nt "_simple_type"])),
    field "body" (nt "block")]),
  ("unary_expression", prec 6 (seq [
    field "operator" (choice ["+", "-", "!", "^", "*", "&", "<-"]),
    field "operand" (nt "_expression")])),
  ("binary_expression", choice [
    binary 5 ["*", "/", "%", "<<", ">>", "&", "&^"],
    binary 4 ["+", "-", "|", "^"],
    binary 3 ["==", "!=", "<", "<=", ">", ">="],
    binary 2 ["&&"],
    binary 1 ["||"]]),
  ("qualified_type", seq [
    field "package" (nt "_package_identifier"), ".", field "name" (nt "_type_identifier")])]

def tokens : List (String × Rule) := [
  ("identifier", identifierPattern),
  ("_type_identifier", renamed "type_identifier" (nt "identifier")),
  ("_field_identifier", renamed "field_identifier" (nt "identifier")),
  ("_package_identifier", renamed "package_identifier" (nt "identifier")),
  ("_string_literal", choice [nt "raw_string_literal", nt "interpreted_string_literal"]),
  ("raw_string_literal", token
    (.ofSeq [.char '\x60', .star (.noneOf "\x60"), .char '\x60'] : Pattern)),
  ("interpreted_string_literal", seq [
    "\"",
    many (choice [nt "_interpreted_string_literal_basic_content", nt "escape_sequence"]),
    immediate "\""]),
  ("_interpreted_string_literal_basic_content",
    immediate (prec 1 (.plus (.noneOf "\"\n\\") : Pattern))),
  ("escape_sequence", immediate escapePattern),
  ("int_literal", token intPattern),
  ("float_literal", token floatPattern),
  ("imaginary_literal", token imaginaryPattern),
  ("rune_literal", token runePattern),
  ("nil", "nil"),
  ("true", "true"),
  ("false", "false"),
  ("iota", "iota"),
  ("comment", token commentPattern)]

def definition : Definition where
  rules := declarations ++ types ++ statements ++ expressions ++ tokens
  extras := [nt "comment", (.oneOf " \t\r\n\x0b\x0c" : Pattern)]
  inlined := [
    "_type", "_type_identifier", "_field_identifier", "_package_identifier",
    "_top_level_declaration", "_string_literal", "_interface_elem"]
  families := ["_expression", "_type", "_simple_type", "_statement", "_simple_statement"]
  word := some "identifier"
  freeText := [nt "_interpreted_string_literal_basic_content"]

end CodeIndex.Grammars.Go
