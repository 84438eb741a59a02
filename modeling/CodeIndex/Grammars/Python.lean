import CodeIndex.Parsing.Lexer

/-!
# The grammar of Python

Line ends, changes of indentation and strings are found by a scanner of their own. It remembers the
indentations of the blocks that are open, the delimiters of the strings that are open, and whether
the last string may hold interpolations.
-/

namespace CodeIndex.Grammars.Python

open CodeIndex.Grammar

/-! ## Tokens -/

/-- Digits, each group of which an underscore may stand before. -/
def groups (digit : Pattern) : Pattern := .plus (.ofSeq [.opt (.char '_'), .plus digit])

/-- Decimal digits, each group of which an underscore may follow. -/
def decimalDigits : Pattern := .plus (.ofSeq [.plus .digit, .opt (.char '_')])

def long : Pattern := .opt (.oneOf "Ll")

def imaginary : Pattern := .opt (.oneOf "jJ")

def integerPattern : Pattern :=
  .ofAlt [
    .ofSeq [.ofAlt [.word "0x", .word "0X"], groups .hexDigit, long],
    .ofSeq [.ofAlt [.word "0o", .word "0O"], groups (.range '0' '7'), long],
    .ofSeq [.ofAlt [.word "0b", .word "0B"], groups (.oneOf "01"), long],
    .ofSeq [decimalDigits, .ofAlt [long, imaginary]]]

def exponent : Pattern := .ofSeq [.oneOf "eE", .opt (.oneOf "+-"), decimalDigits]

def floatPattern : Pattern :=
  .ofSeq [
    .ofAlt [
      .ofSeq [decimalDigits, .char '.', .opt decimalDigits, .opt exponent],
      .ofSeq [.opt decimalDigits, .char '.', decimalDigits, .opt exponent],
      .ofSeq [decimalDigits, exponent]],
    .opt (.oneOf "LljJ")]

def escapePattern : Pattern :=
  .ofSeq [
    .char '\\',
    .ofAlt [
      .ofSeq [.char 'u', .times .hexDigit 4],
      .ofSeq [.char 'U', .times .hexDigit 8],
      .ofSeq [.char 'x', .times .hexDigit 2],
      .times .digit 3,
      .ofSeq [.opt (.char '\r'), .char '\n'],
      .oneOf "'\"abfrntv\\",
      .ofSeq [.word "N\x7b", .plus (.noneOf "\x7d"), .char '\x7d']]]

def identifierPattern : Pattern :=
  .ofSeq [
    .one (.union (.single '_') .identifierStart),
    .star (.one (.union (.single '_') .identifierContinue))]

/-- The text of a format specifier. -/
def formatText : Rule := prec 1 (.plus (.noneOf "\x7b\x7d\n") : Pattern)

def blank : Pattern :=
  .ofAlt [
    .oneOf " \t\r\n\x0b\x0c\ufeff\u2060\u200b",
    .ofSeq [.opt (.char '\r'), .char '\n']]

/-! ## Rules -/

def openBrace : Rule := "\x7b"
def closeBrace : Rule := "\x7d"

def expression : Rule := nt "expression"

def primary : Rule := nt "primary_expression"

def suite : Rule := nt "_suite"

def trailingComma : Rule := opt ","

def async : Rule := opt "async"

def typeParameters : Rule := field "type_parameters" (opt (nt "type_parameter"))

def elseClause : Rule := opt (field "alternative" (nt "else_clause"))

def simpleStatements : List (String × Rule) := [
  ("module", many (nt "_statement")),
  ("_statement", choice [nt "_simple_statements", nt "_compound_statement"]),
  ("_simple_statements", seq [
    sepBy1 ";" (nt "_simple_statement"), opt ";", nt "_newline"]),
  ("_simple_statement", choice [
    nt "future_import_statement", nt "import_statement", nt "import_from_statement",
    nt "print_statement", nt "assert_statement", nt "expression_statement",
    nt "return_statement", nt "delete_statement", nt "raise_statement", nt "pass_statement",
    nt "break_statement", nt "continue_statement", nt "global_statement",
    nt "nonlocal_statement", nt "exec_statement", nt "type_alias_statement"]),
  ("import_statement", seq ["import", nt "_import_list"]),
  ("import_prefix", many1 "."),
  ("relative_import", seq [nt "import_prefix", opt (nt "dotted_name")]),
  ("future_import_statement", seq [
    "from", "__future__", "import",
    choice [nt "_import_list", seq ["(", nt "_import_list", ")"]]]),
  ("import_from_statement", seq [
    "from", field "module_name" (choice [nt "relative_import", nt "dotted_name"]), "import",
    choice [nt "wildcard_import", nt "_import_list", seq ["(", nt "_import_list", ")"]]]),
  ("_import_list", seq [
    commaSep1 (field "name" (choice [nt "dotted_name", nt "aliased_import"])),
    trailingComma]),
  ("aliased_import", seq [
    field "name" (nt "dotted_name"), "as", field "alias" (nt "identifier")]),
  ("wildcard_import", .literal "*"),
  ("print_statement", choice [
    prec 1 (seq [
      "print", nt "chevron", many (seq [",", field "argument" expression]), trailingComma]),
    prec (-3) (dynamic (-1) (seq [
      "print", commaSep1 (field "argument" expression), trailingComma]))]),
  ("chevron", seq [">>", expression]),
  ("assert_statement", seq ["assert", commaSep1 expression]),
  ("expression_statement", choice [
    expression, seq [commaSep1 expression, trailingComma], nt "assignment",
    nt "augmented_assignment", nt "yield"]),
  ("named_expression", seq [
    field "name" (nt "_named_expression_lhs"), ":=", field "value" expression]),
  ("_named_expression_lhs", choice [nt "identifier", nt "keyword_identifier"]),
  ("return_statement", seq ["return", opt (nt "_expressions")]),
  ("delete_statement", seq ["del", nt "_expressions"]),
  ("_expressions", choice [expression, nt "expression_list"]),
  ("raise_statement", seq [
    "raise", opt (nt "_expressions"), opt (seq ["from", field "cause" expression])]),
  ("pass_statement", precLeft 0 "pass"),
  ("break_statement", precLeft 0 "break"),
  ("continue_statement", precLeft 0 "continue")]

def compoundStatements : List (String × Rule) := [
  ("_compound_statement", choice [
    nt "if_statement", nt "for_statement", nt "while_statement", nt "try_statement",
    nt "with_statement", nt "function_definition", nt "class_definition",
    nt "decorated_definition", nt "match_statement"]),
  ("if_statement", seq [
    "if", field "condition" expression, ":", field "consequence" suite,
    many (field "alternative" (nt "elif_clause")), elseClause]),
  ("elif_clause", seq [
    "elif", field "condition" expression, ":", field "consequence" suite]),
  ("else_clause", seq ["else", ":", field "body" suite]),
  ("match_statement", seq [
    "match", commaSep1 (field "subject" expression), trailingComma, ":",
    field "body" (renamed "block" (nt "_match_block"))]),
  ("_match_block", choice [
    seq [nt "_indent", many (field "alternative" (nt "case_clause")), nt "_dedent"],
    nt "_newline"]),
  ("case_clause", seq [
    "case", commaSep1 (nt "case_pattern"), trailingComma,
    opt (field "guard" (nt "if_clause")), ":", field "consequence" suite]),
  ("for_statement", seq [
    async, "for", field "left" (nt "_left_hand_side"), "in",
    field "right" (nt "_expressions"), ":", field "body" suite,
    field "alternative" (opt (nt "else_clause"))]),
  ("while_statement", seq [
    "while", field "condition" expression, ":", field "body" suite, elseClause]),
  ("try_statement", seq [
    "try", ":", field "body" suite,
    choice [
      seq [
        many1 (nt "except_clause"), opt (nt "else_clause"), opt (nt "finally_clause")],
      seq [
        many1 (nt "except_group_clause"), opt (nt "else_clause"),
        opt (nt "finally_clause")],
      nt "finally_clause"]]),
  ("except_clause", seq [
    "except",
    opt (seq [expression, opt (seq [choice ["as", ","], expression])]),
    ":", suite]),
  ("except_group_clause", seq [
    "except*", seq [expression, opt (seq ["as", expression])], ":", suite]),
  ("finally_clause", seq ["finally", ":", suite]),
  ("with_statement", seq [
    async, "with", nt "with_clause", ":", field "body" suite]),
  ("with_clause", choice [
    seq [commaSep1 (nt "with_item"), trailingComma],
    seq ["(", commaSep1 (nt "with_item"), trailingComma, ")"]]),
  ("with_item", dynamic 1 (field "value" expression)),
  ("function_definition", seq [
    async, "def", field "name" (nt "identifier"), typeParameters,
    field "parameters" (nt "parameters"),
    opt (seq ["->", field "return_type" (nt "type")]), ":", field "body" suite]),
  ("parameters", seq ["(", opt (nt "_parameters"), ")"]),
  ("lambda_parameters", nt "_parameters"),
  ("list_splat", seq ["*", expression]),
  ("dictionary_splat", seq ["**", expression]),
  ("global_statement", seq ["global", commaSep1 (nt "identifier")]),
  ("nonlocal_statement", seq ["nonlocal", commaSep1 (nt "identifier")]),
  ("exec_statement", seq [
    "exec", field "code" (choice [nt "string", nt "identifier"]),
    opt (seq ["in", commaSep1 expression])]),
  ("type_alias_statement", dynamic 1 (seq ["type", nt "type", "=", nt "type"])),
  ("class_definition", seq [
    "class", field "name" (nt "identifier"), typeParameters,
    field "superclasses" (opt (nt "argument_list")), ":", field "body" suite]),
  ("type_parameter", seq ["[", commaSep1 (nt "type"), trailingComma, "]"]),
  ("parenthesized_list_splat", prec 1 (seq [
    "(",
    choice [
      renamed "parenthesized_expression" (nt "parenthesized_list_splat"), nt "list_splat"],
    ")"])),
  ("argument_list", seq [
    "(",
    opt (commaSep1 (choice [
      expression, nt "list_splat", nt "dictionary_splat",
      renamed "parenthesized_expression" (nt "parenthesized_list_splat"),
      nt "keyword_argument"])),
    trailingComma, ")"]),
  ("decorated_definition", seq [
    many1 (nt "decorator"),
    field "definition" (choice [nt "class_definition", nt "function_definition"])]),
  ("decorator", seq ["@", expression, nt "_newline"]),
  ("_suite", choice [
    renamed "block" (nt "_simple_statements"),
    seq [nt "_indent", nt "block"],
    renamed "block" (nt "_newline")]),
  ("block", seq [many (nt "_statement"), nt "_dedent"]),
  ("expression_list", precRight 0 (seq [
    expression,
    choice [
      ",",
      seq [many1 (seq [",", expression]), trailingComma]]])),
  ("dotted_name", prec 1 (sepBy1 "." (nt "identifier")))]

def simplePattern : Rule := nt "_simple_pattern"

def casePatterns : Rule := opt (seq [commaSep1 (nt "case_pattern"), trailingComma])

def patterns : List (String × Rule) := [
  ("case_pattern", prec 1 (choice [
    renamed "as_pattern" (nt "_as_pattern"), nt "keyword_pattern", simplePattern])),
  ("_simple_pattern", prec 1 (choice [
    nt "class_pattern", nt "splat_pattern", nt "union_pattern",
    renamed "list_pattern" (nt "_list_pattern"), renamed "tuple_pattern" (nt "_tuple_pattern"),
    nt "dict_pattern", nt "string", nt "concatenated_string", nt "true", nt "false", nt "none",
    seq [opt "-", choice [nt "integer", nt "float"]], nt "complex_pattern", nt "dotted_name",
    "_"])),
  ("_as_pattern", seq [nt "case_pattern", "as", nt "identifier"]),
  ("union_pattern", precRight 0 (seq [
    simplePattern, many1 (precLeft 0 (seq ["|", simplePattern]))])),
  ("_list_pattern", seq ["[", casePatterns, "]"]),
  ("_tuple_pattern", seq ["(", casePatterns, ")"]),
  ("dict_pattern", seq [
    openBrace,
    opt (seq [
      commaSep1 (choice [nt "_key_value_pattern", nt "splat_pattern"]), trailingComma]),
    closeBrace]),
  ("_key_value_pattern", seq [
    field "key" simplePattern, ":", field "value" (nt "case_pattern")]),
  ("keyword_pattern", seq [nt "identifier", "=", simplePattern]),
  ("splat_pattern", prec 1 (seq [choice ["*", "**"], choice [nt "identifier", "_"]])),
  ("class_pattern", seq [nt "dotted_name", "(", casePatterns, ")"]),
  ("complex_pattern", prec 1 (seq [
    opt "-", choice [nt "integer", nt "float"], choice ["+", "-"],
    choice [nt "integer", nt "float"]])),
  ("_parameters", seq [commaSep1 (nt "parameter"), trailingComma]),
  ("_patterns", seq [commaSep1 (nt "pattern"), trailingComma]),
  ("parameter", choice [
    nt "identifier", nt "typed_parameter", nt "default_parameter",
    nt "typed_default_parameter", nt "list_splat_pattern", nt "tuple_pattern",
    nt "keyword_separator", nt "positional_separator", nt "dictionary_splat_pattern"]),
  ("pattern", choice [
    nt "identifier", nt "keyword_identifier", nt "subscript", nt "attribute",
    nt "list_splat_pattern", nt "tuple_pattern", nt "list_pattern"]),
  ("tuple_pattern", seq ["(", opt (nt "_patterns"), ")"]),
  ("list_pattern", seq ["[", opt (nt "_patterns"), "]"]),
  ("default_parameter", seq [
    field "name" (choice [nt "identifier", nt "tuple_pattern"]), "=",
    field "value" expression]),
  ("typed_default_parameter", prec (-1) (seq [
    field "name" (nt "identifier"), ":", field "type" (nt "type"), "=",
    field "value" expression])),
  ("list_splat_pattern", seq [
    "*", choice [nt "identifier", nt "keyword_identifier", nt "subscript", nt "attribute"]]),
  ("dictionary_splat_pattern", seq [
    "**", choice [nt "identifier", nt "keyword_identifier", nt "subscript", nt "attribute"]]),
  ("as_pattern", precLeft 0 (seq [
    expression, "as", field "alias" (renamed "as_pattern_target" expression)]))]

def binaryLeft (p : Precedence) (operator : String) : Rule :=
  precLeft p (seq [
    field "left" primary, field "operator" operator, field "right" primary])

def binaryRight (p : Precedence) (operator : String) : Rule :=
  precRight p (seq [
    field "left" primary, field "operator" operator, field "right" primary])

def boolean (p : Precedence) (operator : String) : Rule :=
  precLeft p (seq [
    field "left" expression, field "operator" operator, field "right" expression])

def expressions : List (String × Rule) := [
  ("_expression_within_for_in_clause", choice [
    expression, renamed "lambda" (nt "lambda_within_for_in_clause")]),
  ("expression", choice [
    nt "comparison_operator", nt "not_operator", nt "boolean_operator", nt "lambda", primary,
    nt "conditional_expression", nt "named_expression", nt "as_pattern"]),
  ("primary_expression", choice [
    nt "await", nt "binary_operator", nt "identifier", nt "keyword_identifier", nt "string",
    nt "concatenated_string", nt "integer", nt "float", nt "true", nt "false", nt "none",
    nt "unary_operator", nt "attribute", nt "subscript", nt "call", nt "list",
    nt "list_comprehension", nt "dictionary", nt "dictionary_comprehension", nt "set",
    nt "set_comprehension", nt "tuple", nt "parenthesized_expression",
    nt "generator_expression", nt "ellipsis", renamed "list_splat" (nt "list_splat_pattern")]),
  ("not_operator", prec 12 (seq ["not", field "argument" expression])),
  ("boolean_operator", choice [boolean 11 "and", boolean 10 "or"]),
  ("binary_operator", choice [
    binaryLeft 18 "+", binaryLeft 18 "-", binaryLeft 19 "*", binaryLeft 19 "@",
    binaryLeft 19 "/", binaryLeft 19 "%", binaryLeft 19 "//", binaryRight 21 "**",
    binaryLeft 14 "|", binaryLeft 15 "&", binaryLeft 16 "^", binaryLeft 17 "<<",
    binaryLeft 17 ">>"]),
  ("unary_operator", prec 20 (seq [
    field "operator" (choice ["+", "-", "~"]), field "argument" primary])),
  ("_not_in", seq ["not", "in"]),
  ("_is_not", seq ["is", "not"]),
  ("comparison_operator", precLeft 13 (seq [
    primary,
    many1 (seq [
      field "operators" (choice [
        "<", "<=", "==", "!=", ">=", ">", "<>", "in", shownAs "not in" (nt "_not_in"), "is",
        shownAs "is not" (nt "_is_not")]),
      primary])])),
  ("lambda", prec (-2) (seq [
    "lambda", field "parameters" (opt (nt "lambda_parameters")), ":",
    field "body" expression])),
  ("lambda_within_for_in_clause", seq [
    "lambda", field "parameters" (opt (nt "lambda_parameters")), ":",
    field "body" (nt "_expression_within_for_in_clause")]),
  ("assignment", seq [
    field "left" (nt "_left_hand_side"),
    choice [
      seq ["=", field "right" (nt "_right_hand_side")],
      seq [":", field "type" (nt "type")],
      seq [":", field "type" (nt "type"), "=", field "right" (nt "_right_hand_side")]]]),
  ("augmented_assignment", seq [
    field "left" (nt "_left_hand_side"),
    field "operator" (choice [
      "+=", "-=", "*=", "/=", "@=", "//=", "%=", "**=", ">>=", "<<=", "&=", "^=", "|="]),
    field "right" (nt "_right_hand_side")]),
  ("_left_hand_side", choice [nt "pattern", nt "pattern_list"]),
  ("pattern_list", seq [
    nt "pattern",
    choice [
      ",",
      seq [many1 (seq [",", nt "pattern"]), trailingComma]]]),
  ("_right_hand_side", choice [
    expression, nt "expression_list", nt "assignment", nt "augmented_assignment",
    nt "pattern_list", nt "yield"]),
  ("yield", precRight 0 (seq [
    "yield", choice [seq ["from", expression], opt (nt "_expressions")]])),
  ("attribute", prec 22 (seq [
    field "object" primary, ".", field "attribute" (nt "identifier")])),
  ("subscript", prec 22 (seq [
    field "value" primary, "[",
    commaSep1 (field "subscript" (choice [expression, nt "slice"])), trailingComma, "]"])),
  ("slice", seq [
    opt expression, ":", opt expression, opt (seq [":", opt expression])]),
  ("ellipsis", .literal "..."),
  ("call", prec 22 (seq [
    field "function" primary,
    field "arguments" (choice [nt "generator_expression", nt "argument_list"])])),
  ("typed_parameter", prec (-1) (seq [
    choice [nt "identifier", nt "list_splat_pattern", nt "dictionary_splat_pattern"],
    ":", field "type" (nt "type")])),
  ("type", choice [
    prec 1 expression, nt "splat_type", nt "generic_type", nt "union_type",
    nt "constrained_type", nt "member_type"]),
  ("splat_type", prec 1 (seq [choice ["*", "**"], nt "identifier"])),
  ("generic_type", prec 1 (seq [nt "identifier", nt "type_parameter"])),
  ("union_type", precLeft 0 (seq [nt "type", "|", nt "type"])),
  ("constrained_type", precRight 0 (seq [nt "type", ":", nt "type"])),
  ("member_type", seq [nt "type", ".", nt "identifier"]),
  ("keyword_argument", seq [
    field "name" (choice [nt "identifier", nt "keyword_identifier"]), "=",
    field "value" expression])]

def clauses : Rule := nt "_comprehension_clauses"

def collections : List (String × Rule) := [
  ("list", seq ["[", opt (nt "_collection_elements"), "]"]),
  ("set", seq [openBrace, nt "_collection_elements", closeBrace]),
  ("tuple", seq ["(", opt (nt "_collection_elements"), ")"]),
  ("dictionary", seq [
    openBrace, opt (commaSep1 (choice [nt "pair", nt "dictionary_splat"])), trailingComma,
    closeBrace]),
  ("pair", seq [field "key" expression, ":", field "value" expression]),
  ("list_comprehension", seq ["[", field "body" expression, clauses, "]"]),
  ("dictionary_comprehension", seq [
    openBrace, field "body" (nt "pair"), clauses, closeBrace]),
  ("set_comprehension", seq [openBrace, field "body" expression, clauses, closeBrace]),
  ("generator_expression", seq ["(", field "body" expression, clauses, ")"]),
  ("_comprehension_clauses", seq [
    nt "for_in_clause", many (choice [nt "for_in_clause", nt "if_clause"])]),
  ("parenthesized_expression", prec 1 (seq ["(", choice [expression, nt "yield"], ")"])),
  ("_collection_elements", seq [
    commaSep1 (choice [
      expression, nt "yield", nt "list_splat", nt "parenthesized_list_splat"]),
    trailingComma]),
  ("for_in_clause", precLeft 0 (seq [
    async, "for", field "left" (nt "_left_hand_side"), "in",
    field "right" (commaSep1 (nt "_expression_within_for_in_clause")), trailingComma])),
  ("if_clause", seq ["if", expression]),
  ("conditional_expression", precRight (-1) (seq [
    expression, "if", expression, "else", expression]))]

def literals : List (String × Rule) := [
  ("concatenated_string", seq [nt "string", many1 (nt "string")]),
  ("string", seq [
    nt "string_start", many (choice [nt "interpolation", nt "string_content"]),
    nt "string_end"]),
  ("string_content", precRight 0 (many1 (choice [
    nt "escape_interpolation", nt "escape_sequence", nt "_not_escape_sequence",
    nt "_string_content"]))),
  ("interpolation", seq [
    openBrace, field "expression" (nt "_f_expression"), opt "=",
    opt (field "type_conversion" (nt "type_conversion")),
    opt (field "format_specifier" (nt "format_specifier")), closeBrace]),
  ("_f_expression", choice [expression, nt "expression_list", nt "pattern_list", nt "yield"]),
  ("escape_sequence", immediate (prec 1 escapePattern)),
  ("_not_escape_sequence", immediate "\\"),
  ("format_specifier", seq [
    ":", many (choice [token formatText, renamed "format_expression" (nt "interpolation")])]),
  ("type_conversion", (.ofSeq [.char '!', .range 'a' 'z'] : Pattern)),
  ("integer", token integerPattern),
  ("float", token floatPattern),
  ("identifier", identifierPattern),
  ("keyword_identifier", choice [
    prec (-3) (renamed "identifier" (choice ["print", "exec", "async", "await"])),
    renamed "identifier" (choice ["type", "match"])]),
  ("true", .literal "True"),
  ("false", .literal "False"),
  ("none", .literal "None"),
  ("await", prec 20 (seq ["await", primary])),
  ("comment", token (.ofSeq [.char '#', .star (.noneOf "\n")] : Pattern)),
  ("line_continuation", token (.ofSeq [
    .char '\\',
    .ofAlt [.ofSeq [.opt (.char '\r'), .char '\n'], .char '\x00']] : Pattern)),
  ("positional_separator", .literal "/"),
  ("keyword_separator", .literal "*")]

def definition : Definition where
  rules := simpleStatements ++ compoundStatements ++ patterns ++ expressions ++ collections ++
    literals
  extras := [nt "comment", blank, nt "line_continuation"]
  externals := [
    nt "_newline", nt "_indent", nt "_dedent", nt "string_start", nt "_string_content",
    nt "escape_interpolation", nt "string_end", nt "comment", "]", ")", closeBrace, "except"]
  inlined := [
    "_simple_statement", "_compound_statement", "_suite", "_expressions", "_left_hand_side",
    "keyword_identifier"]
  families := [
    "_simple_statement", "_compound_statement", "expression", "primary_expression", "pattern",
    "parameter"]
  word := some "identifier"
  freeText := [formatText]

/-! ## The scanner -/

open CodeIndex.Parsing

/-- The tokens that the scanner finds or asks about. -/
inductive Scan where
  | newline
  | indent
  | dedent
  | stringStart
  | stringContent
  | doubledBrace
  | stringEnd
  | comment
  | closeBracket
  | closeParen
  | closeBrace
  | except

def Scan.number : Scan → Nat
  | newline => 0
  | indent => 1
  | dedent => 2
  | stringStart => 3
  | stringContent => 4
  | doubledBrace => 5
  | stringEnd => 6
  | comment => 7
  | closeBracket => 8
  | closeParen => 9
  | closeBrace => 10
  | except => 11

/-- How a string was opened. -/
structure Delimiter where
  quote : Char
  raw : Bool := false
  bytes : Bool := false
  /-- The string may hold interpolations. -/
  format : Bool := false
  triple : Bool := false
  deriving DecidableEq, Repr, Inhabited

/-- What the scanner remembers. Indentations count modulo 256; the outermost, zero, is not
written. -/
structure ScanState where
  inFormat : Bool := false
  delimiters : List Delimiter := []
  indents : List Nat := []
  deriving Repr, Inhabited

def Delimiter.encode (d : Delimiter) : Nat :=
  d.quote.toNat * 16 + (if d.raw then 8 else 0) + (if d.bytes then 4 else 0) +
    (if d.format then 2 else 0) + (if d.triple then 1 else 0)

def Delimiter.decode (n : Nat) : Delimiter where
  quote := Char.ofNat (n / 16)
  raw := n.testBit 3
  bytes := n.testBit 2
  format := n.testBit 1
  triple := n.testBit 0

/-- The innermost delimiter and indentation come first. -/
def ScanState.encode (s : ScanState) : Memory :=
  (if s.inFormat then 1 else 0) :: s.delimiters.length ::
    (s.delimiters.map Delimiter.encode ++ s.indents.map (· % 256))

def ScanState.decode : Memory → ScanState
  | f :: n :: rest => ⟨f = 1, (rest.take n).map Delimiter.decode, rest.drop n⟩
  | _ => {}

/-- What the scanner finds inside a string. -/
inductive StringScan where
  /-- Text up to a place. -/
  | content (stop : Cursor)
  /-- The end of the string. -/
  | close (stop : Cursor)
  | none
  /-- The text ends inside the string. -/
  | unfinished (here : Cursor)

/-- Step over a character if it is there. -/
def skipChar (p : Char → Bool) (c : Cursor) : Cursor :=
  match c.peek? with
  | some ch => if p ch then c.next else c
  | none => c

/-- Step over a backslash in a raw string and what it takes with it. -/
def skipRawEscape (d : Delimiter) (c : Cursor) : Cursor :=
  let c := skipChar (fun ch => ch = d.quote || ch = '\\') c.next
  if c.peek? = some '\r' then skipChar (· = '\n') c.next else skipChar (· = '\n') c

/-- Inside a string, from `c` on. -/
def scanString (d : Delimiter) : Nat → Bool → Cursor → StringScan
  | 0, _, c => .unfinished c
  | fuel + 1, hasContent, c =>
    let content : StringScan := if hasContent then .content c else .none
    match c.peek? with
    | none => .unfinished c
    | some ch =>
      if ch = '\x00' then .unfinished c
      else if (ch = '\x7b' || ch = '\x7d') && d.format then content
      else if ch = '\\' then
        if d.raw then scanString d fuel hasContent (skipRawEscape d c)
        else if d.bytes then
          let c' := c.next
          if c'.peek? = some 'N' || c'.peek? = some 'u' || c'.peek? = some 'U' then
            scanString d fuel true c'.next.next
          else content
        else content
      else if ch = d.quote then
        if d.triple then
          let c1 := c.next
          if c1.peek? ≠ some d.quote then .content c1 else
            let c2 := c1.next
            if c2.peek? ≠ some d.quote then .content c2
            else if hasContent then .content c
            else .close c2.next
        else if hasContent then .content c
        else .close c.next
      else if ch = '\n' && hasContent && !d.triple then .none
      else scanString d fuel true c.next

/-- The blank text before a token. -/
structure Margin where
  here : Cursor
  lineEnded : Bool := false
  indent : Nat := 0
  /-- The indentation of the first comment on a line of its own. -/
  comment : Option Nat := none

/-- Read the blank text and the comments before a token. Nothing, where a comment or a stray
backslash follows on the same line. -/
def readMargin (layoutPossible : Bool) : Nat → Margin → Option Margin
  | 0, m => some m
  | fuel + 1, m =>
    let c := m.here
    match c.peek? with
    | none => some { m with indent := 0, lineEnded := true }
    | some '\n' =>
      readMargin layoutPossible fuel { m with here := c.next, lineEnded := true, indent := 0 }
    | some ' ' => readMargin layoutPossible fuel { m with here := c.next, indent := m.indent + 1 }
    | some '\r' | some '\x0c' =>
      readMargin layoutPossible fuel { m with here := c.next, indent := 0 }
    | some '\t' => readMargin layoutPossible fuel { m with here := c.next, indent := m.indent + 8 }
    | some '#' =>
      if !layoutPossible then some m
      else if !m.lineEnded then none
      else
        let stop := c.skipWhile fun ch => ch ≠ '\n' && ch ≠ '\x00'
        readMargin layoutPossible fuel
          { m with here := stop.next, comment := m.comment.or (some m.indent), indent := 0 }
    | some '\\' =>
      let c := skipChar (· = '\r') c.next
      if c.peek? = some '\n' || c.atEnd then
        readMargin layoutPossible fuel { m with here := c.next }
      else none
    | some _ => some m

/-- The letters before a quote, and the quote. -/
def scanStringStart (c : Cursor) : Option (Delimiter × Cursor) :=
  let isFlag (ch : Char) : Bool := "fFrRbBuU".toList.contains ch
  let flags := c.rest.takeWhile isFlag
  let has (ch : Char) : Bool := flags.any (·.toLower = ch)
  let c := c.skipWhile isFlag
  match c.peek? with
  | some q =>
    if q ≠ '\x60' && q ≠ '\'' && q ≠ '"' then none else
      let c1 := c.next
      let triple := q ≠ '\x60' && c1.peek? = some q && c1.next.peek? = some q
      some (⟨q, has 'r', has 'b', has 'f', triple⟩, if triple then c1.next.next else c1)
  | none => none

def scan : Scanner := fun possible memory c =>
  let possible (s : Scan) : Bool := possible s.number
  let st := ScanState.decode memory
  let found (s : Scan) (start stop : Cursor) (st : ScanState) : Option Scanned :=
    some ⟨s.number, start, stop, st.encode⟩
  let anything := possible .stringContent && possible .indent
  let withinBrackets :=
    possible .closeBrace || possible .closeParen || possible .closeBracket
  let here (text : Cursor) : Option Scanned :=
    -- the place of a token without text is `c`, or the end of an unfinished string
    let layoutPossible :=
      possible .indent || possible .dedent || possible .newline || possible .except
    match readMargin layoutPossible (text.rest.length + 1) { here := text } with
    | none => none
    | some m =>
      let current := st.indents.headD 0
      let quoteNext := m.here.peek? = some '"' || m.here.peek? = some '\'' ||
        m.here.peek? = some '\x60'
      let commentBefore : Bool := match m.comment with
        | some k => k < current
        | none => true
      if m.lineEnded && possible .indent && m.indent > current then
        found .indent c text { st with indents := m.indent :: st.indents }
      else if m.lineEnded &&
          (possible .dedent ||
            (!possible .newline && !(possible .stringStart && quoteNext) &&
              !withinBrackets)) &&
          m.indent < current && !st.inFormat && commentBefore then
        found .dedent c text { st with indents := st.indents.drop 1 }
      else if m.lineEnded && possible .newline && !anything then found .newline c text st
      else if m.comment.isNone && possible .stringStart then
        match scanStringStart m.here with
        | some (d, stop) =>
          found .stringStart m.here stop
            { st with delimiters := d :: st.delimiters, inFormat := d.format }
        | none => none
      else none
  let inString : Option (Option Scanned) :=
    match st.delimiters with
    | d :: outer =>
      if anything then none
      else
        let brace := c.peek? = some '\x7b' || c.peek? = some '\x7d'
        if possible .doubledBrace && brace && d.format then
          if c.next.peek? = c.peek? then some (found .doubledBrace c c.next.next st)
          else some none
        else if possible .stringContent then
          match scanString d (c.rest.length + 1) false c with
          | .content stop => some (found .stringContent c stop st)
          | .close stop => some (found .stringEnd c stop ⟨false, outer, st.indents⟩)
          | .none => some none
          | .unfinished stop => some (here stop)
        else none
    | [] => none
  match inString with
  | some r => r
  | none => here c

end CodeIndex.Grammars.Python
