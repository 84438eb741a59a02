import CodeIndex.Grammar.Rule

/-!
# The tokens of TypeScript
-/

namespace CodeIndex.Grammars.TypeScript

open CodeIndex.Grammar

/-! ## Characters -/

/-- Characters that separate words. -/
def spaces : CharSet :=
  .union (.range '\u2000' '\u200a')
    (.ofList ['\u00a0', '\u1680', '\u202f', '\u205f', '\u3000'])

/-- Characters without a shape of their own. -/
def invisible : CharSet := .ofList ['\ufeff', '\u2060', '\u200b', '\u2028', '\u2029']

def asciiBlank : CharSet := .ofList " \t\r\n\x0b\x0c".toList

def blank : Pattern := .one (.union asciiBlank (.union spaces invisible))

/-- What no identifier holds. -/
def punctuation : CharSet :=
  .union (.range '\x00' '\x1f')
    (.union asciiBlank
      (.union spaces
        (.union invisible
          (.ofList ":;\x60\"'@#.,|^&<=>+-*/\\%?!~()[]\x7b\x7d".toList))))

/-- An escape that stands for a letter of an identifier. -/
def letterEscape : Pattern :=
  .ofAlt [
    .ofSeq [.word "\\u", .times .hexDigit 4],
    .ofSeq [.word "\\u\x7b", .plus .hexDigit, .char '\x7d']]

def wordStart : Pattern :=
  .ofAlt [.one (.compl (.union punctuation (.range '0' '9'))), letterEscape]

def wordPart : Pattern := .ofAlt [.one (.compl punctuation), letterEscape]

def identifierPattern : Pattern := .ofSeq [wordStart, .star wordPart]

def privatePattern : Pattern := .ofSeq [.char '#', wordStart, .star wordPart]

/-! ## Numbers -/

/-- Digits with single underscores between them. -/
def sepDigits (d : Pattern) : Pattern := .ofSeq [d, .star (.ofSeq [.opt (.char '_'), d])]

def decimalDigits : Pattern := sepDigits .digit

def hexNumber : Pattern := .ofSeq [.ofAlt [.word "0x", .word "0X"], sepDigits .hexDigit]

def binaryNumber : Pattern := .ofSeq [.ofAlt [.word "0b", .word "0B"], sepDigits (.oneOf "01")]

def octalNumber : Pattern :=
  .ofSeq [.ofAlt [.word "0o", .word "0O"], sepDigits (.range '0' '7')]

def exponent : Pattern := .ofSeq [.oneOf "eE", .opt (.oneOf "-+"), decimalDigits]

def decimalInteger : Pattern :=
  .ofAlt [
    .char '0',
    .ofSeq [
      .opt (.char '0'), .range '1' '9',
      .opt (.ofSeq [.opt (.char '_'), decimalDigits])]]

def decimalNumber : Pattern :=
  .ofAlt [
    .ofSeq [decimalInteger, .char '.', .opt decimalDigits, .opt exponent],
    .ofSeq [.char '.', decimalDigits, .opt exponent],
    .ofSeq [decimalInteger, exponent],
    decimalDigits]

def numberPattern : Pattern :=
  .ofAlt [
    hexNumber, decimalNumber, binaryNumber, octalNumber,
    .ofSeq [.ofAlt [hexNumber, binaryNumber, octalNumber, decimalDigits], .char 'n']]

/-! ## Strings, comments and regular expressions -/

def escapePattern : Pattern :=
  .ofSeq [
    .char '\\',
    .ofAlt [
      .one (.compl (.union (.range '0' '7') (.ofList ['x', 'u']))),
      .upTo (.range '0' '7') 1 2,
      .ofSeq [.char 'x', .times .hexDigit 2],
      .ofSeq [.char 'u', .times .hexDigit 4],
      .ofSeq [.word "u\x7b", .plus .hexDigit, .char '\x7d'],
      .ofSeq [.oneOf "\r?", .oneOf "\n\u2028\u2029"]]]

def doubleQuoted : Rule := immediate (prec 1 (.plus (.noneOf "\"\\\r\n") : Pattern))

def singleQuoted : Rule := immediate (prec 1 (.plus (.noneOf "'\\\r\n") : Pattern))

/-- Text of an attribute, up to the quote that ends it. -/
def attributeText (quote : Char) : Rule :=
  immediate (prec 1 (.plus (.ofAlt [
    .one (.compl (.ofList [quote, '&'])),
    .ofSeq [
      .char '&',
      .one (.compl (.union (.single '#') (.union (.range 'A' 'Z') (.range 'a' 'z'))))]]) : Pattern))

def commentPattern : Pattern :=
  .ofAlt [
    .ofSeq [.word "//", .star (.noneOf "\r\n\u2028\u2029")],
    .ofSeq [
      .word "/*", .star (.noneOf "*"), .plus (.char '*'),
      .star (.ofSeq [.noneOf "/*", .star (.noneOf "*"), .plus (.char '*')]), .char '/']]

def regexPattern : Pattern :=
  let escaped : Pattern := .ofSeq [.char '\\', .noneOf "\n"]
  .plus (.ofAlt [
    .ofSeq [.char '[', .star (.ofAlt [escaped, .noneOf "]\n\\"]), .char ']'],
    escaped,
    .noneOf "/\\[\n"])

def regexFlags : Rule := immediate (.plus (.range 'a' 'z') : Pattern)

/-- A name with a hyphen in it. -/
def hyphenatedPattern : Pattern :=
  let first : CharSet :=
    .union (.union (.range 'a' 'z') (.range 'A' 'Z')) (.ofList ['_', '$'])
  let part : CharSet := .union first (.range '0' '9')
  .ofSeq [
    .one first, .star (.one part), .char '-', .star (.one (.union part (.single '-')))]

def characterReference : Pattern :=
  .ofSeq [
    .char '&',
    .ofAlt [
      .ofSeq [
        .char '#',
        .ofAlt [.ofSeq [.oneOf "xX", .upTo .hexDigit 1 5], .upTo .digit 1 4]],
      .upTo .letter 1 29],
    .opt (.char ';')]

def openBrace : Rule := "\x7b"

def closeBrace : Rule := "\x7d"

def backquote : Rule := "\x60"

def openSubstitution : Rule := "$\x7b"

end CodeIndex.Grammars.TypeScript
