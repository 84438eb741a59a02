import CodeIndex.Grammars.Go
import CodeIndex.Grammars.Java
import CodeIndex.Grammars.Python
import CodeIndex.Grammars.Rust
import CodeIndex.Grammars.TypeScript
import CodeIndex.Language.Document

/-!
# The parsers of the supported languages
-/

namespace CodeIndex.Language

open Parsing

def goParser : Parser := Parser.of Grammars.Go.definition noScanner

def javaParser : Parser := Parser.of Grammars.Java.definition noScanner

def rustParser : Parser := Parser.of Grammars.Rust.definition Grammars.Rust.scan

def pythonParser : Parser := Parser.of Grammars.Python.definition Grammars.Python.scan

def typescriptParser : Parser :=
  Parser.of (Grammars.TypeScript.definition false) Grammars.TypeScript.scan

def typescriptReactParser : Parser :=
  Parser.of (Grammars.TypeScript.definition true) Grammars.TypeScript.scan

def parser : Language → Parser
  | rust => rustParser
  | python => pythonParser
  | java => javaParser
  | typescript => typescriptParser
  | typescriptReact => typescriptReactParser
  | go => goParser

instance : Trees := ⟨fun l text => Syntax.Node.parse l.parser text⟩

end CodeIndex.Language
