/-!
# Supported languages

Each language has the identifier that editors use for it and the file extensions that belong to it.
-/

namespace CodeIndex

inductive Language where
  | rust
  | typescript
  | typescriptReact
  | python
  | go
  | java
  deriving DecidableEq, Repr, Inhabited, Hashable

namespace Language

def all : List Language := [rust, typescript, typescriptReact, python, go, java]

/-- The identifier that editors use. -/
def id : Language → String
  | rust => "rust"
  | typescript => "typescript"
  | typescriptReact => "typescriptreact"
  | python => "python"
  | go => "go"
  | java => "java"

/-- The extensions of its files, in lower case and without the dot. -/
def extensions : Language → List String
  | rust => ["rs"]
  | typescript => ["ts", "mts", "cts", "js", "mjs", "cjs"]
  | typescriptReact => ["tsx", "jsx"]
  | python => ["py", "pyi"]
  | go => ["go"]
  | java => ["java"]

def ofId? (s : String) : Option Language := all.find? (·.id = s)

def ofExtension? (e : String) : Option Language := all.find? (·.extensions.contains e)

end Language

end CodeIndex
