/-!
# Kinds of symbols

A capture's label says what kind of symbol it marks: `definition.class`, `definition.class.name` and
`usage.class` all speak of a class.
-/

namespace CodeIndex

inductive SymbolKind where
  | file
  | module
  | namespace
  | package
  | «class»
  | method
  | property
  | field
  | constructor
  | enum
  | interface
  | function
  | variable
  | constant
  | string
  | number
  | boolean
  | array
  | object
  | key
  | null
  | enumMember
  | struct
  | event
  | operator
  | typeParameter
  deriving DecidableEq, Repr, Inhabited, Hashable

namespace SymbolKind

def all : List SymbolKind := [
  file, module, .namespace, package, .class, method, property, field, constructor, enum, interface,
  function, .variable, constant, string, number, boolean, array, object, key, null, enumMember,
  struct, event, operator, typeParameter]

/-- The name of a kind, in camel case. -/
def name : SymbolKind → String
  | file => "file"
  | module => "module"
  | .namespace => "namespace"
  | package => "package"
  | .class => "class"
  | method => "method"
  | property => "property"
  | field => "field"
  | constructor => "constructor"
  | enum => "enum"
  | interface => "interface"
  | function => "function"
  | .variable => "variable"
  | constant => "constant"
  | string => "string"
  | number => "number"
  | boolean => "boolean"
  | array => "array"
  | object => "object"
  | key => "key"
  | null => "null"
  | enumMember => "enumMember"
  | struct => "struct"
  | event => "event"
  | operator => "operator"
  | typeParameter => "typeParameter"

/-- The number of a kind in editor protocols, counted from one. -/
def code (k : SymbolKind) : Nat := all.idxOf k + 1

/-- Lower-case ASCII letters, the rest unchanged. -/
def lowerAscii (s : List Char) : List Char := s.map Char.toLower

/-- The word that labels use for a kind. -/
def word (k : SymbolKind) : List Char := lowerAscii k.name.toList

/-- The kind that a word names, in any case. -/
def ofWord? (w : List Char) : Option SymbolKind := all.find? (·.word = lowerAscii w)

end SymbolKind

/-! ## Labels -/

namespace Label

/-- What ends the label of a name. -/
def nameSuffix : List Char := ".name".toList

/-- The roles that a label can begin with. -/
def roles : List (List Char) := ["definition".toList, "usage".toList]

def isName (label : List Char) : Bool := nameSuffix.isSuffixOf label

/-- `s` without the suffix `t`, if it ends in it. -/
def dropSuffix (s t : List Char) : List Char :=
  if t.isSuffixOf s then s.take (s.length - t.length) else s

/-- `s` without the prefix `t`, if it begins with it. -/
def dropPrefix? (s t : List Char) : Option (List Char) :=
  if t.isPrefixOf s then some (s.drop t.length) else none

/-- The part of a label that names a kind: the role in front and the suffix of a name fall away, and
a role that stands alone names nothing. -/
def kindWord (label : List Char) : List Char :=
  let body := dropSuffix label nameSuffix
  let rest := (roles.findSome? fun r => dropPrefix? body (r ++ ['.'])).getD body
  if roles.contains rest then [] else rest

/-- The kind that a usage label gives, if it gives one. -/
def usageKind? (label : List Char) : Option SymbolKind := SymbolKind.ofWord? (kindWord label)

/-- The kind that a definition label gives; what it leaves open is a variable. -/
def kind (label : List Char) : SymbolKind := (usageKind? label).getD .variable

/-- `label` is `owner` followed by a dot and more. -/
def extends_ (label owner : List Char) : Bool :=
  match dropPrefix? label owner with
  | some ('.' :: _) => true
  | _ => false

end Label

end CodeIndex
