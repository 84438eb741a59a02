import CodeIndex.Language.Basic
import CodeIndex.Syntax.Query

/-!
# What is looked for in each language

A language has three facets. The *outline* captures definitions under `definition.<kind>` with their
names under `definition.<kind>.name`; *identifiers* captures words; *usages* captures words under
`usage` or `usage.<kind>`.
-/

namespace CodeIndex

open Syntax Shape

inductive Facet where
  | outline
  | identifiers
  | usages
  deriving DecidableEq, Repr

namespace Language

/-- A definition of the given kind, named by the child in the field `name`. -/
def definition (kind node name : String) (more : List Shape := []) : Shape :=
  let named := ((Shape.node name).inField "name").as ("definition." ++ kind ++ ".name")
  (Shape.node node (named :: more)).as ("definition." ++ kind)

def identifiers (kinds : List String) : Query := kinds.map fun k => (Shape.node k).as "identifier"

def plainUsages (kinds : List String) : Query := kinds.map fun k => (Shape.node k).as "usage"

/-- A use in a field of a node. -/
def usage (label node field child : String) : Shape :=
  Shape.node node [((Shape.node child).inField field).as label]

def rustOutline : Query := [
  definition "module" "mod_item" "identifier",
  definition "struct" "struct_item" "type_identifier",
  definition "struct" "union_item" "type_identifier",
  definition "enum" "enum_item" "type_identifier",
  definition "enummember" "enum_variant" "identifier",
  definition "interface" "trait_item" "type_identifier",
  (Shape.node "impl_item" [
    ((Shape.node "type_identifier").inField "type").as "definition.object.name"]).as
    "definition.object",
  (Shape.node "impl_item" [
    (Shape.node "generic_type" [
      ((Shape.node "type_identifier").inField "type").as "definition.object.name"]).inField
      "type"]).as "definition.object",
  definition "function" "function_item" "identifier",
  definition "function" "function_signature_item" "identifier",
  definition "function" "macro_definition" "identifier",
  definition "field" "field_declaration" "field_identifier",
  definition "constant" "const_item" "identifier",
  definition "constant" "static_item" "identifier",
  definition "typeparameter" "type_item" "type_identifier"]

def rustWords : List String := ["identifier", "type_identifier", "field_identifier"]

def rustUsages : Query := [
  usage "usage.function" "call_expression" "function" "identifier",
  Shape.node "call_expression" [
    (usage "usage.function" "field_expression" "field" "field_identifier").inField "function"],
  Shape.node "call_expression" [
    (usage "usage.function" "scoped_identifier" "name" "identifier").inField "function"],
  usage "usage.function" "macro_invocation" "macro" "identifier",
  usage "usage.struct" "struct_expression" "name" "type_identifier"] ++ plainUsages rustWords

def typescriptOutline : Query := [
  definition "namespace" "internal_module" "identifier",
  definition "module" "module" "identifier",
  definition "class" "class_declaration" "type_identifier",
  definition "class" "abstract_class_declaration" "type_identifier",
  definition "interface" "interface_declaration" "type_identifier",
  definition "enum" "enum_declaration" "identifier",
  definition "typeparameter" "type_alias_declaration" "type_identifier",
  definition "function" "function_declaration" "identifier",
  definition "function" "generator_function_declaration" "identifier",
  definition "method" "method_definition" "property_identifier",
  definition "method" "method_signature" "property_identifier",
  definition "field" "public_field_definition" "property_identifier",
  definition "property" "property_signature" "property_identifier",
  Shape.node "program" [
    Shape.node "lexical_declaration" [definition "variable" "variable_declarator" "identifier"]]]

def typescriptWords : List String := ["identifier", "property_identifier", "type_identifier"]

def typescriptUsages : Query := [
  usage "usage.function" "call_expression" "function" "identifier",
  usage "usage.class" "new_expression" "constructor" "identifier"] ++ plainUsages typescriptWords

def pythonOutline : Query := [
  definition "class" "class_definition" "identifier",
  definition "function" "function_definition" "identifier",
  Shape.node "module" [
    Shape.node "expression_statement" [
      (Shape.node "assignment" [
        ((Shape.node "identifier").inField "left").as "definition.variable.name"]).as
        "definition.variable"]]]

def pythonUsages : Query := [
  usage "usage.function" "call" "function" "identifier",
  Shape.node "call" [
    (usage "usage.function" "attribute" "attribute" "identifier").inField "function"]] ++
  plainUsages ["identifier"]

def goOutline : Query := [
  definition "function" "function_declaration" "identifier",
  definition "method" "method_declaration" "field_identifier",
  definition "struct" "type_spec" "type_identifier" [(Shape.node "struct_type").inField "type"],
  definition "interface" "type_spec" "type_identifier"
    [(Shape.node "interface_type").inField "type"],
  definition "field" "field_declaration" "field_identifier",
  definition "constant" "const_spec" "identifier"]

def goWords : List String := ["identifier", "field_identifier", "type_identifier"]

def goUsages : Query :=
  usage "usage.function" "call_expression" "function" "identifier" :: plainUsages goWords

def javaOutline : Query := [
  definition "class" "class_declaration" "identifier",
  definition "class" "record_declaration" "identifier",
  definition "interface" "interface_declaration" "identifier",
  definition "enum" "enum_declaration" "identifier",
  definition "enummember" "enum_constant" "identifier",
  definition "method" "method_declaration" "identifier",
  definition "constructor" "constructor_declaration" "identifier",
  (Shape.node "field_declaration" [
    (Shape.node "variable_declarator" [
      ((Shape.node "identifier").inField "name").as "definition.field.name"]).inField
      "declarator"]).as "definition.field"]

def javaWords : List String := ["identifier", "type_identifier"]

def javaUsages : Query := [
  usage "usage.method" "method_invocation" "name" "identifier",
  usage "usage.class" "object_creation_expression" "type" "type_identifier"] ++
  plainUsages javaWords

/-- The query of a facet. -/
def query : Language → Facet → Query
  | rust, .outline => rustOutline
  | rust, .identifiers => identifiers rustWords
  | rust, .usages => rustUsages
  | typescript, .outline | typescriptReact, .outline => typescriptOutline
  | typescript, .identifiers | typescriptReact, .identifiers => identifiers typescriptWords
  | typescript, .usages | typescriptReact, .usages => typescriptUsages
  | python, .outline => pythonOutline
  | python, .identifiers => identifiers ["identifier"]
  | python, .usages => pythonUsages
  | go, .outline => goOutline
  | go, .identifiers => identifiers goWords
  | go, .usages => goUsages
  | java, .outline => javaOutline
  | java, .identifiers => identifiers javaWords
  | java, .usages => javaUsages

end Language

end CodeIndex
