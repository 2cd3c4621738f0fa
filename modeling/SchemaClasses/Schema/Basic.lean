import SchemaClasses.Path.Basic
import SchemaClasses.Settings.Value

/-!
# Schemas

A schema lists **models** with their **fields**, and enums by name. A generator is run for a **generator block** of
the schema and is handed a **document**: its own block, the blocks beside it, the place of the schema file and the
schema itself.
-/

namespace SchemaClasses

/-- What a schema declares a field to hold. -/
inductive Field.Kind where
  | scalar
  | object
  | enum
  | unsupported
deriving DecidableEq

/-- A default value written out. -/
inductive Literal where
  | bool (b : Bool)
  | number (n : Json.Number)
  | string (s : String)

/-- A default value of a field. -/
inductive Default where
  | list (items : List Json.Value)
  /-- A value made when a record is stored, such as the time. -/
  | call (function : String) (args : List Json.Value)
  | literal (l : Literal)

/-- A field of a model. -/
structure Field where
  name : String
  kind : Field.Kind
  /-- The name of a scalar, an enum or a model. -/
  typeName : String
  isRequired : Bool
  isList : Bool
  relationName : Option String
  default : Option Default

/-- Whether a field refers to another model by a named relation. -/
def Field.hasRelation (f : Field) : Bool := f.relationName.isSome

/-- A model of a schema. -/
structure Model where
  name : String
  fields : List Field

/-- The models of a schema, and the names of its enums. -/
structure Schema where
  models : List Model
  enums : List String

/-- The variables of a process by name. -/
abbrev Environment := String → Option String

/-- A text that may come from a variable of the environment. -/
structure EnvText where
  value : Option String
  variableName : Option String
deriving DecidableEq

namespace EnvText

/-- Neither a text nor a variable. -/
def unset : EnvText := ⟨none, none⟩

/-- The text of the variable, if one is named and set, else the text. -/
def resolve (env : Environment) (v : EnvText) : Option String := (v.variableName.bind env).or v.value

end EnvText

/-- A generator block of a schema. -/
structure Block where
  name : String
  provider : EnvText
  output : Option EnvText
  settings : Settings

/-- What a generator is handed. -/
structure Document where
  block : Block
  neighbours : List Block
  schemaPath : Option Path
  schema : Schema

/-- The first block beside this one with a provider. -/
def Document.neighbour? (env : Environment) (d : Document) (provider : String) : Option Block :=
  d.neighbours.find? fun b => b.provider.resolve env == some provider

/-- The variables of the environment that a document names. -/
def Document.variableNames (d : Document) : List String :=
  (d.block :: d.neighbours).flatMap fun b =>
    b.provider.variableName.toList ++ (b.output.bind EnvText.variableName).toList

/-- The text of a literal. -/
def Literal.text : Literal → String
  | .bool b => toString b
  | .number n => n.text
  | .string s => s

end SchemaClasses
