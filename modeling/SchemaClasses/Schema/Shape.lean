import SchemaClasses.Schema.Basic
import SchemaClasses.Text.Casing

/-!
# Shapes of fields

What a field holds, as far as its class is concerned, is its **shape** (`Shape.of`): a scalar with a TypeScript type
of its own, an enum, another class, or something else that keeps its declared name. A relation name overrules the
declared kind.
-/

namespace SchemaClasses

/-- The scalars of the schema language. -/
inductive Scalar where
  | bigInt
  | boolean
  | bytes
  | dateTime
  | decimal
  | float
  | int
  | json
  | string
deriving DecidableEq

namespace Scalar

/-- Every scalar. -/
def all : List Scalar := [.bigInt, .boolean, .bytes, .dateTime, .decimal, .float, .int, .json, .string]

/-- The name of a scalar in a schema. -/
def name : Scalar → String
  | .bigInt => "BigInt"
  | .boolean => "Boolean"
  | .bytes => "Bytes"
  | .dateTime => "DateTime"
  | .decimal => "Decimal"
  | .float => "Float"
  | .int => "Int"
  | .json => "Json"
  | .string => "String"

/-- The TypeScript type of a scalar. -/
def type : Scalar → String
  | .bigInt => "BigInt"
  | .boolean => "boolean"
  | .bytes => "Buffer"
  | .dateTime => "Date"
  | .decimal => "number"
  | .float => "number"
  | .int => "number"
  | .json => "object"
  | .string => "string"

/-- The constructor that stands for the type of a scalar where a program runs. -/
def constructor (s : Scalar) : String := Text.capitalize s.type

/-- The scalar with a name. -/
def ofName? (name : String) : Option Scalar := all.find? fun s => s.name == name

end Scalar

/-- What a field holds. -/
inductive Shape where
  | scalar (s : Scalar)
  | enum (name : String)
  | relation (model : String)
  | other (name : String)
deriving DecidableEq

namespace Shape

/-- The shape of a field. -/
def of (f : Field) : Shape :=
  if f.hasRelation then .relation f.typeName
  else
    match f.kind with
    | .enum => .enum f.typeName
    | .object => .relation f.typeName
    | .scalar =>
      match Scalar.ofName? f.typeName with
      | some s => .scalar s
      | none => .other f.typeName
    | .unsupported => .other f.typeName

/-- The TypeScript type of one value of a shape. -/
def type : Shape → String
  | .scalar s => s.type
  | .enum name | .relation name | .other name => name

end Shape

/-- The type of lists of a type. -/
def listType (type : String) : String := type ++ "[]"

/-- The TypeScript type of a field. -/
def Field.type (f : Field) : String := if f.isList then listType (Shape.of f).type else (Shape.of f).type

end SchemaClasses
