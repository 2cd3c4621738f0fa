import SchemaClasses.Schema.Shape
import SchemaClasses.TypeScript.Class

/-!
# Properties of fields

Each field becomes a property: its type, whether it is optional, the expression it starts with, and a decorator that
documents the same for the Swagger page of an API (`Field.documentation`).
-/

namespace SchemaClasses

open TypeScript

/-- The module of the decorators that document a property. -/
def swaggerModule : String := "@nestjs/swagger"

/-- What the decorator of a field says about its type. -/
def Shape.typeEntries : Shape → List (String × Expression)
  | .scalar s => [("type", .code s.constructor)]
  | .relation name => [("type", .thunk name)]
  | .enum name => [("enum", .code name), ("enumName", .text name)]
  | .other _ => []

/-- The decorator that documents a field. -/
def Field.documentation (f : Field) : Decorator where
  name := if f.isRequired then "ApiProperty" else "ApiPropertyOptional"
  module := swaggerModule
  arguments :=
    [ObjectLiteral.ofList ((Shape.of f).typeEntries ++ if f.isList then [("isArray", .flag true)] else [])]

/-- The expression of a literal in a field of a shape. -/
def Shape.initializer (shape : Shape) (l : Literal) : String :=
  match shape with
  | .enum name => name ++ "." ++ l.text
  | .scalar .bigInt => "BigInt(" ++ l.text ++ ")"
  | .scalar .string => Text.quoted l.text
  | _ => l.text

/-- The expression that the property of a field starts with; only literals have one. -/
def Field.initializer (f : Field) : Option String :=
  match f.default with
  | some (.literal l) => some ((Shape.of f).initializer l)
  | _ => none

/-- The property of a field, with documentation if asked for. -/
def Field.toProperty (swagger : Bool) (f : Field) : Property where
  name := f.name
  type := f.type
  isOptional := !f.isRequired
  initializer := f.initializer
  decorators := if swagger then [f.documentation] else []

end SchemaClasses
