import SchemaClasses.Json.Record
import SchemaClasses.Schema.Basic

/-!
# Reading schemas

The records of a document, as declared for the JSON reader. A default is told by its form: an array is a list, an
object a call, anything else but `null` a literal (`Default.ofJson?`).
-/

namespace SchemaClasses

open Json (Reader Fields)

/-! ## Fields and models -/

/-- The kind that a name stands for. -/
def Field.Kind.ofName? : String → Option Field.Kind
  | "scalar" => some .scalar
  | "object" => some .object
  | "enum" => some .enum
  | "unsupported" => some .unsupported
  | _ => none

/-- Reads the name of a kind. -/
def Field.Kind.named (name : String) : Except Json.Error Field.Kind :=
  match Field.Kind.ofName? name with
  | some k => .ok k
  | none => .error (.unknownVariant name ["scalar", "object", "enum", "unsupported"])

/-- Reads a kind: its name, or an object with the name as its one key and `null` as its value. -/
def Field.Kind.read : Reader Field.Kind
  | _, .string s => do
    let name ← Json.literalText s
    Field.Kind.named name
  | depth, .object members fault => do
    Json.openContainer depth
    match members with
    | [] =>
      Json.checkFault fault
      .error (.fault .malformed)
    | (key, t) :: more =>
      let name ← Json.textAs "variant identifier" (depth + 1) key
      let kind ← Field.Kind.named name
      match t with
      | .null => pure ()
      | t => Json.refuse "unit" t
      if more.isEmpty then Json.checkFault fault else .error (.fault .malformed)
      return kind
  | _, .broken f => .error (.fault f)
  | _, _ => .error (.fault .malformed)

/-- The call that the members of an object give: one text under `name`, and at most one list under `args`. -/
def Default.callOf? (members : List (String × Json.Value)) : Option Default :=
  match members.filter (·.1 == "name"), members.filter (·.1 == "args") with
  | [(_, .string name)], [] => some (.call name [])
  | [(_, .string name)], [(_, .array args)] => some (.call name (Json.canonicalItems args))
  | _, _ => none

/-- The default that a JSON value gives. -/
def Default.ofJson? : Json.Value → Option Default
  | .array items => some (.list (Json.canonicalItems items))
  | .object members => Default.callOf? members
  | .bool b => some (.literal (.bool b))
  | .number n => some (.literal (.number n))
  | .string s => some (.literal (.string s))
  | .null => none

/-- Reads a default; its whole text is read before its form is judged. -/
def Default.read : Reader Default := fun depth t => do
  let v ← Json.value depth t
  match Default.ofJson? v with
  | some d => return d
  | none => .error (.noVariant "FieldDefault")

/-- Reads a field. -/
def Field.read : Reader Field :=
  Json.record "Field" <| Fields.start Field.mk
    |>.required "name" Json.text
    |>.required "kind" Field.Kind.read
    |>.required "type" Json.text
    |>.withDefault "isRequired" false Json.flag
    |>.withDefault "isList" false Json.flag
    |>.withDefault "relationName" none (Json.optional Json.text)
    |>.withDefault "default" none (Json.optional Default.read)

/-- Reads a model. -/
def Model.read : Reader Model :=
  Json.record "Model" <| Fields.start Model.mk
    |>.required "name" Json.text
    |>.withDefault "fields" [] (Json.sequence Field.read)

/-- Reads an enum, of which only the name counts. -/
def readEnum : Reader String :=
  Json.record "DatamodelEnum" <| Fields.start id
    |>.required "name" Json.text

/-- Reads a schema. -/
def Schema.read : Reader Schema :=
  Json.record "Datamodel" <| Fields.start Schema.mk
    |>.withDefault "models" [] (Json.sequence Model.read)
    |>.withDefault "enums" [] (Json.sequence readEnum)

/-! ## Documents -/

/-- Reads a text that may come from the environment. -/
def EnvText.read : Reader EnvText :=
  Json.record "EnvValue" <| Fields.start EnvText.mk
    |>.withDefault "value" none (Json.optional Json.text)
    |>.withDefault "fromEnvVar" none (Json.optional Json.text)

/-- Reads a generator block. -/
def Block.read : Reader Block :=
  Json.record "GeneratorBlock" <| Fields.start Block.mk
    |>.withDefault "name" "" Json.text
    |>.withDefault "provider" EnvText.unset EnvText.read
    |>.withDefault "output" none (Json.optional EnvText.read)
    |>.withDefault "config" Dictionary.empty Settings.read

/-- Reads a schema in the record that wraps it. -/
def Schema.readWrapped : Reader Schema :=
  Json.record "Document" <| Fields.start id
    |>.required "datamodel" Schema.read

/-- Reads a path. -/
def Path.read : Reader Path := fun depth t => (Json.textAs "path string" depth t).map Path.mk

/-- Reads what a generator is handed. -/
def Document.read : Reader Document :=
  Json.record "GeneratorOptions" <| Fields.start Document.mk
    |>.required "generator" Block.read
    |>.withDefault "otherGenerators" [] (Json.sequence Block.read)
    |>.withDefault "schemaPath" none (Json.optional Path.read)
    |>.required "dmmf" Schema.readWrapped

end SchemaClasses
