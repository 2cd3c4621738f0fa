import SchemaClasses.Path.Relative
import SchemaClasses.Schema.Basic

/-!
# The client module

Enums are imported from the module that another generator, the schema client, writes. `Document.client` finds its
specifier: the way from the root of the project to the output of that generator, without the first `node_modules/` in
it; without an output of its own, the client lies in `node_modules/@prisma/client`.
-/

namespace SchemaClasses

/-- The provider of the schema client. -/
def clientProvider : String := "prisma-client-js"

/-- The specifier of the client module, or why there is none. -/
inductive Client where
  | known (specifier : String)
  | unknown (reason : String)
deriving DecidableEq

/-- The root of a project with a schema file: the directory in which it is `prisma/schema.prisma`, else the directory
of the file. -/
def schemaRoot (schema : Path) : Path :=
  match schema.components.reverse with
  | .name "schema.prisma" :: .name "prisma" :: c :: cs => Path.ofComponents (c :: cs).reverse
  | _ => schema.parent?.getD ⟨""⟩

/-- A text without the first occurrence of `part`. -/
def removeFirst (part : List Char) : List Char → List Char
  | [] => []
  | c :: cs => if part <+: c :: cs then (c :: cs).drop part.length else c :: removeFirst part cs

/-- The directory of the schema client. -/
def Document.clientPath (env : Environment) (d : Document) (root : Path) : Path :=
  match (d.neighbour? env clientProvider).bind fun b => b.output.bind (EnvText.resolve env) with
  | some output => ⟨output⟩
  | none => ((root.join ⟨"node_modules"⟩).join ⟨"@prisma"⟩).join ⟨"client"⟩

/-- The module of the schema client. -/
def Document.client (env : Environment) (d : Document) : Client :=
  match d.schemaPath with
  | none => .unknown "no schema path was provided"
  | some schema =>
    let root := schemaRoot schema
    let path := d.clientPath env root
    let way := (path.relative root).slashed
    let specifier := removeFirst "node_modules/".toList way.toList
    if specifier.isEmpty then .unknown ("client output " ++ path.text ++ " is the project root")
    else .known (String.ofList specifier)

end SchemaClasses
