import SchemaClasses.Error
import SchemaClasses.Layout.Client
import SchemaClasses.Text.SnakeCase
import SchemaClasses.TypeScript.Class
import SchemaClasses.TypeScript.Import

/-!
# Files in the making

Each class gets a file of its own. A **draft** knows its place and what its class imports, but not yet where the files
of other classes are; once every draft has its place (`Draft.places`), `Draft.place` turns it into a **module** whose
imports are all specifiers.
-/

namespace SchemaClasses

open TypeScript

/-- The module that registers enums. -/
def graphqlModule : String := "@nestjs/graphql"

/-- The function that registers an enum. -/
def registerEnum : String := "registerEnumType"

/-- The name of the file of a class. -/
def fileName (className : String) : String := Text.snakeCase className ++ ".ts"

/-- A class in its file, with imports from origins of some kind. -/
structure SourceFile (ο : Type) where
  directory : Path
  name : String
  decl : ClassDecl
  imports : Imports ο

/-- The path of a file. -/
def SourceFile.path {ο : Type} (f : SourceFile ο) : Path := f.directory.join ⟨f.name⟩

/-- A file whose imports may be of classes without a place. -/
abbrev Draft := SourceFile Origin

/-- A file whose imports are all specifiers. -/
abbrev SourceModule := SourceFile String

namespace Draft

/-- The imports of the classes that a class refers to. -/
def relationImports (c : ClassDecl) : List (Import Origin) :=
  c.relations.toList.map fun r => ⟨.model r, .ofList [Text.capitalize r]⟩

/-- The imports of the enums that a class refers to, if the client module is known or there are none. -/
def enumImports (client : Client) (c : ClassDecl) : Except String (List (Import Origin)) :=
  if c.enums.isEmpty then .ok []
  else
    match client with
    | .unknown reason => .error reason
    | .known specifier =>
      .ok <| c.enums.toList.map (fun e => ⟨.module specifier, .ofList [e]⟩)
        ++ [⟨.module graphqlModule, .ofList [registerEnum]⟩]

/-- The imports of the decorators of a class. -/
def decoratorImports (c : ClassDecl) : List (Import Origin) :=
  c.usedDecorators.map fun d => ⟨.module d.module, .ofList [d.name]⟩

/-- The draft of a class in a directory. -/
def ofClass (client : Client) (directory : Path) (c : ClassDecl) : Except GenerationError Draft := do
  let enums ← (enumImports client c).mapError .clientUnknown
  return {
    directory
    name := fileName c.name
    decl := c
    imports := .ofList (relationImports c ++ enums ++ decoratorImports c) }

/-- The path of the file of each class by the name of the class; of two classes of one name the later holds. -/
def places (drafts : List Draft) : Dictionary Path :=
  .ofList (drafts.map fun d => (d.decl.name, d.path))

/-- The specifier of an origin in a draft, if it is known. -/
def specifier? (d : Draft) (places : Dictionary Path) : Origin → Except GenerationError String
  | .module specifier => .ok specifier
  | .model name =>
    match places.get? name with
    | some target => .ok (Path.specifier d.path target)
    | none => .error (.unknownModel d.path name)

/-- Imports with their specifiers, put to those before. -/
def placeImports (d : Draft) (places : Dictionary Path) (done : Imports String) :
    List (Import Origin) → Except GenerationError (Imports String)
  | [] => .ok done
  | i :: is => do
    let specifier ← d.specifier? places i.origin
    placeImports d places (done.merge ⟨specifier, i.names⟩) is

/-- The module of a draft. -/
def place (places : Dictionary Path) (d : Draft) : Except GenerationError SourceModule := do
  let imports ← d.placeImports places OrderedMap.empty d.imports.toList
  return { directory := d.directory, name := d.name, decl := d.decl, imports }

end Draft

/-- The code of a module: its imports, and the class behind an empty line. -/
def SourceModule.render (f : SourceModule) : Except GenerationError String :=
  match f.decl.render? with
  | none => .error (.noProperties f.decl.name)
  | some body =>
    if f.imports.entries.isEmpty then .ok body
    else .ok ("\n".intercalate (f.imports.toList.map Import.render) ++ "\n\n" ++ body)

end SchemaClasses
