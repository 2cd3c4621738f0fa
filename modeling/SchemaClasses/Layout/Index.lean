import SchemaClasses.Layout.Draft

/-!
# The index file

One file lists all classes: each is imported under another name and exported again, from a namespace, as an empty
subclass of its own.
-/

namespace SchemaClasses

open TypeScript

/-- What the names of imported classes start with. -/
def aliasMark : String := "_"

/-- The namespace of the exported classes. -/
def indexNamespace : String := "PrismaModel"

/-- The path of the index file of a directory. -/
def indexLocation (directory : Path) : Path := directory.join ⟨"index.ts"⟩

/-- The import of the class of a module into the index file. -/
def indexImport (index : Path) (f : SourceModule) : Import String :=
  ⟨Path.specifier index f.path, .ofList [f.decl.name]⟩

/-- The code of the index file of modules. -/
def indexCode (index : Path) (files : List SourceModule) : String :=
  "\n".intercalate (files.map fun f => (indexImport index f).renderMarked aliasMark)
    ++ "\n\nexport namespace " ++ indexNamespace ++ " \x7b\n"
    ++ "\n".intercalate (files.map fun f => "  " ++ f.decl.subclassExport aliasMark)
    ++ "\n\n  export const extraModels = [" ++ ", ".intercalate (files.map fun f => f.decl.name) ++ "];\n\x7d\n"

end SchemaClasses
