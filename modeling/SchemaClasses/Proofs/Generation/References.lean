import SchemaClasses.Layout.Index
import SchemaClasses.Proofs.Generation.Plan
import SchemaClasses.Proofs.Path.Siblings

/-!
# References between planned files

The name of a class is the stem of its file (`stem_snakeCase`), so the files of a plan import each other by this stem
(`specifierOf_model`), as the index file imports them (`origin_indexImport`). Whatever class a planned file refers to,
the file that it imports for it is the planned file of this class (`exists_import_of_relation`). The code of the index
file opens with one statement for each planned file, which imports the class of this file from it
(`indexCode_statements`).
-/

namespace SchemaClasses

open TypeScript

namespace Context

variable {c : Context} {ms : List SourceModule} {f : SourceModule} {name : String}

/-! ## Stems -/

theorem stem_snakeCase (h : Text.isIdentifier name) : Path.Stem (Text.snakeCase name) where
  ne_nil := Text.snakeCase_ne_nil h
  slash_not_mem hmem := absurd (Text.mem_snakeCase h '/' hmem) (by decide)
  dot_not_mem hmem := absurd (Text.mem_snakeCase h '.' hmem) (by decide)

theorem plain_fileName (h : Text.isIdentifier name) : Path.Component.Plain (.name (fileName name)) :=
  (stem_snakeCase h).plain

/-- A file of the output directory is imported from another by the stem of its class. -/
theorem specifier_fileOf {n : String} (hn : Path.Component.Plain (.name n)) (h : Text.isIdentifier name) :
    Path.specifier (c.output.join ⟨n⟩) (c.fileOf name) = "./" ++ Text.snakeCase name :=
  Path.specifier_sibling c.output hn (stem_snakeCase h)

theorem specifierOf_model {t : String} (hname : Text.isIdentifier name) (ht : Text.isIdentifier t) :
    c.specifierOf name (.model t) = "./" ++ Text.snakeCase t :=
  specifier_fileOf (plain_fileName hname) ht

theorem origin_indexImport (hid : ∀ m ∈ c.schema.models, Text.isIdentifier m.name) (h : c.plan = .ok ms)
    (hf : f ∈ ms) : (indexImport (indexLocation c.output) f).origin = "./" ++ Text.snakeCase f.decl.name := by
  have hindex : Path.Component.Plain (.name "index.ts") :=
    Path.Component.plain_name (by decide) (by decide) (by decide) (by decide)
  show Path.specifier (c.output.join ⟨"index.ts"⟩) f.path = _
  rw [path_of_plan h hf, specifier_fileOf hindex (isIdentifier_of_mem_plan hid h hf)]

/-- The stem of a planned class leads to its file. -/
theorem imported_stem (hid : ∀ m ∈ c.schema.models, Text.isIdentifier m.name) (h : c.plan = .ok ms) (hf : f ∈ ms) :
    c.output.imported ("./" ++ Text.snakeCase f.decl.name) = f.path.normalize := by
  rw [path_of_plan h hf]
  exact Path.imported_sibling c.output (stem_snakeCase (isIdentifier_of_mem_plan hid h hf))

/-! ## References -/

/-- Every class that a planned file refers to is imported from the planned file of that class. -/
theorem exists_import_of_relation (hid : ∀ m ∈ c.schema.models, Text.isIdentifier m.name) (h : c.plan = .ok ms)
    (hf : f ∈ ms) {t : String} (ht : t ∈ f.decl.relations.toList) :
    ∃ i ∈ f.imports.toList, Text.capitalize t ∈ i.names.toList ∧
      ∃ g ∈ ms, g.decl.name = t ∧ f.directory.imported i.origin = g.path.normalize := by
  obtain ⟨g, hg, hgt⟩ := exists_file_of_relation h hf ht
  have hfid := isIdentifier_of_mem_plan hid h hf
  have htid : Text.isIdentifier t := hgt ▸ isIdentifier_of_mem_plan hid h hg
  obtain ⟨i, hi, horigin, hname⟩ := (brings_of_plan h hf).2 ⟨_, .relation ht, rfl⟩
  refine ⟨i, hi, hname, g, hg, hgt, ?_⟩
  rw [horigin, specifierOf_model hfid htid, (file_of_plan h hf).1, ← hgt, imported_stem hid h hg]

/-! ## The index file -/

/-- A statement imports the class of a file under another name, by a specifier that leads from a directory to this
file. -/
def ImportsAliased (directory : Path) (f : SourceModule) (statement : String) : Prop :=
  ∃ s, statement = "import \x7b " ++ f.decl.name ++ " as _" ++ f.decl.name ++ " \x7d from '" ++ s ++ "';" ∧
    directory.imported s = f.path.normalize

/-- What the index file imports for a planned file is this file. -/
theorem imported_indexImport (hid : ∀ m ∈ c.schema.models, Text.isIdentifier m.name) (h : c.plan = .ok ms)
    (hf : f ∈ ms) : c.output.imported (indexImport (indexLocation c.output) f).origin = f.path.normalize := by
  rw [origin_indexImport hid h hf, imported_stem hid h hf]

/-- The statement of the index file that imports a class. -/
theorem render_indexImport (index : Path) (f : SourceModule) : (indexImport index f).renderMarked aliasMark =
    "import \x7b " ++ f.decl.name ++ " as _" ++ f.decl.name ++ " \x7d from '" ++ (indexImport index f).origin
      ++ "';" := by
  have hnames : (indexImport index f).names.toList = [f.decl.name] := OrderedSet.toList_ofList_singleton _
  have hmark : " as " ++ aliasMark = " as _" := rfl
  rw [Import.renderMarked, hnames, List.map_singleton, String.intercalate_singleton, ← hmark]
  simp only [String.append_assoc]

/-- The code of the index file opens with one statement for each planned file, in their order, which imports the class
of this file from it. -/
theorem indexCode_statements (hid : ∀ m ∈ c.schema.models, Text.isIdentifier m.name) (h : c.plan = .ok ms) :
    ∃ (statements : List String) (rest : String),
      indexCode (indexLocation c.output) ms = "\n".intercalate statements ++ "\n\nexport namespace " ++ rest ∧
      List.Forall₂ (ImportsAliased c.output) ms statements := by
  have hcode : ∃ rest, indexCode (indexLocation c.output) ms =
      "\n".intercalate (ms.map fun f => (indexImport (indexLocation c.output) f).renderMarked aliasMark)
        ++ "\n\nexport namespace " ++ rest := by
    unfold indexCode
    simp only [String.append_assoc]
    exact ⟨_, rfl⟩
  obtain ⟨rest, hrest⟩ := hcode
  refine ⟨_, rest, hrest, ?_⟩
  rw [List.forall₂_map_right_iff, List.forall₂_same]
  exact fun f hf => ⟨_, render_indexImport _ f, imported_indexImport hid h hf⟩

/-- **References resolve**: every class that a planned file refers to is imported from the planned file of that class,
and the code of the index file opens with the statements that import each planned file, in their order. The paths of the
files are normal if the output directory is. -/
theorem references_resolve (hid : ∀ m ∈ c.schema.models, Text.isIdentifier m.name) (h : c.plan = .ok ms) :
    (∀ f ∈ ms, ∀ t ∈ f.decl.relations.toList, ∃ i ∈ f.imports.toList, Text.capitalize t ∈ i.names.toList ∧
      ∃ g ∈ ms, g.decl.name = t ∧ f.directory.imported i.origin = g.path.normalize) ∧
    (∃ (statements : List String) (rest : String),
      indexCode (indexLocation c.output) ms = "\n".intercalate statements ++ "\n\nexport namespace " ++ rest ∧
      List.Forall₂ (ImportsAliased c.output) ms statements) ∧
    (c.output.normalize = c.output → ∀ f ∈ ms, f.path.normalize = f.path) := by
  refine ⟨fun f hf t ht => exists_import_of_relation hid h hf ht, indexCode_statements hid h, fun hnormal f hf => ?_⟩
  rw [path_of_plan h hf]
  exact Path.normalize_join_name (plain_fileName (isIdentifier_of_mem_plan hid h hf)) hnormal

/-- A run over two models that refer to each other. -/
def blog : Context :=
  small false [⟨"User", [.number "id", .reference "post" "BlogPost"]⟩, ⟨"BlogPost", [.reference "author" "User"]⟩]

theorem references_resolve_blog : ∃ ms statements rest, blog.plan = .ok ms ∧
    (ms.map fun f => (f.path.text, f.decl.relations.toList)) =
      [("/out/user.ts", ["BlogPost"]), ("/out/blog_post.ts", ["User"])] ∧
    (∀ f ∈ ms, ∀ t ∈ f.decl.relations.toList, ∃ i ∈ f.imports.toList, Text.capitalize t ∈ i.names.toList ∧
      ∃ g ∈ ms, g.decl.name = t ∧ f.directory.imported i.origin = g.path.normalize) ∧
    indexCode (indexLocation blog.output) ms = "\n".intercalate statements ++ "\n\nexport namespace " ++ rest ∧
    List.Forall₂ (ImportsAliased blog.output) ms statements ∧
    indexCode (indexLocation blog.output) ms =
      "import \x7b User as _User \x7d from './user';\nimport \x7b BlogPost as _BlogPost \x7d from './blog_post';\n\n" ++
        "export namespace PrismaModel \x7b\n  export class User extends _User \x7b\x7d\n" ++
        "  export class BlogPost extends _BlogPost \x7b\x7d\n\n" ++
        "  export const extraModels = [User, BlogPost];\n\x7d\n" ∧
    ∀ f ∈ ms, f.path.normalize = f.path := by
  obtain ⟨himports, ⟨statements, rest, hcode, hstatements⟩, hnormal⟩ :=
    references_resolve (c := blog) (by decide +kernel) rfl
  exact ⟨_, statements, rest, rfl, by decide +kernel, himports, hcode, hstatements, by decide +kernel,
    hnormal (by decide +kernel)⟩

end Context
end SchemaClasses
