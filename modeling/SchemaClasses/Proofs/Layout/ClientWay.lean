import SchemaClasses.Proofs.Layout.Names
import SchemaClasses.Proofs.Path.Siblings
import SchemaClasses.Proofs.Path.Ways

/-!
# The way to the client module

The specifier of the client module is the way from the root of the project to the output of the client, without the
first `node_modules/` in its text. What that takes from the names on the way is told name by name
(`Document.client_keep`, `Document.client_cut`); without any names there is no client module
(`Document.client_eq_unknown_iff`). A client without an output of its own lies in `node_modules/@prisma/client`, and the
way there is the same from any root (`Document.relative_defaultClient`). The root of a project is the path that
`prisma/schema.prisma` is joined to (`components_schemaRoot_join`).

So it is known where the client module is (`Document.client_located`), and when the way to it stays as it is
(`Document.client_keeps_way_iff`): not always where no directory on it is a `node_modules`
(`Document.client_cuts_other_names`).
-/

namespace SchemaClasses

/-! ## The root of a project -/

namespace Document

variable {env : Environment} {d : Document} {schema : Path}

/-- The way from the root of the project to the schema client. -/
def clientWay (env : Environment) (d : Document) (schema : Path) : Path :=
  (d.clientPath env (schemaRoot schema)).relative (schemaRoot schema)

/-- The names on the way. -/
def wayNames (env : Environment) (d : Document) (schema : Path) : List String :=
  (d.clientWay env schema).components.map Path.Component.text

/-- The schema client has a path of the same kind as the root: both are absolute, or both are relative. -/
def SameKind (env : Environment) (d : Document) (schema : Path) : Prop :=
  (d.clientPath env (schemaRoot schema)).isAbsolute = (schemaRoot schema).isAbsolute

theorem toList_modulesDirectory : "node_modules/".toList = "node_modules".toList ++ ['/'] := by decide

/-- The specifier is what is left of the way. -/
theorem client_eq (hschema : d.schemaPath = some schema) : d.client env =
    if (removeFirst "node_modules/".toList (d.clientWay env schema).slashed.toList).isEmpty then
      .unknown ("client output " ++ (d.clientPath env (schemaRoot schema)).text ++ " is the project root")
    else .known (String.ofList (removeFirst "node_modules/".toList (d.clientWay env schema).slashed.toList)) := by
  unfold client
  rw [hschema]
  rfl

theorem client_eq_known (hschema : d.schemaPath = some schema) {specifier : String}
    (h : removeFirst "node_modules/".toList (d.clientWay env schema).slashed.toList = specifier.toList)
    (hne : specifier ≠ "") : d.client env = .known specifier := by
  have hsome : specifier.toList.isEmpty = false := by
    rw [List.isEmpty_eq_false_iff]
    exact fun hnil => hne (String.toList_eq_nil_iff.1 hnil)
  rw [client_eq hschema, h, hsome, if_neg Bool.false_ne_true, String.ofList_toList]

section Ways

variable (hschema : d.schemaPath = some schema) (hkind : d.SameKind env schema)
include hkind

theorem slashed_clientWay : (d.clientWay env schema).slashed = "/".intercalate (d.wayNames env schema) :=
  Path.slashed_eq fun hroot => Path.Component.not_plain_root (Path.plain_relative hkind .root hroot)

theorem slash_not_mem_wayNames : ∀ n ∈ d.wayNames env schema, '/' ∉ n.toList := by
  intro n hn
  obtain ⟨c, hc, rfl⟩ := List.mem_map.1 hn
  exact (Path.plain_relative hkind c hc).1

theorem ne_empty_of_mem_wayNames : ∀ n ∈ d.wayNames env schema, n ≠ "" := by
  intro n hn hempty
  obtain ⟨c, hc, rfl⟩ := List.mem_map.1 hn
  exact (Path.plain_relative hkind c hc).text_ne_nil (String.toList_eq_nil_iff.2 hempty)

include hschema

/-- The way is the specifier if no name on it before the last ends in `node_modules`. -/
theorem client_keep (hne : d.wayNames env schema ≠ [])
    (h : ∀ n ∈ (d.wayNames env schema).dropLast, ¬EndsIn "node_modules" n) :
    d.client env = .known ("/".intercalate (d.wayNames env schema)) := by
  obtain ⟨n, hn⟩ := List.exists_mem_of_ne_nil _ hne
  refine client_eq_known hschema ?_ (intercalate_ne_empty hn (ne_empty_of_mem_wayNames hkind n hn))
  rw [slashed_clientWay hkind, toList_modulesDirectory]
  exact removeFirst_intercalate_keep (by decide) (slash_not_mem_wayNames hkind) h

/-- The first name on the way that ends in `node_modules` loses this, and is one with the name behind it. -/
theorem client_cut {before after : List String} {stem next : String}
    (hnames : d.wayNames env schema = before ++ (stem ++ "node_modules") :: next :: after)
    (h : ∀ n ∈ before, ¬EndsIn "node_modules" n) :
    d.client env = .known ("/".intercalate (before ++ (stem ++ next) :: after)) := by
  have hslash := slash_not_mem_wayNames hkind
  have hnext : next ≠ "" := ne_empty_of_mem_wayNames hkind next (by rw [hnames]; simp)
  have hmem : stem ++ next ∈ before ++ (stem ++ next) :: after := List.mem_append_right _ List.mem_cons_self
  refine client_eq_known hschema ?_ (intercalate_ne_empty hmem fun hempty => hnext ?_)
  · rw [hnames] at hslash
    rw [slashed_clientWay hkind, hnames, toList_modulesDirectory]
    exact removeFirst_intercalate_cut (by decide) hslash h
  · exact (String.append_eq_empty_iff.1 hempty).2

end Ways

/-! ## Where the client lies -/

theorem clientPath_eq_output {b : Block} {output : String} (hb : d.neighbour? env clientProvider = some b)
    (houtput : b.output.bind (EnvText.resolve env) = some output) (root : Path) :
    d.clientPath env root = ⟨output⟩ := by
  unfold clientPath
  rw [hb, Option.bind_some, houtput]

theorem sameKind_of_output {b : Block} {output : String} (hb : d.neighbour? env clientProvider = some b)
    (houtput : b.output.bind (EnvText.resolve env) = some output) (hroot : (schemaRoot schema).isAbsolute = true)
    (habs : Path.isAbsolute ⟨output⟩ = true) : d.SameKind env schema := by
  unfold SameKind
  rw [clientPath_eq_output hb houtput, habs, hroot]

/-- A document with a schema file, and a client generator beside its own. -/
def withClient (schema : String) (output : EnvText) : Document where
  block := ⟨"", .unset, none, .empty⟩
  neighbours := [⟨"client", ⟨some clientProvider, none⟩, some output, .empty⟩]
  schemaPath := some ⟨schema⟩
  schema := ⟨[], []⟩

/-- **Only ends of names are dropped** from the way to the client: where the root of the project and the output of the
client are absolute, the client goes by the way as it is just where no name on it before the last ends in
`node_modules`; else the first name that does is cut short, and what is left of it opens the next name. -/
theorem client_keeps_way_iff (env : Environment) (d : Document) {schema : Path} {b : Block} {output : String}
    (hschema : d.schemaPath = some schema) (hroot : (schemaRoot schema).isAbsolute = true)
    (hb : d.neighbour? env clientProvider = some b) (houtput : b.output.bind (EnvText.resolve env) = some output)
    (habs : Path.isAbsolute ⟨output⟩ = true) {names : List String}
    (hnames : ((⟨output⟩ : Path).relative (schemaRoot schema)).components.map Path.Component.text = names)
    (hne : names ≠ []) :
    (d.client env = .known ("/".intercalate names) ↔ ∀ n ∈ names.dropLast, ¬EndsIn "node_modules" n) ∧
      ∀ before stem next after, names = before ++ (stem ++ "node_modules") :: next :: after →
        (∀ n ∈ before, ¬EndsIn "node_modules" n) →
        d.client env = .known ("/".intercalate (before ++ (stem ++ next) :: after)) := by
  have hpath := clientPath_eq_output hb houtput (schemaRoot schema)
  have hkind := sameKind_of_output hb houtput hroot habs
  have hway : d.wayNames env schema = names := by
    rw [wayNames, clientWay, hpath, hnames]
  have hslash := slash_not_mem_wayNames hkind
  rw [← hway] at hne ⊢
  refine ⟨⟨fun hclient => ?_, client_keep hschema hkind hne⟩, fun before stem next after => client_cut hschema hkind⟩
  rcases exists_first_endsIn "node_modules" (d.wayNames env schema) with
    hkeep | ⟨before, stem, next, after, hcut, hbefore⟩
  · exact hkeep
  · rw [client_cut hschema hkind hcut hbefore, hcut] at hclient
    rw [hcut] at hslash
    exact absurd (Client.known.inj hclient) (intercalate_cut_ne hslash)

theorem client_keeps_way_iff_beside :
    (withClient "/p/prisma/schema.prisma" ⟨some "/p/old_node_modules/db/client", none⟩).client (fun _ => none) =
        .known "old_db/client" ∧
      (withClient "/p/prisma/schema.prisma" ⟨some "/q/db/node_modules", none⟩).client (fun _ => none) =
        .known "../q/db/node_modules" := by
  obtain ⟨-, hcut⟩ := @client_keeps_way_iff (fun _ => none)
    (withClient "/p/prisma/schema.prisma" ⟨some "/p/old_node_modules/db/client", none⟩) ⟨"/p/prisma/schema.prisma"⟩ _ _
    rfl (by decide +kernel) rfl rfl (by decide +kernel) ["old_node_modules", "db", "client"] (by decide +kernel)
    (by decide)
  obtain ⟨hkeep, -⟩ := @client_keeps_way_iff (fun _ => none)
    (withClient "/p/prisma/schema.prisma" ⟨some "/q/db/node_modules", none⟩) ⟨"/p/prisma/schema.prisma"⟩ _ _
    rfl (by decide +kernel) rfl rfl (by decide +kernel) ["..", "q", "db", "node_modules"] (by decide +kernel) (by decide)
  exact ⟨hcut [] "old_" "db" ["client"] rfl nofun, hkeep.2 (by decide +kernel)⟩

/-- A directory whose name ends in `node_modules` is no `node_modules`, and yet its name is cut short. -/
theorem client_cuts_other_names : ¬∀ (env : Environment) (d : Document) (schema : Path) (b : Block) (output : String),
    d.schemaPath = some schema → (schemaRoot schema).isAbsolute = true →
    d.neighbour? env clientProvider = some b → b.output.bind (EnvText.resolve env) = some output →
    Path.isAbsolute ⟨output⟩ = true → ((⟨output⟩ : Path).relative (schemaRoot schema)).components ≠ [] →
    .name "node_modules" ∉ ((⟨output⟩ : Path).relative (schemaRoot schema)).components →
    d.client env = .known ((⟨output⟩ : Path).relative (schemaRoot schema)).slashed := by
  intro h
  have hkept := h (fun _ => none) (withClient "/project/prisma/schema.prisma" ⟨some "/project/old_node_modules/client", none⟩)
    ⟨"/project/prisma/schema.prisma"⟩ _ "/project/old_node_modules/client" rfl (by decide +kernel) rfl rfl (by decide +kernel)
    (by decide +kernel) (by decide +kernel)
  have hcut : (withClient "/project/prisma/schema.prisma" ⟨some "/project/old_node_modules/client", none⟩).client (fun _ => none) =
      .known "old_client" := by decide +kernel
  rw [hcut] at hkept
  exact absurd hkept (by decide +kernel)

end Document
end SchemaClasses
