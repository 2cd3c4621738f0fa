import SchemaClasses.Generation.Run
import SchemaClasses.Proofs.Conversion.Classes
import SchemaClasses.Proofs.Layout.Drafts
import SchemaClasses.Proofs.Text.SnakeCase

/-!
# Planned files

A plan that succeeds has one file for each class of the run, in order (`decl_of_plan`), each in the output directory
and under the name of its class (`directory_of_plan`, `path_of_plan`). A file brings what its class needs, from the
specifier between the files of the two class names (`brings_of_plan`), and each class it refers to has a file
(`exists_file_of_relation`).
-/

namespace SchemaClasses

open TypeScript

namespace Context

variable {c : Context} {ms : List SourceModule} {f : SourceModule}

/-- The path of the file of a class name. -/
def fileOf (c : Context) (name : String) : Path := c.output.join ⟨fileName name⟩

/-- The specifier of an origin in the file of a class name. -/
def specifierOf (c : Context) (name : String) : Origin → String
  | .module specifier => specifier
  | .model t => Path.specifier (c.fileOf name) (c.fileOf t)

/-! ## Drafts -/

theorem path_of_ofClass {d : Draft} {cls : ClassDecl} (h : Draft.ofClass c.client c.output cls = .ok d) :
    d.directory = c.output ∧ d.name = fileName d.decl.name ∧ d.decl = cls ∧ d.path = c.fileOf d.decl.name := by
  obtain ⟨enums, -, rfl⟩ := Draft.ofClass_eq_ok_iff.1 h
  exact ⟨rfl, rfl, rfl, rfl⟩

/-- The places of drafts: a class with a draft has the file of its name. -/
theorem get?_places {ds : List Draft} (h : ∀ d ∈ ds, d.path = c.fileOf d.decl.name) {t : String} {p : Path} :
    (Draft.places ds).get? t = some p ↔ (∃ d ∈ ds, d.decl.name = t) ∧ p = c.fileOf t := by
  have hsome : ∀ {q : Path}, (Draft.places ds).get? t = some q → (∃ d ∈ ds, d.decl.name = t) ∧ q = c.fileOf t := by
    intro q hq
    obtain ⟨d, hd, he⟩ := List.mem_map.1 (Dictionary.mem_of_get?_ofList hq)
    cases he
    exact ⟨⟨d, hd, rfl⟩, h d hd⟩
  constructor
  · exact hsome
  · rintro ⟨⟨d, hd, rfl⟩, hp⟩
    have hkey : ((Draft.places ds).get? d.decl.name).isSome :=
      Dictionary.get?_ofList_isSome.2 ⟨_, List.mem_map_of_mem hd, rfl⟩
    obtain ⟨q, hq⟩ := Option.isSome_iff_exists.1 hkey
    rw [hq, (hsome hq).2, hp]

/-- A planned file comes from a class of the run by a draft that is placed among all drafts. -/
theorem exists_draft_of_plan (h : c.plan = .ok ms) : ∃ ds, c.drafts = .ok ds ∧
    (∀ d ∈ ds, Draft.ofClass c.client c.output d.decl = .ok d) ∧ ds.mapM (Draft.place (Draft.places ds)) = .ok ms := by
  obtain ⟨ds, hds, hms⟩ := Outcome.bind_eq_ok_iff.1 h
  refine ⟨ds, hds, fun d hd => ?_, hms⟩
  obtain ⟨cls, -, hcls⟩ := Outcome.exists_of_mem_mapM hds hd
  rw [(path_of_ofClass hcls).2.2.1]
  exact hcls

/-! ## Files -/

/-- A plan has one file for each class of the run, in order. -/
theorem decl_of_plan (h : c.plan = .ok ms) : ms.map SourceFile.decl = c.classes := by
  obtain ⟨ds, hds, -, hms⟩ := exists_draft_of_plan h
  have hplace : ms.map SourceFile.decl = ds.map SourceFile.decl :=
    Outcome.map_of_mapM (fun d f hf => by obtain ⟨_, -, rfl⟩ := Draft.place_eq_ok_iff.1 hf; rfl) hms
  have hdraft : ds.map SourceFile.decl = c.classes.map id :=
    Outcome.map_of_mapM (fun cls d hd => (path_of_ofClass hd).2.2.1) hds
  rw [hplace, hdraft, List.map_id]

/-- The file of a draft and the file that it is placed as. -/
theorem of_mem_plan (h : c.plan = .ok ms) (hf : f ∈ ms) : ∃ ds d, d ∈ ds ∧ d.decl = f.decl ∧
    (∀ t p, (Draft.places ds).get? t = some p ↔ (∃ g ∈ ms, g.decl.name = t) ∧ p = c.fileOf t) ∧
    Draft.ofClass c.client c.output d.decl = .ok d ∧ d.place (Draft.places ds) = .ok f := by
  obtain ⟨ds, -, hof, hms⟩ := exists_draft_of_plan h
  obtain ⟨d, hd, hplace⟩ := Outcome.exists_of_mem_mapM hms hf
  have hdecl : ∀ {d : Draft} {g : SourceModule}, d.place (Draft.places ds) = .ok g → d.decl = g.decl := by
    intro d g hg
    obtain ⟨_, -, rfl⟩ := Draft.place_eq_ok_iff.1 hg
    rfl
  refine ⟨ds, d, hd, hdecl hplace, fun t p => ?_, hof d hd, hplace⟩
  -- Drafts and files have the same classes.
  rw [get?_places fun d hd => (path_of_ofClass (hof d hd)).2.2.2]
  refine and_congr_left fun _ => ⟨?_, ?_⟩
  · rintro ⟨d, hd, rfl⟩
    obtain ⟨g, hg, hdg⟩ := Outcome.exists_mem_mapM hms hd
    exact ⟨g, hg, by rw [hdecl hdg]⟩
  · rintro ⟨g, hg, rfl⟩
    obtain ⟨d, hd, hdg⟩ := Outcome.exists_of_mem_mapM hms hg
    exact ⟨d, hd, by rw [hdecl hdg]⟩

theorem file_of_plan (h : c.plan = .ok ms) (hf : f ∈ ms) : f.directory = c.output ∧ f.name = fileName f.decl.name := by
  obtain ⟨ds, d, -, -, -, hof, hplace⟩ := of_mem_plan h hf
  obtain ⟨imports, -, rfl⟩ := Draft.place_eq_ok_iff.1 hplace
  obtain ⟨hdir, hname, -⟩ := path_of_ofClass hof
  exact ⟨hdir, hname⟩

theorem path_of_plan (h : c.plan = .ok ms) (hf : f ∈ ms) : f.path = c.fileOf f.decl.name := by
  obtain ⟨hdir, hname⟩ := file_of_plan h hf
  unfold SourceFile.path
  rw [hdir, hname]
  rfl

theorem specifier?_eq_ok_iff {ds : List Draft} {d : Draft}
    (hplaces : ∀ t p, (Draft.places ds).get? t = some p ↔ (∃ g ∈ ms, g.decl.name = t) ∧ p = c.fileOf t)
    (hd : d.path = c.fileOf d.decl.name) {o : Origin} {s : String} :
    d.specifier? (Draft.places ds) o = .ok s ↔
      (∀ t, o = .model t → ∃ g ∈ ms, g.decl.name = t) ∧ s = c.specifierOf d.decl.name o := by
  cases o with
  | module m =>
    constructor
    · intro h; cases h; exact ⟨fun t ht => (by cases ht), rfl⟩
    · rintro ⟨-, rfl⟩; rfl
  | model t =>
    unfold Draft.specifier?
    dsimp only
    cases hp : (Draft.places ds).get? t with
    | none =>
      refine iff_of_false (fun h => by cases h) ?_
      rintro ⟨hg, -⟩
      have := (hplaces t (c.fileOf t)).2 ⟨hg t rfl, rfl⟩
      rw [hp] at this
      cases this
    | some p =>
      obtain ⟨hg, hpath⟩ := (hplaces t p).1 hp
      simp only [hd, hpath, Except.ok.injEq, specifierOf]
      constructor
      · intro hs
        exact ⟨fun t' ht => Origin.model.inj ht ▸ hg, hs.symm⟩
      · exact fun hs => hs.2.symm

/-- A planned file brings what its class needs, from the specifier of the origin. -/
theorem brings_of_plan (h : c.plan = .ok ms) (hf : f ∈ ms) {s x : String} : f.imports.Brings s x ↔
    ∃ o, f.decl.Needs c.client.specifier o x ∧ s = c.specifierOf f.decl.name o := by
  obtain ⟨ds, d, -, hdecl, hplaces, hof, hplace⟩ := of_mem_plan h hf
  have hpath := (path_of_ofClass hof).2.2.2
  rw [Draft.brings_place hplace, ← hdecl]
  constructor
  · rintro ⟨o, ho, hs⟩
    exact ⟨o, (Draft.brings_ofClass hof).1 ho, ((specifier?_eq_ok_iff hplaces hpath).1 hs).2⟩
  · rintro ⟨o, ho, rfl⟩
    have hbrings := (Draft.brings_ofClass hof).2 ho
    obtain ⟨s, hs⟩ := Draft.exists_specifier_of_place hplace hbrings
    obtain ⟨-, rfl⟩ := (specifier?_eq_ok_iff hplaces hpath).1 hs
    exact ⟨o, hbrings, hs⟩

/-- Each class that a planned file refers to has a planned file. -/
theorem exists_file_of_relation (h : c.plan = .ok ms) (hf : f ∈ ms) {t : String} (ht : t ∈ f.decl.relations.toList) :
    ∃ g ∈ ms, g.decl.name = t := by
  obtain ⟨ds, d, -, hdecl, hplaces, hof, hplace⟩ := of_mem_plan h hf
  rw [← hdecl] at ht
  obtain ⟨s, hs⟩ := Draft.exists_specifier_of_place hplace ((Draft.brings_ofClass hof).2 (.relation ht))
  exact ((specifier?_eq_ok_iff hplaces (path_of_ofClass hof).2.2.2).1 hs).1 t rfl

/-! ## Class names -/

/-- The classes of a run come from its models. -/
theorem exists_model_of_mem_classes {cls : ClassDecl} (h : cls ∈ c.classes) :
    ∃ m ∈ c.schema.models, ∃ sel ∈ Selection.used c.config.split, cls = m.classOf c.config.swagger sel :=
  mem_toClasses_iff.1 (List.mem_filter.1 h).1

theorem exists_model_of_mem_plan (h : c.plan = .ok ms) (hf : f ∈ ms) :
    ∃ m ∈ c.schema.models, ∃ sel ∈ Selection.used c.config.split, f.decl = m.classOf c.config.swagger sel :=
  exists_model_of_mem_classes (decl_of_plan h ▸ List.mem_map_of_mem hf)

/-- The classes of models that are named by identifiers are named by identifiers. -/
theorem isIdentifier_of_mem_classes (hid : ∀ m ∈ c.schema.models, Text.isIdentifier m.name) {cls : ClassDecl}
    (h : cls ∈ c.classes) : Text.isIdentifier cls.name := by
  obtain ⟨m, hm, sel, -, rfl⟩ := exists_model_of_mem_classes h
  have hending : sel.ending.toList.all Text.isWord = true := by cases sel <;> decide
  exact Text.isIdentifier_append (hid m hm) (List.all_eq_true.1 hending)

theorem isIdentifier_of_mem_plan (hid : ∀ m ∈ c.schema.models, Text.isIdentifier m.name) (h : c.plan = .ok ms)
    (hf : f ∈ ms) : Text.isIdentifier f.decl.name :=
  isIdentifier_of_mem_classes hid (decl_of_plan h ▸ List.mem_map_of_mem hf)

/-! ## Small runs -/

/-- A run over a few models, with classes that document nothing. -/
def small (split : Bool) (models : List Model) : Context :=
  ⟨⟨models, []⟩, { split, swagger := false }, ⟨"/out"⟩, .known "@prisma/client"⟩

end Context

end SchemaClasses
