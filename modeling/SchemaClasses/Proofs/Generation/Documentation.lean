import Mathlib.Data.List.Forall2
import SchemaClasses.Proofs.Generation.Locality

/-!
# Documentation

A run that documents properties and one that does not plan the same files but for two things: each property has a
decorator (`Model.undocumented_classOf`), and a file whose class has properties imports the decorators, behind all that
the other file imports (`Context.toList_imports_moduleOf`). So both plans fail in the same way, or their files match one
by one (`Context.swagger_documents`).
-/

namespace SchemaClasses

open TypeScript Outcome

/-! ## Classes without their decorators -/

/-- The property without its decorators. -/
def TypeScript.Property.undocumented (p : Property) : Property := { p with decorators := [] }

/-- The class without its decorators and those of its properties. -/
def TypeScript.ClassDecl.undocumented (k : ClassDecl) : ClassDecl :=
  { k with properties := k.properties.map Property.undocumented, decorators := [] }

theorem Model.undocumented_classOf (m : Model) (sel : Selection) :
    (m.classOf true sel).undocumented = m.classOf false sel := by
  have hproperties : (m.classOf true sel).properties.map Property.undocumented = (m.classOf false sel).properties := by
    rw [properties_classOf, properties_classOf, List.map_map]
    rfl
  unfold ClassDecl.undocumented
  rw [hproperties]
  rfl

/-- A class that is documented uses one decorator for each field. -/
theorem Model.usedDecorators_classOf (m : Model) (sel : Selection) :
    (m.classOf true sel).usedDecorators = (m.selected sel).map Field.documentation := by
  show (m.classOf true sel).properties.flatMap Property.decorators = _
  rw [properties_classOf, List.flatMap_map, List.map_eq_flatMap]
  rfl

/-- A class without properties and decorators has nothing to lose. -/
theorem TypeScript.ClassDecl.undocumented_of_empty {k : ClassDecl} (hproperties : k.properties = [])
    (hdecorators : k.decorators = []) : k.undocumented = k := by
  cases k
  cases hproperties
  cases hdecorators
  rfl

theorem TypeScript.ClassDecl.usedDecorators_undocumented (k : ClassDecl) : k.undocumented.usedDecorators = [] := by
  unfold usedDecorators undocumented
  simp [Property.undocumented]

/-! ## What drafts and modules import -/

theorem graphqlModule_ne_swaggerModule : graphqlModule ≠ swaggerModule := by decide

namespace Draft

variable {client : Client} {directory : Path} {k : ClassDecl}

/-- A draft imports its decorators behind all else. -/
theorem imports_drafted (client : Client) (directory : Path) (k : ClassDecl) :
    (drafted client directory k).imports =
      (drafted client directory k.undocumented).imports.mergeAll (decoratorImports k) := by
  have hnone : decoratorImports k.undocumented = [] := by
    unfold decoratorImports
    rw [k.usedDecorators_undocumented]
    rfl
  show Imports.ofList _ = (Imports.ofList (_ ++ decoratorImports k.undocumented)).mergeAll _
  rw [hnone, List.append_nil]
  exact Imports.mergeAll_append ..

/-- Without decorators a draft imports from classes, the client module and the module that registers enums. -/
theorem mem_keys_undocumented {o : Origin} (h : o ∈ (drafted client directory k.undocumented).imports.keys) :
    (∃ t, o = .model t) ∨ o = .module client.specifier ∨ o = .module graphqlModule := by
  obtain ⟨i, hi, rfl⟩ := Imports.exists_of_mem_keys_ofList h
  rcases List.mem_append.1 hi with hi | hi
  · rcases List.mem_append.1 hi with hi | hi
    · obtain ⟨t, -, rfl⟩ := List.mem_map.1 hi
      exact Or.inl ⟨t, rfl⟩
    · exact Or.inr (origin_of_mem_knownEnumImports hi)
  · unfold decoratorImports at hi
    rw [k.usedDecorators_undocumented] at hi
    cases hi

/-- The decorators of one module that a draft imports from nowhere else make one import, which comes last. -/
theorem toList_imports_drafted (hclient : client.specifier ≠ swaggerModule)
    (hk : ∀ d ∈ k.usedDecorators, d.module = swaggerModule) (hne : k.usedDecorators ≠ []) :
    (drafted client directory k).imports.toList = (drafted client directory k.undocumented).imports.toList ++
      [⟨.module swaggerModule, .ofList (k.usedDecorators.map Decorator.name)⟩] := by
  have hdecorators : decoratorImports k =
      (k.usedDecorators.map Decorator.name).map fun n => ⟨.module swaggerModule, .ofList [n]⟩ := by
    unfold decoratorImports
    rw [List.map_map]
    exact List.map_congr_left fun d hd => by rw [hk d hd]; rfl
  have hnew : .module swaggerModule ∉ (drafted client directory k.undocumented).imports.keys := by
    intro hmem
    rcases mem_keys_undocumented hmem with ⟨t, ho⟩ | ho | ho
    · cases ho
    · exact hclient (Origin.module.inj ho).symm
    · exact graphqlModule_ne_swaggerModule (Origin.module.inj ho).symm
  rw [imports_drafted, hdecorators]
  exact Imports.toList_mergeAll_of_new hnew fun h => hne (List.map_eq_nil_iff.1 h)

end Draft

namespace Context

variable {c : Context} {k : ClassDecl}

/-- Without decorators a module imports from nowhere that decorators come from. -/
theorem swagger_not_mem_keys (hclient : c.client.specifier ≠ swaggerModule) (k : ClassDecl) :
    swaggerModule ∉ (c.moduleOf k.undocumented).imports.keys := by
  intro hmem
  obtain ⟨i, hi, ho⟩ := Imports.exists_of_mem_keys_ofList hmem
  obtain ⟨j, hj, rfl⟩ := List.mem_map.1 hi
  have hkey : j.origin ∈ (Draft.drafted c.client c.output k.undocumented).imports.keys := by
    rw [← Imports.map_origin_toList]
    exact List.mem_map_of_mem hj
  rcases Draft.mem_keys_undocumented hkey with ⟨t, horigin⟩ | horigin | horigin
  · -- The specifier of another file opens with a dot.
    have hsame : Path.specifier (c.fileOf k.name) (c.fileOf t) = swaggerModule := by
      rw [horigin] at ho
      exact ho
    have hdot := Path.head?_specifier (c.fileOf k.name) (c.fileOf t)
    rw [hsame] at hdot
    revert hdot
    decide
  · rw [horigin] at ho
    exact hclient ho
  · rw [horigin] at ho
    exact graphqlModule_ne_swaggerModule ho

/-- A module imports its decorators behind all that it imports without them. -/
theorem toList_imports_moduleOf (hclient : c.client.specifier ≠ swaggerModule)
    (hk : ∀ d ∈ k.usedDecorators, d.module = swaggerModule) (hne : k.usedDecorators ≠ []) :
    (c.moduleOf k).imports.toList = (c.moduleOf k.undocumented).imports.toList ++
      [⟨swaggerModule, .ofList (k.usedDecorators.map Decorator.name)⟩] := by
  have himports : (c.moduleOf k).imports = (c.moduleOf k.undocumented).imports.merge
      ⟨swaggerModule, .ofList (k.usedDecorators.map Decorator.name)⟩ := by
    unfold moduleOf
    dsimp only
    rw [Draft.toList_imports_drafted hclient hk hne, List.map_append]
    exact Imports.mergeAll_append ..
  rw [himports]
  exact Imports.toList_merge_of_new (c.swagger_not_mem_keys hclient k)

/-! ## Runs with and without documentation -/

/-- The context of a run that documents properties, or does not. -/
def withSwagger (c : Context) (swagger : Bool) : Context := { c with config := { c.config with swagger } }

theorem classes_withSwagger (c : Context) (swagger : Bool) :
    (c.withSwagger swagger).classes = c.origins.map fun o => o.1.classOf swagger o.2 :=
  (c.withSwagger swagger).classes_eq_map_origins

theorem isMissing_withSwagger (c : Context) (swagger other : Bool) :
    (c.withSwagger swagger).isMissing = (c.withSwagger other).isMissing := by
  funext t
  unfold isMissing
  rw [classes_withSwagger, classes_withSwagger, List.all_map, List.all_map]
  rfl

/-- Why a plan fails. -/
def firstFault? (c : Context) : Option GenerationError :=
  (c.classes.findSome? c.client.fault?).or (c.classes.findSome? c.fault?)

/-- Classes are at fault with documentation as they are without. -/
theorem firstFault?_withSwagger (c : Context) (swagger other : Bool) :
    (c.withSwagger swagger).firstFault? = (c.withSwagger other).firstFault? := by
  unfold firstFault? fault?
  rw [c.isMissing_withSwagger swagger other, classes_withSwagger, classes_withSwagger]
  simp only [List.findSome?_map]
  rfl

theorem plan_withSwagger (c : Context) (swagger : Bool) : (c.withSwagger swagger).plan =
    orElse (c.withSwagger false).firstFault? (c.origins.map fun o => c.moduleOf (o.1.classOf swagger o.2)) := by
  have hmodules : (c.withSwagger swagger).classes.map (c.withSwagger swagger).moduleOf =
      c.origins.map fun o => c.moduleOf (o.1.classOf swagger o.2) := by
    rw [classes_withSwagger, List.map_map]
    rfl
  rw [plan_eq, hmodules, ← c.firstFault?_withSwagger swagger false]
  rfl

end Context

/-- A file that documents its properties, beside the file that does not: at the same path, with the same class but for
decorators, of which each property has one here and none there, and with these decorators imported behind the same
imports. -/
structure SourceFile.Documents (on off : SourceModule) : Prop where
  path : on.path = off.path
  decl : on.decl.undocumented = off.decl
  decorated : ∀ p ∈ on.decl.properties, p.decorators.map Decorator.module = [swaggerModule]
  empty : on.decl.properties = [] → on.imports.toList = off.imports.toList
  imports : on.decl.properties ≠ [] → ∃ names : OrderedSet String,
    names.toList = (on.decl.usedDecorators.map Decorator.name).eraseDups ∧
      on.imports.toList = off.imports.toList ++ [⟨swaggerModule, names⟩]

namespace Context

variable {c : Context}

/-- The modules of one model with and without documentation. -/
theorem documents_moduleOf (hclient : c.client.specifier ≠ swaggerModule) (m : Model) (sel : Selection) :
    (c.moduleOf (m.classOf true sel)).Documents (c.moduleOf (m.classOf false sel)) := by
  have huses := m.usedDecorators_classOf sel
  rw [← m.undocumented_classOf]
  refine ⟨rfl, rfl, fun p hp => ?_, fun hnone => ?_, fun hsome => ⟨_, OrderedSet.toList_ofList _, ?_⟩⟩
  · obtain ⟨f, -, rfl⟩ := List.mem_map.1 hp
    rfl
  · -- Then the two classes are the same.
    have hsame : (m.classOf true sel).undocumented = m.classOf true sel := ClassDecl.undocumented_of_empty hnone rfl
    rw [hsame]
  · refine toList_imports_moduleOf hclient (fun d hd => ?_) fun hnone => hsome ?_
    · rw [huses] at hd
      obtain ⟨f, -, rfl⟩ := List.mem_map.1 hd
      rfl
    · rw [huses, List.map_eq_nil_iff] at hnone
      exact congrArg (List.map (Field.toProperty true)) hnone

/-- **Documentation changes decorators and nothing else.** Of two runs of which one documents properties and the other
does not, both plan nothing, for the same reason, or their files match one by one: at the same path is the same class
but for decorators, and the one file imports these behind all that the other imports. -/
theorem swagger_documents (c : Context) (hclient : c.client ≠ .known swaggerModule) :
    (∃ e, (c.withSwagger true).plan = .error e ∧ (c.withSwagger false).plan = .error e) ∨
    ∃ on off, (c.withSwagger true).plan = .ok on ∧ (c.withSwagger false).plan = .ok off ∧
      List.Forall₂ SourceFile.Documents on off := by
  have hspecifier : c.client.specifier ≠ swaggerModule := by
    cases hc : c.client with
    | known specifier => exact fun h => hclient (hc.trans (congrArg Client.known h))
    | unknown reason =>
      have hne : "" ≠ swaggerModule := by decide
      exact hne
  rw [plan_withSwagger, plan_withSwagger]
  cases (c.withSwagger false).firstFault? with
  | some e => exact Or.inl ⟨e, rfl, rfl⟩
  | none =>
    refine Or.inr ⟨_, _, rfl, rfl, ?_⟩
    rw [List.forall₂_map_left_iff, List.forall₂_map_right_iff, List.forall₂_same]
    exact fun o _ => documents_moduleOf hspecifier o.1 o.2

/-- A run over two models that refer to each other, one of them with an enum and an optional number. -/
def authors : Context := small false
  [⟨"User", [.number "id", { Field.number "age" with isRequired := false }, .choice "role" "Role" "READER",
    .reference "post" "Post"]⟩, ⟨"Post", [.reference "author" "User"]⟩]

theorem swagger_documents_authors : authors.client ≠ .known swaggerModule ∧
    ∃ on off, (authors.withSwagger true).plan = .ok on ∧ (authors.withSwagger false).plan = .ok off ∧
      List.Forall₂ SourceFile.Documents on off ∧
      (on.map fun f => f.imports.toList.map fun i => (i.origin, i.names.toList)) =
        [[("./post", ["Post"]), ("@prisma/client", ["Role"]), ("@nestjs/graphql", ["registerEnumType"]),
            ("@nestjs/swagger", ["ApiProperty", "ApiPropertyOptional"])],
          [("./user", ["User"]), ("@nestjs/swagger", ["ApiProperty"])]] := by
  have hclient : authors.client ≠ .known swaggerModule := by decide
  have himports : ((authors.withSwagger true).plan.toOption.map fun ms =>
      ms.map fun f => f.imports.toList.map fun i => (i.origin, i.names.toList)) =
        some [[("./post", ["Post"]), ("@prisma/client", ["Role"]), ("@nestjs/graphql", ["registerEnumType"]),
            ("@nestjs/swagger", ["ApiProperty", "ApiPropertyOptional"])],
          [("./user", ["User"]), ("@nestjs/swagger", ["ApiProperty"])]] := by decide +kernel
  refine ⟨hclient, ?_⟩
  rcases swagger_documents authors hclient with ⟨e, he, -⟩ | ⟨on, off, hon, hoff, hfiles⟩
  · rw [he] at himports
    cases himports
  · rw [hon] at himports
    exact ⟨on, off, hon, hoff, hfiles, Option.some.inj himports⟩

end Context
end SchemaClasses
