import SchemaClasses.Proofs.Generation.Distinct
import SchemaClasses.Proofs.Layout.Faults

/-!
# When plans fail

A plan first drafts its classes, for which the client module has to be known if one of them has an enum, and then
places the drafts, for which each class that another refers to has to be a class of the run. Without such a fault there
is one module for each class, which depends on nothing but this class, the output directory and the client module
(`Context.moduleOf`). So a plan is the first fault, or the modules of the classes (`Context.plan_eq`).
-/

namespace SchemaClasses

open TypeScript Outcome

/-- Each relation of a field is to a model of the schema. -/
def Schema.Closed (s : Schema) : Prop :=
  ∀ m ∈ s.models, ∀ f ∈ m.fields, f.hasRelation = true → ∃ n ∈ s.models, n.name = f.typeName

namespace Context

variable {c : Context} {k : ClassDecl} {t : String}

/-! ## Faults of classes -/

/-- No class of the run has the name. -/
def isMissing (c : Context) (t : String) : Bool := c.classes.all fun k => k.name != t

theorem isMissing_iff : c.isMissing t = true ↔ ∀ k ∈ c.classes, k.name ≠ t := by simp [isMissing]

theorem not_isMissing_iff : c.isMissing t = false ↔ ∃ k ∈ c.classes, k.name = t := by simp [isMissing]

/-- Why an origin has no specifier in the module of a class. -/
def originFault? (c : Context) (k : ClassDecl) : Origin → Option GenerationError
  | .module _ => none
  | .model t => if c.isMissing t then some (.unknownModel (c.fileOf k.name) t) else none

/-- Why a class has no module: the first class that it refers to and that is missing. -/
def fault? (c : Context) (k : ClassDecl) : Option GenerationError :=
  (k.relations.toList.find? c.isMissing).map (.unknownModel (c.fileOf k.name))

/-- The module of a class in a run where none is missing that it refers to. -/
def moduleOf (c : Context) (k : ClassDecl) : SourceModule where
  directory := c.output
  name := fileName k.name
  decl := k
  imports := .ofList <| (Draft.drafted c.client c.output k).imports.toList.map fun i =>
    ⟨c.specifierOf k.name i.origin, i.names⟩

theorem decl_moduleOf (c : Context) (k : ClassDecl) : (c.moduleOf k).decl = k := rfl

theorem path_moduleOf (c : Context) (k : ClassDecl) : (c.moduleOf k).path = c.fileOf k.name := rfl

/-- Modules of a draft are never at fault, so the classes it refers to tell the first fault. -/
theorem findSome?_originFault? (c : Context) (k : ClassDecl) :
    ((Draft.drafted c.client c.output k).imports.toList.findSome? fun i => c.originFault? k i.origin) = c.fault? k := by
  obtain ⟨modules, hkeys, hmodules⟩ := Draft.exists_keys_drafted c.client c.output k
  have hnone : modules.findSome? (c.originFault? k) = none := by
    rw [List.findSome?_eq_none_iff]
    intro o ho
    cases o with
    | module specifier => rfl
    | model t => cases hmodules _ ho
  have hmap : ((Draft.drafted c.client c.output k).imports.toList.findSome? fun i => c.originFault? k i.origin) =
      ((Draft.drafted c.client c.output k).imports.toList.map Import.origin).findSome? (c.originFault? k) := by
    rw [List.findSome?_map]
    rfl
  rw [hmap, Imports.map_origin_toList, hkeys, List.findSome?_append, hnone, Option.or_none, List.findSome?_map]
  exact findSome?_ite c.isMissing _ _

/-- Whether a class refers to a class that is missing. -/
def dangles (c : Context) (k : ClassDecl) : Bool := k.relations.toList.any c.isMissing

theorem isSome_fault? (c : Context) (k : ClassDecl) : (c.fault? k).isSome = c.dangles k := by
  unfold fault? dangles
  rw [Option.isSome_map, List.isSome_find?]

theorem fault?_eq_some_iff {e : GenerationError} : c.fault? k = some e ↔
    ∃ t, k.relations.toList.find? c.isMissing = some t ∧ e = .unknownModel (c.fileOf k.name) t := by
  unfold fault?
  rw [Option.map_eq_some_iff]
  exact exists_congr fun t => and_congr_right fun _ => eq_comm

/-- The first missing class is the first that the first class with a missing one refers to. -/
theorem findSome?_fault?_eq_some_iff {e : GenerationError} : c.classes.findSome? c.fault? = some e ↔
    ∃ k t, c.classes.find? c.dangles = some k ∧ k.relations.toList.find? c.isMissing = some t ∧
      e = .unknownModel (c.fileOf k.name) t := by
  simp only [findSome?_eq_some_iff_find?, isSome_fault?, fault?_eq_some_iff, exists_and_left]

theorem findSome?_fault?_eq_none_iff : c.classes.findSome? c.fault? = none ↔
    ∀ k ∈ c.classes, ∀ t ∈ k.relations.toList, ∃ k' ∈ c.classes, k'.name = t := by
  simp [List.findSome?_eq_none_iff, fault?, isMissing]

/-- The client module is not known, and some class has an enum. -/
def LacksClient (c : Context) : Prop :=
  (∃ reason, c.client = .unknown reason) ∧ ∃ k ∈ c.classes, k.enums.toList ≠ []

/-- Whichever class has the enum, the fault of the client module is the same. -/
theorem findSome?_client_eq_some_iff {e : GenerationError} : c.classes.findSome? c.client.fault? = some e ↔
    ∃ reason, c.client = .unknown reason ∧ (∃ k ∈ c.classes, k.enums.toList ≠ []) ∧ e = .clientUnknown reason := by
  constructor
  · intro h
    obtain ⟨k, hk, hfault⟩ := List.exists_of_findSome?_eq_some h
    obtain ⟨reason, hclient, henums, he⟩ := Client.fault?_eq_some_iff.1 hfault
    exact ⟨reason, hclient, ⟨k, hk, henums⟩, he⟩
  · rintro ⟨reason, hclient, ⟨k, hk, henums⟩, rfl⟩
    have hk' : c.client.fault? k = some (.clientUnknown reason) :=
      Client.fault?_eq_some_iff.2 ⟨reason, hclient, henums, rfl⟩
    cases hfirst : c.classes.findSome? c.client.fault? with
    | none =>
      rw [List.findSome?_eq_none_iff.1 hfirst k hk] at hk'
      cases hk'
    | some e =>
      obtain ⟨k', -, hfault⟩ := List.exists_of_findSome?_eq_some hfirst
      obtain ⟨reason', hclient', -, rfl⟩ := Client.fault?_eq_some_iff.1 hfault
      rw [hclient, Client.unknown.injEq] at hclient'
      rw [hclient']

theorem findSome?_client_eq_none_iff : c.classes.findSome? c.client.fault? = none ↔ ¬c.LacksClient := by
  rw [Option.eq_none_iff_forall_ne_some]
  constructor
  · rintro h ⟨⟨reason, hclient⟩, henums⟩
    exact h _ (findSome?_client_eq_some_iff.2 ⟨reason, hclient, henums, rfl⟩)
  · intro h e he
    obtain ⟨reason, hclient, henums, -⟩ := findSome?_client_eq_some_iff.1 he
    exact h ⟨⟨reason, hclient⟩, henums⟩

/-! ## Plans -/

/-- Of the drafts of all classes, each origin has its specifier or is missing. -/
theorem specifier?_drafted (c : Context) (k : ClassDecl) (o : Origin) :
    (Draft.drafted c.client c.output k).specifier?
        (Draft.places (c.classes.map (Draft.drafted c.client c.output))) o =
      orElse (c.originFault? k o) (c.specifierOf k.name o) := by
  have hpath : ∀ d ∈ c.classes.map (Draft.drafted c.client c.output), d.path = c.fileOf d.decl.name := by
    intro d hd
    obtain ⟨k, -, rfl⟩ := List.mem_map.1 hd
    rfl
  cases o with
  | module specifier => rfl
  | model t =>
    unfold Draft.specifier? originFault?
    dsimp only
    cases hmissing : c.isMissing t with
    | true =>
      have hnone : (Draft.places (c.classes.map (Draft.drafted c.client c.output))).get? t = none := by
        rw [Option.eq_none_iff_forall_ne_some]
        intro p hp
        obtain ⟨⟨d, hd, hname⟩, -⟩ := (get?_places hpath).1 hp
        obtain ⟨k', hk', rfl⟩ := List.mem_map.1 hd
        exact isMissing_iff.1 hmissing k' hk' hname
      rw [hnone]
      rfl
    | false =>
      obtain ⟨k', hk', hname⟩ := not_isMissing_iff.1 hmissing
      have hsome : (Draft.places (c.classes.map (Draft.drafted c.client c.output))).get? t = some (c.fileOf t) :=
        (get?_places hpath).2 ⟨⟨_, List.mem_map_of_mem hk', hname⟩, rfl⟩
      rw [hsome]
      rfl

/-- The draft of a class becomes its module, or a class that it refers to is missing. -/
theorem place_drafted (c : Context) (k : ClassDecl) :
    Draft.place (Draft.places (c.classes.map (Draft.drafted c.client c.output))) (Draft.drafted c.client c.output k) =
      orElse (c.fault? k) (c.moduleOf k) := by
  unfold Draft.place
  rw [Draft.placeImports_eq (c.specifier?_drafted k), findSome?_originFault?]
  cases c.fault? k <;> rfl

theorem drafts_eq (c : Context) : c.drafts =
    orElse (c.classes.findSome? c.client.fault?) (c.classes.map (Draft.drafted c.client c.output)) :=
  mapM_eq_findSome? fun k _ => Draft.ofClass_eq c.client c.output k

/-- A plan is the first fault of the client module, or else the first missing class, or else the modules of the
classes. -/
theorem plan_eq (c : Context) : c.plan =
    orElse ((c.classes.findSome? c.client.fault?).or (c.classes.findSome? c.fault?)) (c.classes.map c.moduleOf) := by
  have hplaced : (c.classes.map (Draft.drafted c.client c.output)).mapM
      (Draft.place (Draft.places (c.classes.map (Draft.drafted c.client c.output)))) =
        orElse (c.classes.findSome? c.fault?) (c.classes.map c.moduleOf) := by
    rw [List.mapM_map]
    exact mapM_eq_findSome? fun k _ => c.place_drafted k
  unfold plan
  rw [drafts_eq]
  cases c.classes.findSome? c.client.fault? with
  | some e => rfl
  | none => exact hplaced

theorem plan_eq_error_iff {e : GenerationError} : c.plan = .error e ↔
    c.classes.findSome? c.client.fault? = some e ∨ ¬c.LacksClient ∧ c.classes.findSome? c.fault? = some e := by
  rw [plan_eq, orElse_eq_error_iff, Option.or_eq_some_iff, findSome?_client_eq_none_iff]

theorem plan_eq_clientUnknown_iff {reason : String} : c.plan = .error (.clientUnknown reason) ↔
    c.client = .unknown reason ∧ ∃ k ∈ c.classes, k.enums.toList ≠ [] := by
  rw [plan_eq_error_iff, findSome?_client_eq_some_iff, findSome?_fault?_eq_some_iff]
  simp

/-- A plan fails with the first class that is missing. -/
theorem plan_eq_unknownModel_iff {file : Path} : c.plan = .error (.unknownModel file t) ↔ ¬c.LacksClient ∧
    ∃ k, c.classes.find? c.dangles = some k ∧ k.relations.toList.find? c.isMissing = some t ∧
      file = c.fileOf k.name := by
  rw [plan_eq_error_iff, findSome?_client_eq_some_iff, findSome?_fault?_eq_some_iff]
  simp

/-- A plan succeeds where it has no fault, with the modules of its classes. -/
theorem plan_eq_ok_iff {ms : List SourceModule} : c.plan = .ok ms ↔ ¬c.LacksClient ∧
    (∀ k ∈ c.classes, ∀ t ∈ k.relations.toList, ∃ k' ∈ c.classes, k'.name = t) ∧ ms = c.classes.map c.moduleOf := by
  rw [plan_eq, orElse_eq_ok_iff, Option.or_eq_none_iff, findSome?_client_eq_none_iff, findSome?_fault?_eq_none_iff,
    and_assoc]

theorem exists_missing_iff : (∃ file t, c.plan = .error (.unknownModel file t)) ↔ ¬c.LacksClient ∧
    ∃ k ∈ c.classes, ∃ t ∈ k.relations.toList, ∀ k' ∈ c.classes, k'.name ≠ t := by
  have hdangles : (∃ k ∈ c.classes, ∃ t ∈ k.relations.toList, ∀ k' ∈ c.classes, k'.name ≠ t) ↔
      ∃ e, c.classes.findSome? c.fault? = some e := by
    rw [← Option.ne_none_iff_exists', Ne, findSome?_fault?_eq_none_iff]
    simp
  rw [hdangles]
  constructor
  · rintro ⟨file, t, h⟩
    obtain ⟨hclient, k, hk, ht, hfile⟩ := plan_eq_unknownModel_iff.1 h
    exact ⟨hclient, _, findSome?_fault?_eq_some_iff.2 ⟨k, t, hk, ht, rfl⟩⟩
  · rintro ⟨hclient, e, he⟩
    obtain ⟨k, t, hk, ht, -⟩ := findSome?_fault?_eq_some_iff.1 he
    exact ⟨_, t, plan_eq_unknownModel_iff.2 ⟨hclient, k, hk, ht, rfl⟩⟩

/-! ## Closed schemas -/

/-- In a closed schema a class refers to models. -/
theorem exists_model_of_relation (h : c.schema.Closed) (hk : k ∈ c.classes) (ht : t ∈ k.relations.toList) :
    ∃ n ∈ c.schema.models, n.name = t := by
  obtain ⟨m, hm, sel, -, rfl⟩ := exists_model_of_mem_classes hk
  obtain ⟨-, f, hf, hrel, rfl⟩ := mem_relations_classOf_iff.1 ht
  exact h m hm f (mem_selected_iff.1 hf).1 hrel

/-- Without splitting each model leaves a class of its name. -/
theorem exists_class_of_model (h : c.config.split = false) {m : Model} (hm : m ∈ c.schema.models) :
    ∃ k ∈ c.classes, k.name = m.name := by
  refine ⟨m.classOf c.config.swagger .all, ?_, String.append_empty⟩
  rw [classes_eq, h, if_neg Bool.false_ne_true]
  exact List.mem_map_of_mem hm

/-- In split mode only the classes with the relations of models refer to others. -/
theorem mem_classesOf_of_relation (h : c.config.split = true) (hk : k ∈ c.classes) (ht : t ∈ k.relations.toList) :
    k ∈ c.classesOf .relations := by
  rw [classes_eq, if_pos h] at hk
  rcases List.mem_append.1 hk with hk | hk
  · exact hk
  · obtain ⟨m, -, rfl⟩ := List.mem_map.1 (List.mem_filter.1 hk).1
    cases ht

/-- **The outcome of a plan**: it fails for want of the client module just where this is not known and a class has an
enum; else it fails with the first missing class that the first class with a missing one refers to, under the path of
this one; else it has one module for each class, in order. A closed schema that is not split has no missing class, and
one that is split misses just the models without a class that the classes with relations refer to. -/
theorem plan_outcome (c : Context) :
    (∀ reason, c.plan = .error (.clientUnknown reason) ↔
      c.client = .unknown reason ∧ ∃ k ∈ c.classes, k.enums.toList ≠ []) ∧
    (∀ file t, c.plan = .error (.unknownModel file t) ↔ ¬c.LacksClient ∧
      ∃ k, c.classes.find? c.dangles = some k ∧ k.relations.toList.find? c.isMissing = some t ∧
        file = c.fileOf k.name) ∧
    ((∃ file t, c.plan = .error (.unknownModel file t)) ↔ ¬c.LacksClient ∧
      ∃ k ∈ c.classes, ∃ t ∈ k.relations.toList, ∀ k' ∈ c.classes, k'.name ≠ t) ∧
    ((∃ ms, c.plan = .ok ms) ↔ ¬c.LacksClient ∧
      ∀ k ∈ c.classes, ∀ t ∈ k.relations.toList, ∃ k' ∈ c.classes, k'.name = t) ∧
    (∀ ms, c.plan = .ok ms → ms.map SourceFile.decl = c.classes ∧
      ms.map SourceFile.path = c.classes.map fun k => c.fileOf k.name) ∧
    (∀ e, c.plan = .error e → (∃ reason, e = .clientUnknown reason) ∨ ∃ file t, e = .unknownModel file t) ∧
    (c.schema.Closed →
      (c.config.split = false → ∀ file t, c.plan ≠ .error (.unknownModel file t)) ∧
      (c.config.split = true → (∀ reason, c.plan ≠ .error (.clientUnknown reason)) →
        ((∃ file t, c.plan = .error (.unknownModel file t)) ↔
          ∃ k ∈ c.classesOf .relations, ∃ t ∈ k.relations.toList,
            (∃ n ∈ c.schema.models, n.name = t) ∧ ∀ k' ∈ c.classes, k'.name ≠ t))) := by
  refine ⟨fun _ => plan_eq_clientUnknown_iff, fun _ _ => plan_eq_unknownModel_iff, exists_missing_iff, ?_, ?_, ?_, ?_⟩
  · simp only [plan_eq_ok_iff, ← and_assoc, exists_and_left, exists_eq, and_true]
  · intro ms h
    obtain ⟨-, -, rfl⟩ := plan_eq_ok_iff.1 h
    simp only [List.map_map, Function.comp_def, decl_moduleOf, path_moduleOf, List.map_id', and_self]
  · intro e h
    rcases plan_eq_error_iff.1 h with h | ⟨-, h⟩
    · obtain ⟨reason, -, -, rfl⟩ := findSome?_client_eq_some_iff.1 h
      exact Or.inl ⟨reason, rfl⟩
    · obtain ⟨k, t, -, -, rfl⟩ := findSome?_fault?_eq_some_iff.1 h
      exact Or.inr ⟨_, t, rfl⟩
  · intro hclosed
    refine ⟨fun hsplit file t h => ?_, fun hsplit hclient => ?_⟩
    · obtain ⟨-, k, hk, t, ht, hmissing⟩ := exists_missing_iff.1 ⟨file, t, h⟩
      obtain ⟨n, hn, rfl⟩ := exists_model_of_relation hclosed hk ht
      obtain ⟨k', hk', hname⟩ := exists_class_of_model hsplit hn
      exact hmissing k' hk' hname
    · have hknown : ¬c.LacksClient := by
        rintro ⟨⟨reason, hunknown⟩, henums⟩
        exact hclient reason (plan_eq_clientUnknown_iff.2 ⟨hunknown, henums⟩)
      rw [exists_missing_iff, and_iff_right hknown]
      constructor
      · rintro ⟨k, hk, t, ht, hmissing⟩
        exact ⟨k, mem_classesOf_of_relation hsplit hk ht, t, ht, exists_model_of_relation hclosed hk ht, hmissing⟩
      · rintro ⟨k, hk, t, ht, -, hmissing⟩
        refine ⟨k, ?_, t, ht, hmissing⟩
        rw [classes_eq, if_pos hsplit]
        exact List.mem_append_left _ hk

/-- A split run over two models that refer to each other, one of them without other fields. -/
def links : Context :=
  small true [⟨"User", [.number "id", .reference "posts" "Post"]⟩, ⟨"Post", [.reference "author" "User"]⟩]

theorem plan_outcome_links : links.schema.Closed ∧ (∃ file t, links.plan = .error (.unknownModel file t)) ∧
    links.plan = .error (.unknownModel ⟨"/out/user_relations.ts"⟩ "Post") := by
  have hclosed : links.schema.Closed := by
    unfold Schema.Closed
    decide
  obtain ⟨hclient, hfirst, -, -, -, -, hsplit⟩ := plan_outcome links
  have hknown : ∀ reason, links.plan ≠ .error (.clientUnknown reason) := fun reason h => by
    cases ((hclient reason).1 h).1
  have hmissing : ∀ k' ∈ links.classes, k'.name ≠ "Post" := isMissing_iff.1 (by decide)
  refine ⟨hclosed, ((hsplit hclosed).2 rfl hknown).2 ?_, (hfirst _ _).2 ⟨?_, ?_⟩⟩
  · exact ⟨_, List.mem_cons_self, "Post", List.mem_cons_self, ⟨_, List.mem_cons_of_mem _ List.mem_cons_self, rfl⟩,
      hmissing⟩
  · rintro ⟨⟨reason, h⟩, -⟩
    cases h
  · exact ⟨_, rfl, rfl, by decide +kernel⟩

end Context
end SchemaClasses
