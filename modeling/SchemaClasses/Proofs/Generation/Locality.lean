import SchemaClasses.Proofs.Generation.Failure
import SchemaClasses.Proofs.Generation.Split

/-!
# Planned files and the rest of the schema

Each class of a run comes from a model and a selection of its fields (`Context.origins`), and its file is the module of
this class (`Context.hasFile_iff`), which depends on the class, the output directory and the client module alone. So
whatever else two schemas hold, and in whatever order, a model that they share has the same files; whether a plan
succeeds depends on which models there are, but not on their order (`Context.plan_local`).
-/

namespace SchemaClasses

open TypeScript

namespace Context

variable {c c' : Context} {m : Model} {sel : Selection} {f : SourceModule}

/-! ## Origins of classes -/

/-- The models and selections that the classes of a run come from, in order. -/
def origins (c : Context) : List (Model × Selection) :=
  if c.config.split then
    (c.schema.models.filter fun m => m.fields.any Selection.relations.takes).map (·, .relations) ++
      (c.schema.models.filter fun m => m.fields.any Selection.others.takes).map (·, .others)
  else c.schema.models.map (·, .all)

theorem classes_eq_map_origins (c : Context) :
    c.classes = c.origins.map fun o => o.1.classOf c.config.swagger o.2 := by
  unfold origins
  rw [classes_eq]
  split
  · rw [classesOf_eq, classesOf_eq, List.map_append, List.map_map, List.map_map]
    rfl
  · rw [List.map_map]
    rfl

/-- A model has a class for each selection of the run; in split mode only if the selection takes a field. -/
theorem mem_origins_iff : (m, sel) ∈ c.origins ↔ m ∈ c.schema.models ∧ sel ∈ Selection.used c.config.split ∧
    (c.config.split = true → ∃ f ∈ m.fields, sel.takes f = true) := by
  unfold origins Selection.used
  cases hsplit : c.config.split with
  | true => cases sel <;> simp
  | false => cases sel <;> simp

/-! ## Files of models -/

/-- The run plans a file for the fields of a model that a selection takes. -/
def HasFile (c : Context) (m : Model) (sel : Selection) (f : SourceModule) : Prop :=
  ∃ (ms : List SourceModule) (i : Nat), c.plan = .ok ms ∧ c.origins[i]? = some (m, sel) ∧ ms[i]? = some f

/-- The file of a model and a selection is the module of their class. -/
theorem hasFile_iff {ms : List SourceModule} (h : c.plan = .ok ms) :
    c.HasFile m sel f ↔ (m, sel) ∈ c.origins ∧ f = c.moduleOf (m.classOf c.config.swagger sel) := by
  have hms : ms = c.origins.map fun o => c.moduleOf (o.1.classOf c.config.swagger o.2) := by
    rw [(plan_eq_ok_iff.1 h).2.2, classes_eq_map_origins, List.map_map]
    rfl
  constructor
  · rintro ⟨ms', i, h', hi, hf⟩
    obtain rfl := Except.ok.inj (h.symm.trans h')
    rw [hms, List.getElem?_map, hi] at hf
    exact ⟨List.mem_of_getElem? hi, (Option.some.inj hf).symm⟩
  · rintro ⟨hmem, rfl⟩
    obtain ⟨i, hi⟩ := List.getElem?_of_mem hmem
    refine ⟨ms, i, h, hi, ?_⟩
    rw [hms, List.getElem?_map, hi, Option.map_some]

/-! ## Runs with the same settings -/

/-- Two runs differ at most in their schemas. -/
structure SameSettings (c c' : Context) : Prop where
  config : c.config = c'.config
  output : c.output = c'.output
  client : c.client = c'.client

/-- The module of a class is the same in both. -/
theorem SameSettings.moduleOf_eq (hs : c.SameSettings c') (k : ClassDecl) : c.moduleOf k = c'.moduleOf k := by
  have hfile : ∀ name, c.fileOf name = c'.fileOf name := fun name => by
    unfold fileOf
    rw [hs.output]
  have hspec : ∀ name o, c.specifierOf name o = c'.specifierOf name o := by
    intro name o
    cases o with
    | module specifier => rfl
    | model t => simp only [specifierOf, hfile]
  unfold moduleOf
  simp only [hs.output, hs.client, hspec]

/-- A run over the same models in another order has the same classes in another order. -/
theorem SameSettings.perm_classes (hs : c.SameSettings c') (hperm : c.schema.models.Perm c'.schema.models) :
    c.classes.Perm c'.classes := by
  rw [classes_eq, classes_eq, ← hs.config]
  split
  · rw [classesOf_eq, classesOf_eq, classesOf_eq, classesOf_eq, ← hs.config]
    exact ((hperm.filter _).map _).append ((hperm.filter _).map _)
  · exact hperm.map _

/-- **Planned files do not depend on the rest of the schema**: in two runs with the same settings that plan files, each
model that both have gets a file for each selection with a field, and the same one in both; over the same models in
another order a plan has the same files in another order. -/
theorem plan_local {ms : List SourceModule} (h : c.plan = .ok ms) :
    (∀ c' ms', c.SameSettings c' → c'.plan = .ok ms' →
      (∀ m ∈ c.schema.models, m ∈ c'.schema.models → ∀ sel ∈ Selection.used c.config.split,
        (c.config.split = true → ∃ f ∈ m.fields, sel.takes f = true) → ∃ f, c.HasFile m sel f ∧ c'.HasFile m sel f) ∧
      ∀ m sel f f', c.HasFile m sel f → c'.HasFile m sel f' →
        f.path = f'.path ∧ f.imports.toList = f'.imports.toList ∧ f.render = f'.render) ∧
    ∀ c', c.SameSettings c' → c.schema.models.Perm c'.schema.models → ∃ ms', c'.plan = .ok ms' ∧ ms.Perm ms' := by
  refine ⟨fun c' ms' hs h' => ⟨fun m hm hm' sel hsel htakes => ?_, fun m sel f f' hf hf' => ?_⟩, fun c' hs hperm => ?_⟩
  · refine ⟨c.moduleOf (m.classOf c.config.swagger sel), (hasFile_iff h).2 ⟨mem_origins_iff.2 ⟨hm, hsel, htakes⟩, rfl⟩,
      (hasFile_iff h').2 ⟨mem_origins_iff.2 ?_, ?_⟩⟩
    · rw [← hs.config]
      exact ⟨hm', hsel, htakes⟩
    · rw [hs.moduleOf_eq, hs.config]
  · obtain ⟨-, rfl⟩ := (hasFile_iff h).1 hf
    obtain ⟨-, rfl⟩ := (hasFile_iff h').1 hf'
    rw [← hs.config, hs.moduleOf_eq]
    exact ⟨rfl, rfl, rfl⟩
  · obtain ⟨hclient, hrefs, rfl⟩ := plan_eq_ok_iff.1 h
    have hclasses := hs.perm_classes hperm
    refine ⟨c'.classes.map c'.moduleOf, plan_eq_ok_iff.2 ⟨?_, fun k hk t ht => ?_, rfl⟩, ?_⟩
    · rintro ⟨hunknown, k, hk, henums⟩
      exact hclient ⟨hs.client ▸ hunknown, k, hclasses.mem_iff.2 hk, henums⟩
    · obtain ⟨k', hk', hname⟩ := hrefs k (hclasses.mem_iff.2 hk) t ht
      exact ⟨k', hclasses.mem_iff.1 hk', hname⟩
    · have hmodules : c'.moduleOf = c.moduleOf := funext fun k => (hs.moduleOf_eq k).symm
      rw [hmodules]
      exact hclasses.map _

/-- A run over the models of `blog` in another order. -/
def blogBackwards : Context :=
  small false [⟨"BlogPost", [.reference "author" "User"]⟩, ⟨"User", [.number "id", .reference "post" "BlogPost"]⟩]

/-- A run over the models of `blogBackwards` with one more between them. -/
def comments : Context := small false
  [⟨"BlogPost", [.reference "author" "User"]⟩, ⟨"Comment", [.reference "post" "BlogPost"]⟩,
    ⟨"User", [.number "id", .reference "post" "BlogPost"]⟩]

theorem plan_local_blog :
    (∃ f, blog.HasFile ⟨"User", [.number "id", .reference "post" "BlogPost"]⟩ .all f ∧
      comments.HasFile ⟨"User", [.number "id", .reference "post" "BlogPost"]⟩ .all f) ∧
    ∃ ms ms', blog.plan = .ok ms ∧ blogBackwards.plan = .ok ms' ∧ ms.Perm ms' := by
  obtain ⟨ms, h⟩ : ∃ ms, blog.plan = .ok ms := ⟨_, rfl⟩
  obtain ⟨ms', h'⟩ : ∃ ms', comments.plan = .ok ms' := ⟨_, rfl⟩
  obtain ⟨hlocal, hperm⟩ := plan_local h
  constructor
  · refine (hlocal comments ms' ⟨rfl, rfl, rfl⟩ h').1 _ List.mem_cons_self ?_ _ List.mem_cons_self fun hsplit => ?_
    · exact List.mem_cons_of_mem _ (List.mem_cons_of_mem _ List.mem_cons_self)
    · cases hsplit
  · obtain ⟨ms'', h'', hms⟩ := hperm blogBackwards ⟨rfl, rfl, rfl⟩ (List.Perm.swap _ _ _)
    exact ⟨ms, ms'', h, h'', hms⟩

end Context
end SchemaClasses
