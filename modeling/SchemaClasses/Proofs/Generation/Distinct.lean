import SchemaClasses.Proofs.Generation.References

/-!
# Distinct files

Models of distinct names need not get distinct files. In split mode a model may have the name of the class that holds
the relations of another (`Context.Clash`), and this is the only way to two classes of one name
(`nodup_names_classes_iff`). The files of two classes are the same just where their names have the same words in lower
case (`fileOf_eq_iff`), and the index file is that of a class with the name `index` (`indexLocation_eq`). This tells
which runs write each file once (`nodup_files_iff`).
-/

namespace SchemaClasses

open TypeScript

/-- Images of a list repeat alike under two functions that identify the same members. -/
theorem nodup_map_congr {α β γ : Type} {l : List α} {f : α → β} {g : α → γ}
    (h : ∀ a ∈ l, ∀ b ∈ l, f a = f b ↔ g a = g b) : (l.map f).Nodup ↔ (l.map g).Nodup := by
  unfold List.Nodup
  rw [List.pairwise_map, List.pairwise_map]
  exact List.Pairwise.iff_of_mem fun ha hb => not_congr (h _ ha _ hb)

namespace Context

variable {c : Context} {ms : List SourceModule} {s t : String}

/-! ## Names of files -/

theorem fileName_eq_iff (hs : Text.isIdentifier s) (ht : Text.isIdentifier t) :
    fileName s = fileName t ↔ Text.foldedWords s = Text.foldedWords t := by
  unfold fileName
  rw [String.append_left_inj, Text.snakeCase_eq_iff hs ht]

/-- Normal paths of files tell apart the words of class names. -/
theorem normalize_fileOf_eq_iff (hs : Text.isIdentifier s) (ht : Text.isIdentifier t) :
    (c.fileOf s).normalize = (c.fileOf t).normalize ↔ Text.foldedWords s = Text.foldedWords t := by
  rw [← fileName_eq_iff hs ht]
  constructor
  · intro h
    have hcs := congrArg Path.components h
    simp only [fileOf, Path.components_normalize, Path.components_join_name c.output (plain_fileName hs),
      Path.components_join_name c.output (plain_fileName ht), Path.reduce_concat_name] at hcs
    exact Path.Component.name.inj (List.singleton_inj.1 (List.append_cancel_left hcs))
  · intro h
    unfold fileOf
    rw [h]

/-- Two classes have one file just where their names have the same words in lower case. -/
theorem fileOf_eq_iff (hs : Text.isIdentifier s) (ht : Text.isIdentifier t) :
    c.fileOf s = c.fileOf t ↔ Text.foldedWords s = Text.foldedWords t := by
  constructor
  · intro h
    exact (normalize_fileOf_eq_iff hs ht).1 (congrArg Path.normalize h)
  · intro h
    unfold fileOf
    rw [(fileName_eq_iff hs ht).2 h]

/-- The index file is the file of a class with the name `index`. -/
theorem indexLocation_eq (c : Context) : indexLocation c.output = c.fileOf "index" := by
  have hname : fileName "index" = "index.ts" := by decide +kernel
  unfold fileOf
  rw [hname]
  rfl

/-! ## Names of classes -/

/-- A model with a property of its own has the name of the class that holds the relations of another. -/
def Clash (c : Context) : Prop :=
  c.config.split = true ∧ ∃ m ∈ c.schema.models, ∃ n ∈ c.schema.models,
    (∃ f ∈ m.fields, f.hasRelation = true) ∧ (∃ f ∈ n.fields, f.hasRelation = false) ∧
      m.name ++ relationsEnding = n.name

/-- The classes of a selection that have properties. -/
def classesOf (c : Context) (sel : Selection) : List ClassDecl :=
  (c.schema.models.map (Model.classOf c.config.swagger · sel)).filter fun d => !d.properties.isEmpty

theorem classes_eq (c : Context) : c.classes =
    if c.config.split = true then c.classesOf .relations ++ c.classesOf .others
    else c.schema.models.map (Model.classOf c.config.swagger · .all) := by
  unfold classes classesOf
  cases c.config.split with
  | true =>
    simp only [Bool.and_true, Schema.toClasses, if_true]
    exact List.filter_append ..
  | false =>
    simp only [Bool.and_false, Bool.not_false, Schema.toClasses, Bool.false_eq_true, if_false]
    exact List.filter_eq_self.2 fun _ _ => rfl

theorem mem_names_classesOf {sel : Selection} {name : String} : name ∈ (c.classesOf sel).map ClassDecl.name ↔
    ∃ m ∈ c.schema.models, (∃ f ∈ m.fields, sel.takes f = true) ∧ m.name ++ sel.ending = name := by
  have hsome : ∀ m : Model, ((!(m.classOf c.config.swagger sel).properties.isEmpty) = true) ↔
      ∃ f ∈ m.fields, sel.takes f = true := by
    intro m
    rw [properties_classOf, Bool.not_eq_true', List.isEmpty_map, ← Bool.not_eq_true, List.isEmpty_iff, Model.selected,
      List.filter_eq_nil_iff]
    simp
  unfold classesOf
  simp only [List.mem_map, List.mem_filter]
  constructor
  · rintro ⟨_, ⟨⟨m, hm, rfl⟩, hd⟩, rfl⟩
    exact ⟨m, hm, (hsome m).1 hd, rfl⟩
  · rintro ⟨m, hm, hf, rfl⟩
    exact ⟨_, ⟨⟨m, hm, rfl⟩, (hsome m).2 hf⟩, rfl⟩

/-- Classes of one selection have distinct names if their models do. -/
theorem nodup_names_map (hnames : (c.schema.models.map Model.name).Nodup) (sel : Selection) :
    ((c.schema.models.map (Model.classOf c.config.swagger · sel)).map ClassDecl.name).Nodup := by
  rw [List.map_map]
  refine (nodup_map_congr fun m _ n _ => ?_).2 hnames
  exact String.append_left_inj sel.ending

/-- Two classes have one name just where a model has the name of the class with the relations of another. -/
theorem nodup_names_classes_iff (hnames : (c.schema.models.map Model.name).Nodup) :
    (c.classes.map ClassDecl.name).Nodup ↔ ¬c.Clash := by
  have hof : ∀ sel, ((c.classesOf sel).map ClassDecl.name).Nodup := fun sel =>
    ((List.filter_sublist ..).map _).nodup (nodup_names_map hnames sel)
  rw [classes_eq]
  by_cases hsplit : c.config.split = true
  · -- Each selection has distinct names, so two equal ones are of different selections.
    rw [if_pos hsplit, List.map_append, List.nodup_append]
    constructor
    · rintro ⟨-, -, hne⟩ ⟨-, m, hm, n, hn, hf, ⟨g, hg, hrel⟩, hname⟩
      have hrelations : m.name ++ relationsEnding ∈ (c.classesOf .relations).map ClassDecl.name :=
        mem_names_classesOf.2 ⟨m, hm, hf, rfl⟩
      have hothers : n.name ∈ (c.classesOf .others).map ClassDecl.name :=
        mem_names_classesOf.2 ⟨n, hn, ⟨g, hg, by simp [Selection.takes, hrel]⟩, String.append_empty⟩
      exact hne _ hrelations _ hothers hname
    · intro hclash
      refine ⟨hof .relations, hof .others, ?_⟩
      rintro a ha b hb rfl
      obtain ⟨m, hm, hf, hma⟩ := mem_names_classesOf.1 ha
      obtain ⟨n, hn, ⟨g, hg, hrel⟩, hna⟩ := mem_names_classesOf.1 hb
      have hrel' : g.hasRelation = false := by simpa [Selection.takes] using hrel
      exact hclash ⟨hsplit, m, hm, n, hn, hf, ⟨g, hg, hrel'⟩, hma.trans (hna.symm.trans String.append_empty)⟩
  · rw [if_neg hsplit]
    exact iff_of_true (nodup_names_map hnames .all) fun h => hsplit h.1

/-! ## Paths -/

/-- Files that tell apart the words of class names: they are distinct from each other and from the index file just where
no two names have the same words in lower case, and no name has the word `index`. -/
theorem nodup_files_iff {P : String → Path} {names : List String} (hid : ∀ s ∈ names, Text.isIdentifier s)
    (hP : ∀ s t, Text.isIdentifier s → Text.isIdentifier t → (P s = P t ↔ Text.foldedWords s = Text.foldedWords t)) :
    (names.map P ++ [P "index"]).Nodup ↔
      (names.map Text.foldedWords).Nodup ∧ ∀ s ∈ names, Text.foldedWords s ≠ ["index".toList] := by
  have hindex : Text.foldedWords "index" = ["index".toList] := by decide +kernel
  have hall : ∀ s ∈ names ++ ["index"], Text.isIdentifier s :=
    List.forall_mem_append.2 ⟨hid, fun s hs => List.mem_singleton.1 hs ▸ by decide⟩
  have hmap : names.map P ++ [P "index"] = (names ++ ["index"]).map P := by
    rw [List.map_append, List.map_singleton]
  rw [hmap, nodup_map_congr fun s hs t ht => hP s t (hall s hs) (hall t ht), List.map_append, List.nodup_append,
    List.map_singleton, hindex]
  simp

theorem map_name_of_plan (h : c.plan = .ok ms) : ms.map (fun f => f.decl.name) = c.classes.map ClassDecl.name := by
  rw [← decl_of_plan h, List.map_map]
  rfl

theorem map_path_of_plan (h : c.plan = .ok ms) (p : Path → Path) :
    ms.map (fun f => p f.path) = (c.classes.map ClassDecl.name).map fun s => p (c.fileOf s) := by
  rw [← map_name_of_plan h, List.map_map]
  refine List.map_congr_left fun f hf => ?_
  rw [Function.comp_apply, path_of_plan h hf]

/-- **Distinct files**: for models of distinct names, the classes of a run have distinct names just where there is no
clash, and the paths of its files and of the index file are distinct, as they are or normal, just where no two classes
have names of the same words in lower case and none is named by the word `index`. -/
theorem files_distinct_iff (hid : ∀ m ∈ c.schema.models, Text.isIdentifier m.name)
    (hnames : (c.schema.models.map Model.name).Nodup) (h : c.plan = .ok ms) :
    ((ms.map fun f => f.decl.name).Nodup ↔ ¬c.Clash) ∧
    ((ms.map (fun f => f.path) ++ [indexLocation c.output]).Nodup ↔
      (c.classes.map fun d => Text.foldedWords d.name).Nodup ∧
        ∀ d ∈ c.classes, Text.foldedWords d.name ≠ ["index".toList]) ∧
    ((ms.map (fun f => f.path.normalize) ++ [(indexLocation c.output).normalize]).Nodup ↔
      (c.classes.map fun d => Text.foldedWords d.name).Nodup ∧
        ∀ d ∈ c.classes, Text.foldedWords d.name ≠ ["index".toList]) := by
  have hall : ∀ s ∈ c.classes.map ClassDecl.name, Text.isIdentifier s :=
    List.forall_mem_map.2 fun d hd => isIdentifier_of_mem_classes hid hd
  have hpath : ms.map (fun f => f.path) = (c.classes.map ClassDecl.name).map c.fileOf := by
    simpa only [id_eq] using map_path_of_plan h id
  refine ⟨?_, ?_, ?_⟩
  · rw [map_name_of_plan h]
    exact nodup_names_classes_iff hnames
  · rw [hpath, indexLocation_eq, nodup_files_iff hall fun s t => fileOf_eq_iff, List.map_map]
    exact and_congr_right fun _ => List.forall_mem_map
  · rw [map_path_of_plan h Path.normalize, indexLocation_eq, nodup_files_iff hall fun s t => normalize_fileOf_eq_iff,
      List.map_map]
    exact and_congr_right fun _ => List.forall_mem_map

/-- A run over two models whose names differ in an underscore. -/
def orders : Context := small false [⟨"OrderItem", [.number "id"]⟩, ⟨"Order_Item", [.number "id"]⟩]

theorem files_distinct_orders : ∃ ms, orders.plan = .ok ms ∧ (ms.map fun f => f.decl.name).Nodup ∧
    ¬(ms.map (fun f => f.path) ++ [indexLocation orders.output]).Nodup := by
  obtain ⟨ms, hms⟩ : ∃ ms, orders.plan = .ok ms := ⟨_, rfl⟩
  obtain ⟨hname, hpath, -⟩ := files_distinct_iff (by decide +kernel) (by decide +kernel) hms
  refine ⟨ms, hms, hname.2 fun h => Bool.false_ne_true h.1, fun h => ?_⟩
  exact absurd (hpath.1 h).1 (by decide +kernel)

/-- Three runs over models of distinct names that write a file twice: their classes have the same words, one of them is
named by the word `index`, or one is named as the class with the relations of another. -/
theorem files_not_distinct :
    (∃ ms, orders.plan = .ok ms ∧ ms.map (fun f => (f.decl.name, f.path.text)) =
      [("OrderItem", "/out/order_item.ts"), ("Order_Item", "/out/order_item.ts")]) ∧
    (∃ ms, (small false [⟨"Index", [.number "id"]⟩]).plan = .ok ms ∧
      ms.map SourceFile.path = [indexLocation (small false []).output]) ∧
    ∃ ms, (small true [⟨"User", [.number "id", .reference "friend" "User"]⟩, ⟨"UserRelations", [.number "id"]⟩]).plan =
        .ok ms ∧
      ms.map (fun f => (f.decl.name, f.path.text)) = [("UserRelations", "/out/user_relations.ts"),
        ("User", "/out/user.ts"), ("UserRelations", "/out/user_relations.ts")] :=
  ⟨⟨_, rfl, by decide +kernel⟩, ⟨_, rfl, by decide +kernel⟩, ⟨_, rfl, by decide +kernel⟩⟩

end Context
end SchemaClasses
