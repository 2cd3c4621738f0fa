import SchemaClasses.Proofs.Generation.Exports
import SchemaClasses.Proofs.Generation.Failure
import SchemaClasses.Proofs.Layout.ClientWay
import SchemaClasses.Proofs.Text.Quoted

/-!
# Import statements

The statement of an import holds the specifier between quotes as it is, so it is read as this specifier just where each
character of it stands for itself (`Import.readsBack_iff`). A planned file imports from the files of other classes, from
the client module if its class has enums, and from the modules of decorators (`Context.origin_of_mem_plan`). All but
the client module have specifiers that can be read, if classes are named by identifiers. What is read of the client
module depends on the names on the way to it (`Document.forall_mem_specifier_iff`): the user chooses them.

So the statements of a run are read as meant just where it has no enums, or each name on the way to the client is of
characters that stand for themselves (`Context.statements_read_iff`).
-/

namespace SchemaClasses

open TypeScript Text

/-! ## Statements -/

namespace TypeScript.Import

variable {i : Import String}

/-- The statement of an import ends in a literal that is read as its specifier. -/
def ReadsBack (i : Import String) : Prop :=
  ∃ body, i.render.toList =
      ("import \x7b " ++ ", ".intercalate i.names.toList ++ " \x7d from ").toList ++ '\'' :: (body ++ ['\'', ';']) ∧
    Quoted.Encodes body i.origin.toList

theorem toList_render (i : Import String) : i.render.toList =
    ("import \x7b " ++ ", ".intercalate i.names.toList ++ " \x7d from ").toList ++
      '\'' :: (i.origin.toList ++ ['\'', ';']) := by
  have hsplit : " \x7d from '" = " \x7d from " ++ "'" := by decide
  unfold render
  rw [hsplit]
  simp [String.toList_append]

/-- A specifier is read from its statement just where each character of it stands for itself. -/
theorem readsBack_iff : i.ReadsBack ↔ ∀ ch ∈ i.origin.toList, Quoted.isPlain ch = true := by
  rw [← Quoted.encodes_self_iff]
  constructor
  · rintro ⟨body, hrender, hencodes⟩
    rw [toList_render, List.append_right_inj, List.cons.injEq, List.append_left_inj] at hrender
    rwa [← hrender.2] at hencodes
  · intro h
    exact ⟨_, toList_render i, h⟩

end TypeScript.Import

/-! ## The client module -/

theorem forall_mem_intercalate_iff {P : Char → Prop} (hslash : P '/') (names : List String) :
    (∀ ch ∈ ("/".intercalate names).toList, P ch) ↔ ∀ n ∈ names, ∀ ch ∈ n.toList, P ch := by
  induction names with
  | nil => simp
  | cons n names ih =>
    by_cases hnil : names = []
    · subst hnil
      simp
    · rw [toList_intercalate_cons n hnil, List.forall_mem_append, List.forall_mem_cons, ih, List.forall_mem_cons]
      simp [hslash]

/-- What holds of the characters of a part holds of a text just where it holds of the text without the part. -/
theorem forall_mem_removeFirst_iff {P : Char → Prop} {part : List Char} (hpart : ∀ ch ∈ part, P ch) (cs : List Char) :
    (∀ ch ∈ removeFirst part cs, P ch) ↔ ∀ ch ∈ cs, P ch := by
  rcases removeFirst_cases part cs with heq | ⟨before, after, hcs, heq⟩
  · rw [heq]
  · rw [heq, hcs]
    simp only [List.forall_mem_append]
    exact and_congr_right fun _ => (and_iff_right hpart).symm

namespace Document

variable {env : Environment} {d : Document} {schema : Path}

/-- The specifier of the client module stands for itself just where all names on the way to it do. -/
theorem forall_mem_specifier_iff (hschema : d.schemaPath = some schema) {specifier : String}
    (hknown : d.client env = .known specifier) :
    (∀ ch ∈ specifier.toList, Quoted.isPlain ch = true) ↔
      ∀ k ∈ (d.clientWay env schema).components, ∀ ch ∈ k.text.toList, Quoted.isPlain ch = true := by
  rw [client_eq hschema] at hknown
  split at hknown
  · cases hknown
  · have hmodules : ∀ ch ∈ "node_modules/".toList, Quoted.isPlain ch = true := List.all_eq_true.1 (by decide)
    rw [← Client.known.inj hknown, String.toList_ofList, forall_mem_removeFirst_iff hmodules, Path.slashed,
      forall_mem_intercalate_iff (by decide)]
    simp only [List.forall_mem_map, List.mem_filter, decide_eq_true_eq, and_imp]
    refine forall_congr' fun k => forall_congr' fun hk => ⟨fun h => ?_, fun h _ => h⟩
    by_cases hroot : k = .root
    · subst hroot
      exact List.all_eq_true.1 (by decide)
    · exact h hroot

/-- A client module is known only beside a schema file. -/
theorem exists_schema_of_known {env : Environment} {d : Document} {specifier : String}
    (h : d.client env = .known specifier) : ∃ schema, d.schemaPath = some schema := by
  cases hschema : d.schemaPath with
  | some schema => exact ⟨schema, rfl⟩
  | none =>
    unfold client at h
    rw [hschema] at h
    cases h

end Document

namespace Context

variable {c : Context} {ms : List SourceModule} {f : SourceModule} {i : Import String}

/-! ## Specifiers of planned files -/

/-- A planned file imports from files of classes, from the client module if its class has enums, and from the modules of
decorators. -/
theorem origin_of_mem_plan (h : c.plan = .ok ms) (hf : f ∈ ms) (hi : i ∈ f.imports.toList) :
    (∃ t ∈ f.decl.relations.toList, i.origin = c.specifierOf f.decl.name (.model t)) ∨
    (f.decl.enums.toList ≠ [] ∧ i.origin = c.client.specifier) ∨
    i.origin = graphqlModule ∨ i.origin = swaggerModule := by
  obtain ⟨-, -, hms⟩ := plan_eq_ok_iff.1 h
  have hdecl : f = c.moduleOf f.decl := by
    rw [hms] at hf
    obtain ⟨k, -, rfl⟩ := List.mem_map.1 hf
    rfl
  rw [hdecl] at hi
  obtain ⟨j, hj, hji⟩ := Imports.exists_origin_of_mem_ofList hi
  obtain ⟨drafted, hdrafted, rfl⟩ := List.mem_map.1 hj
  obtain ⟨needed, hneeded, hn⟩ := Imports.exists_origin_of_mem_ofList hdrafted
  rw [← hji, ← hn]
  rcases List.mem_append.1 hneeded with hneeded | hneeded
  · rcases List.mem_append.1 hneeded with hneeded | hneeded
    · obtain ⟨t, ht, rfl⟩ := List.mem_map.1 hneeded
      exact Or.inl ⟨t, ht, rfl⟩
    · have henums : f.decl.enums.toList ≠ [] := Draft.enums_ne_nil_of_mem_knownEnumImports hneeded
      rcases Draft.origin_of_mem_knownEnumImports hneeded with ho | ho
      · exact Or.inr (Or.inl ⟨henums, by rw [ho]; rfl⟩)
      · exact Or.inr (Or.inr (Or.inl (by rw [ho]; rfl)))
  · obtain ⟨e, he, rfl⟩ := List.mem_map.1 hneeded
    exact Or.inr (Or.inr (Or.inr (module_of_mem_usedDecorators h hf he)))

/-- A class with enums is planned only where the client module is known. -/
theorem exists_specifier_of_enum (h : c.plan = .ok ms) (hf : f ∈ ms) {e : String} (he : e ∈ f.decl.enums.toList) :
    ∃ specifier, c.client = .known specifier := by
  cases hclient : c.client with
  | known specifier => exact ⟨specifier, rfl⟩
  | unknown reason =>
    obtain ⟨hknown, -⟩ := plan_eq_ok_iff.1 h
    have hclass : f.decl ∈ c.classes := decl_of_plan h ▸ List.mem_map_of_mem hf
    exact absurd ⟨⟨reason, hclient⟩, f.decl, hclass, List.ne_nil_of_mem he⟩ hknown

theorem isPlain_of_isSnake {ch : Char} (h : Text.isSnake ch = true) : Quoted.isPlain ch = true := by
  refine Quoted.isPlain_iff.2 ⟨?_, ?_, ?_⟩
  · rintro rfl
    exact absurd h (by decide)
  · rintro rfl
    exact absurd h (by decide)
  · simp only [Quoted.isLineBreak, Bool.or_eq_false_iff, decide_eq_false_iff_not]
    refine ⟨⟨⟨?_, ?_⟩, ?_⟩, ?_⟩
    all_goals
      rintro rfl
      exact absurd h (by decide)

/-- The specifier of the file of a class that is named by an identifier stands for itself. -/
theorem isPlain_of_mem_specifierOf (hid : ∀ m ∈ c.schema.models, Text.isIdentifier m.name) (h : c.plan = .ok ms)
    (hf : f ∈ ms) {t : String} (ht : t ∈ f.decl.relations.toList) :
    ∀ ch ∈ (c.specifierOf f.decl.name (.model t)).toList, Quoted.isPlain ch = true := by
  obtain ⟨g, hg, rfl⟩ := exists_file_of_relation h hf ht
  have htid := isIdentifier_of_mem_plan hid h hg
  rw [specifierOf_model (isIdentifier_of_mem_plan hid h hf) htid, String.toList_append, List.forall_mem_append]
  exact ⟨List.all_eq_true.1 (by decide), fun ch hch => isPlain_of_isSnake (Text.mem_snakeCase htid ch hch)⟩

/-- **Statements are read as meant** just where each character of their specifiers stands for itself. In a run over a
document whose models are named by identifiers only the client module can be misread: all statements are read as meant
just where there are no enums to import, or each name on the way to the client is of characters that stand for
themselves. -/
theorem statements_read_iff {env : Environment} {d : Document} (hclient : c.client = d.client env)
    (h : c.plan = .ok ms) :
    (∀ f ∈ ms, ∀ i ∈ f.imports.toList, i.ReadsBack ↔ ∀ ch ∈ i.origin.toList, Quoted.isPlain ch = true) ∧
    ((∀ m ∈ c.schema.models, Text.isIdentifier m.name) →
      ((∀ f ∈ ms, ∀ i ∈ f.imports.toList, i.ReadsBack) ↔
        ((∃ f ∈ ms, f.decl.enums.toList ≠ []) → ∀ schema, d.schemaPath = some schema →
          ∀ k ∈ (d.clientWay env schema).components, ∀ ch ∈ k.text.toList, Quoted.isPlain ch = true))) := by
  refine ⟨fun f _ i _ => Import.readsBack_iff, fun hid => ⟨?_, ?_⟩⟩
  · rintro hall ⟨f, hf, hne⟩ schema hschema
    obtain ⟨e, he⟩ := List.exists_mem_of_ne_nil _ hne
    obtain ⟨specifier, hknown⟩ := exists_specifier_of_enum h hf he
    obtain ⟨i, hi, horigin, -⟩ := (brings_of_plan h hf).2 ⟨_, .enum he, rfl⟩
    have hread := Import.readsBack_iff.1 (hall f hf i hi)
    rw [horigin, hknown] at hread
    exact (Document.forall_mem_specifier_iff hschema (hclient ▸ hknown)).1 hread
  · intro hway f hf i hi
    rw [Import.readsBack_iff]
    rcases origin_of_mem_plan h hf hi with ⟨t, ht, ho⟩ | ⟨hne, ho⟩ | ho | ho
    · rw [ho]
      exact isPlain_of_mem_specifierOf hid h hf ht
    · obtain ⟨e, he⟩ := List.exists_mem_of_ne_nil _ hne
      obtain ⟨specifier, hknown⟩ := exists_specifier_of_enum h hf he
      obtain ⟨schema, hschema⟩ := Document.exists_schema_of_known (hclient ▸ hknown)
      rw [ho, hknown]
      exact (Document.forall_mem_specifier_iff hschema (hclient ▸ hknown)).2 (hway ⟨f, hf, hne⟩ schema hschema)
    · rw [ho]
      exact List.all_eq_true.1 (by decide)
    · rw [ho]
      exact List.all_eq_true.1 (by decide)

/-- A document with an enum, and with the client in a directory. -/
def withStatus (output : String) : Document :=
  { Document.withClient "/project/prisma/schema.prisma" ⟨some output, none⟩ with
    schema := ⟨[⟨"Post", [.choice "status" "Status" "DRAFT"]⟩], ["Status"]⟩ }

/-- The run of this document. -/
def statusRun (output : String) : Context := withConfiguration (fun _ => none) ⟨"/work"⟩ (withStatus output) {}

theorem ofDocument_withStatus (output : String) :
    ofDocument (fun _ => none) ⟨"/work"⟩ (withStatus output) = .ok (statusRun output) := rfl

theorem statements_read_quote : ∃ ms, (statusRun "/project/it's/client").plan = .ok ms ∧
    (∀ m ∈ (statusRun "/project/it's/client").schema.models, Text.isIdentifier m.name) ∧
    ¬∀ f ∈ ms, ∀ i ∈ f.imports.toList, i.ReadsBack := by
  obtain ⟨ms, hms⟩ : ∃ ms, (statusRun "/project/it's/client").plan = .ok ms := ⟨_, rfl⟩
  have hid : ∀ m ∈ (statusRun "/project/it's/client").schema.models, Text.isIdentifier m.name := by decide +kernel
  have hclient : (statusRun "/project/it's/client").client = (withStatus "/project/it's/client").client fun _ => none :=
    rfl
  obtain ⟨-, hall⟩ := statements_read_iff hclient hms
  have henums : ∃ f ∈ ms, f.decl.enums.toList ≠ [] := by
    cases hms
    exact ⟨_, .head _, by decide +kernel⟩
  refine ⟨ms, hms, hid, fun hread => ?_⟩
  have hway := (hall hid).1 hread henums ⟨"/project/prisma/schema.prisma"⟩ rfl
  exact absurd (hway (.name "it's") (by decide +kernel) '\'' (by decide)) (by decide)

/-- The statements of two runs: a quote in the name of a directory ends the literal early, and a backslash makes another
module of it. -/
theorem statements_not_read :
    (¬∀ (env : Environment) (cwd : Path) (d : Document) (c : Context) (ms : List SourceModule),
      ofDocument env cwd d = .ok c → c.plan = .ok ms → ∀ f ∈ ms, ∀ i ∈ f.imports.toList, i.ReadsBack) ∧
    (∃ ms, (statusRun "/project/it's/client").plan = .ok ms ∧
      (ms.map fun f => f.imports.toList.map Import.render) =
        [["import \x7b Status \x7d from 'it's/client';", "import \x7b registerEnumType \x7d from '@nestjs/graphql';",
          "import \x7b ApiProperty \x7d from '@nestjs/swagger';"]] ∧
      Quoted.close? "it's/client';".toList = some ("it".toList, "s/client';".toList)) ∧
    ∃ ms, (statusRun "/project/a\\x62/client").plan = .ok ms ∧
      (ms.map fun f => f.imports.toList.map Import.render) =
        [["import \x7b Status \x7d from 'a\\x62/client';", "import \x7b registerEnumType \x7d from '@nestjs/graphql';",
          "import \x7b ApiProperty \x7d from '@nestjs/swagger';"]] ∧
      Quoted.decode "a\\x62/client".toList = some "ab/client".toList := by
  refine ⟨fun h => ?_, ⟨_, rfl, by decide +kernel, by decide⟩, _, rfl, by decide +kernel, by decide⟩
  have hread := h _ _ _ _ _ (ofDocument_withStatus "/project/it's/client") rfl _ (.head _) _ (.head _)
  exact absurd (Import.readsBack_iff.1 hread '\'' (by decide +kernel)) (by decide)

end Context
end SchemaClasses
