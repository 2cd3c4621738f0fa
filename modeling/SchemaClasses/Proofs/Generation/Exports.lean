import SchemaClasses.Proofs.Conversion.Mentions
import SchemaClasses.Proofs.Generation.References
import SchemaClasses.Proofs.Layout.Client

/-!
# Imported and declared names

A planned file imports another class under its capitalized name, whereas the file of this class declares it under the
name as it is. So what is imported is declared just where no class that is referred to has a name with a lower-case
letter at its start (`importsDeclared_iff`), provided that each class has a file of its own. Enums do not come in
between, since the client module of a document does not look like the file of a class.
-/

namespace SchemaClasses

open TypeScript

/-! ## Capitalized names -/

namespace Text

/-- Whether a text starts with a lower-case letter. -/
def startsLower (s : String) : Bool := s.toList.head?.any Char.isLower

theorem toUpper_eq_self_iff {c : Char} : isWord c → (c.toUpper = c ↔ c.isLower = false) :=
  forall_word (P := fun c => c.toUpper = c ↔ c.isLower = false) (by decide +kernel)

/-- An identifier is its own capitalized name just where it does not start with a lower-case letter. -/
theorem capitalize_eq_self_iff {s : String} (h : isIdentifier s) : capitalize s = s ↔ startsLower s = false := by
  obtain ⟨c, cs, hs, hc, -⟩ := isIdentifier_iff.1 h
  have hword := isWord_of_isAlpha hc
  have hupper : upper c = [c.toUpper] := if_pos (toNat_lt_of_isWord hword)
  have hcap : (capitalize s).toList = c.toUpper :: cs := by
    unfold capitalize
    rw [hs]
    simp only [hupper, String.toList_ofList]
    rfl
  unfold startsLower
  rw [← String.toList_inj, hcap, hs, List.cons.injEq, List.head?_cons, Option.any_some, ← toUpper_eq_self_iff hword]
  exact and_iff_left rfl

end Text

namespace Context

variable {c : Context} {ms : List SourceModule} {f g : SourceModule}

/-! ## Imports from planned files -/

theorem ne_of_mem_relations (h : c.plan = .ok ms) (hf : f ∈ ms) {t : String} (ht : t ∈ f.decl.relations.toList) :
    t ≠ f.decl.name := by
  obtain ⟨m, -, sel, -, hcls⟩ := exists_model_of_mem_plan h hf
  rw [hcls] at ht ⊢
  exact (mem_relations_classOf_iff.1 ht).1

/-- The decorators of a planned class come from one module. -/
theorem module_of_mem_usedDecorators (h : c.plan = .ok ms) (hf : f ∈ ms) {d : Decorator}
    (hd : d ∈ f.decl.usedDecorators) : d.module = swaggerModule := by
  obtain ⟨m, -, sel, -, hcls⟩ := exists_model_of_mem_plan h hf
  rw [hcls] at hd
  obtain ⟨p, -, hd⟩ := mem_usedDecorators_classOf_iff.1 hd
  rw [(Field.mem_decorators_iff.1 hd).2]
  rfl

theorem sibling_ne {specifier : String} (h : specifier.toList.head? ≠ some '.') (stem : String) :
    "./" ++ stem ≠ specifier := by
  rintro rfl
  refine h ?_
  rw [String.toList_append]
  rfl

/-- The symbols that a planned file imports from the stem of a planned class: the capitalized name of the class if the
file refers to it, and the enums of the file if the client module has this stem. -/
theorem brings_sibling_iff (hid : ∀ m ∈ c.schema.models, Text.isIdentifier m.name) (h : c.plan = .ok ms)
    (hpaths : (ms.map fun f => f.path).Nodup) (hf : f ∈ ms) (hg : g ∈ ms) {x : String} :
    f.imports.Brings ("./" ++ Text.snakeCase g.decl.name) x ↔
      (g.decl.name ∈ f.decl.relations.toList ∧ x = Text.capitalize g.decl.name) ∨
      x ∈ f.decl.enums.toList ∧ c.client.specifier = "./" ++ Text.snakeCase g.decl.name := by
  have hfid := isIdentifier_of_mem_plan hid h hf
  have hmodule : (∀ stem, "./" ++ stem ≠ graphqlModule) ∧ ∀ stem, "./" ++ stem ≠ swaggerModule :=
    ⟨sibling_ne (by decide), sibling_ne (by decide)⟩
  rw [brings_of_plan h hf]
  constructor
  · rintro ⟨o, ho, hs⟩
    cases ho with
    | relation ht =>
      -- The class of the relation has the file of the stem.
      obtain ⟨k, hk, rfl⟩ := exists_file_of_relation h hf ht
      rw [specifierOf_model hfid (isIdentifier_of_mem_plan hid h hk), String.append_right_inj] at hs
      have hpath : g.path = k.path := by
        rw [path_of_plan h hg, path_of_plan h hk]
        unfold fileOf fileName
        rw [hs]
      obtain rfl := List.inj_on_of_nodup_map hpaths hg hk hpath
      exact Or.inl ⟨ht, rfl⟩
    | enum he => exact Or.inr ⟨he, hs.symm⟩
    | registration he => exact absurd hs (hmodule.1 _)
    | decorator hd =>
      rw [module_of_mem_usedDecorators h hf hd] at hs
      exact absurd hs (hmodule.2 _)
  · rintro (⟨ht, rfl⟩ | ⟨he, hs⟩)
    · exact ⟨_, .relation ht, (specifierOf_model hfid (isIdentifier_of_mem_plan hid h hg)).symm⟩
    · exact ⟨_, .enum he, hs.symm⟩

/-- Whatever a planned file imports from the file of another class is the name that this file declares. -/
def ImportsDeclared (ms : List SourceModule) : Prop :=
  ∀ f ∈ ms, ∀ i ∈ f.imports.toList, ∀ g ∈ ms, g.path ≠ f.path → i.origin ++ ".ts" = "./" ++ g.name →
    ∀ x ∈ i.names.toList, x = g.decl.name

/-- A specifier means a planned file just where it holds the stem of its class. -/
theorem sibling_iff (h : c.plan = .ok ms) (hg : g ∈ ms) {specifier : String} :
    specifier ++ ".ts" = "./" ++ g.name ↔ specifier = "./" ++ Text.snakeCase g.decl.name := by
  rw [(file_of_plan h hg).2, fileName, ← String.append_assoc, String.append_left_inj]

/-- Imported names are declared names for the classes with capitalized names and, where the client module looks like the
file of a class, for the enums with the name of this class. -/
theorem importsDeclared_iff (hid : ∀ m ∈ c.schema.models, Text.isIdentifier m.name) (h : c.plan = .ok ms)
    (hpaths : (ms.map fun f => f.path).Nodup) :
    ImportsDeclared ms ↔ ∀ f ∈ ms, (∀ t ∈ f.decl.relations.toList, Text.startsLower t = false) ∧
      ∀ g ∈ ms, g.path ≠ f.path → c.client.specifier ++ ".ts" = "./" ++ g.name →
        ∀ e ∈ f.decl.enums.toList, e = g.decl.name := by
  constructor
  · intro hdeclared f hf
    refine ⟨fun t ht => ?_, fun g hg hne hspec e he => ?_⟩
    · obtain ⟨g, hg, rfl⟩ := exists_file_of_relation h hf ht
      have hpath : g.path ≠ f.path := fun heq =>
        ne_of_mem_relations h hf ht (by rw [List.inj_on_of_nodup_map hpaths hg hf heq])
      obtain ⟨i, hi, horigin, hname⟩ := (brings_sibling_iff hid h hpaths hf hg).2 (Or.inl ⟨ht, rfl⟩)
      have hcap := hdeclared f hf i hi g hg hpath ((sibling_iff h hg).2 horigin) _ hname
      exact (Text.capitalize_eq_self_iff (isIdentifier_of_mem_plan hid h hg)).1 hcap
    · obtain ⟨i, hi, horigin, hname⟩ :=
        (brings_sibling_iff hid h hpaths hf hg).2 (Or.inr ⟨he, (sibling_iff h hg).1 hspec⟩)
      exact hdeclared f hf i hi g hg hne ((sibling_iff h hg).2 horigin) e hname
  · intro hall f hf i hi g hg hne hspec x hx
    have horigin := (sibling_iff h hg).1 hspec
    rcases (brings_sibling_iff hid h hpaths hf hg).1 ⟨i, hi, horigin, hx⟩ with ⟨ht, rfl⟩ | ⟨he, hclient⟩
    · exact (Text.capitalize_eq_self_iff (isIdentifier_of_mem_plan hid h hg)).2 ((hall f hf).1 _ ht)
    · exact (hall f hf).2 g hg hne ((sibling_iff h hg).2 hclient) x he

/-- **Imported names are declared names** just where no class that is referred to has a name with a lower-case letter at
its start, and no enum comes from a client module that looks like the file of a class; the client module of a document
never does. -/
theorem imports_declared_iff (hid : ∀ m ∈ c.schema.models, Text.isIdentifier m.name) (h : c.plan = .ok ms)
    (hpaths : (ms.map fun f => f.path).Nodup) :
    (ImportsDeclared ms ↔ ∀ f ∈ ms, (∀ t ∈ f.decl.relations.toList, Text.startsLower t = false) ∧
      ∀ g ∈ ms, g.path ≠ f.path → c.client.specifier ++ ".ts" = "./" ++ g.name →
        ∀ e ∈ f.decl.enums.toList, e = g.decl.name) ∧
    ∀ env d, c.client = Document.client env d →
      (ImportsDeclared ms ↔ ∀ f ∈ ms, ∀ t ∈ f.decl.relations.toList, Text.startsLower t = false) := by
  refine ⟨importsDeclared_iff hid h hpaths, fun env d hclient => ?_⟩
  rw [importsDeclared_iff hid h hpaths]
  refine forall_congr' fun f => forall_congr' fun hf => and_iff_left fun g hg _ hspec => ?_
  refine absurd ((sibling_iff h hg).1 hspec) ?_
  rw [hclient]
  exact Document.specifier_ne_sibling env d _

/-- A run over a model with a lower-case name and a model that refers to it. -/
def lowerCase : Context := small false [⟨"user", [.number "id"]⟩, ⟨"Post", [.reference "author" "user"]⟩]

theorem imports_declared_lowerCase :
    ∃ ms, lowerCase.plan = .ok ms ∧ (ms.map fun f => f.path).Nodup ∧ ¬ImportsDeclared ms := by
  have hno : ∀ ms, lowerCase.plan = .ok ms → (ms.map fun f => f.path).Nodup →
      (∃ f ∈ ms, ∃ t ∈ f.decl.relations.toList, Text.startsLower t = true) → ¬ImportsDeclared ms := by
    rintro ms h hpaths ⟨f, hf, t, ht, hlower⟩ hdeclared
    have hupper := ((imports_declared_iff (by decide +kernel) h hpaths).1.1 hdeclared f hf).1 t ht
    rw [hlower] at hupper
    cases hupper
  exact ⟨_, rfl, by decide +kernel, hno _ rfl (by decide +kernel) (by decide +kernel)⟩

/-- A class with a lower-case name is declared under this name and imported under another. -/
theorem imports_not_declared : ∃ ms, lowerCase.plan = .ok ms ∧
    ms.map (fun f => (f.decl.name, f.name, f.imports.toList.map Import.render)) =
      [("user", "user.ts", []), ("Post", "post.ts", ["import \x7b User \x7d from './user';"])] :=
  ⟨_, rfl, by decide +kernel⟩

end Context
end SchemaClasses
