import SchemaClasses.Conversion.Model
import SchemaClasses.Proofs.Ordered.Lookup

/-!
# Classes and their models

Every class comes from a model and a selection of its fields (`mem_toClasses_iff`): the selection settles what the
name of the class ends in (`Selection.ending`), and the mode of the run which selections are used (`Selection.used`).
What a class refers to are the types of fields (`mem_relations_toClass_iff`, `mem_enums_toClass_iff`), and its
decorators document properties (`usedDecorators_toClass`).
-/

namespace SchemaClasses

open TypeScript

/-- What the name of the class with the selected fields ends in. -/
def Selection.ending : Selection → String
  | .relations => relationsEnding
  | .all | .others => ""

/-- The selections of a run, split or not. -/
def Selection.used (split : Bool) : List Selection := if split then [.relations, .others] else [.all]

/-- The class of the selected fields of a model. -/
def Model.classOf (swagger : Bool) (m : Model) (sel : Selection) : ClassDecl := m.toClass swagger sel sel.ending

/-- The fields of a model that a class takes. -/
def Model.selected (m : Model) (sel : Selection) : List Field := m.fields.filter sel.takes

/-- The classes of a schema are those of its models and the used selections. -/
theorem mem_toClasses_iff {swagger split : Bool} {s : Schema} {c : ClassDecl} :
    c ∈ s.toClasses swagger split ↔ ∃ m ∈ s.models, ∃ sel ∈ Selection.used split, c = m.classOf swagger sel := by
  cases split with
  | false =>
    simp only [Schema.toClasses, Selection.used, Bool.false_eq_true, if_false, List.mem_map, List.mem_singleton,
      exists_eq_left, eq_comm]
    rfl
  | true =>
    simp only [Schema.toClasses, Selection.used, if_true, List.mem_append, List.mem_map, List.mem_cons,
      List.not_mem_nil, or_false]
    constructor
    · rintro (⟨m, hm, rfl⟩ | ⟨m, hm, rfl⟩)
      · exact ⟨m, hm, .relations, Or.inl rfl, rfl⟩
      · exact ⟨m, hm, .others, Or.inr rfl, rfl⟩
    · rintro ⟨m, hm, sel, rfl | rfl, rfl⟩
      · exact Or.inl ⟨m, hm, rfl⟩
      · exact Or.inr ⟨m, hm, rfl⟩

section Class

variable {swagger : Bool} {m : Model} {sel : Selection}

theorem properties_classOf : (m.classOf swagger sel).properties = (m.selected sel).map (Field.toProperty swagger) := rfl

theorem mem_selected_iff {f : Field} : f ∈ m.selected sel ↔ f ∈ m.fields ∧ sel.takes f = true := List.mem_filter

theorem relations_classOf (h : sel ≠ .others) : (m.classOf swagger sel).relations = .ofList
    ((m.fields.filter fun f => f.hasRelation && f.typeName != m.name ++ sel.ending).map Field.typeName) := if_neg h

/-- A class refers to the other models that its fields have relations to. -/
theorem mem_relations_classOf_iff {t : String} : t ∈ (m.classOf swagger sel).relations.toList ↔
    t ≠ (m.classOf swagger sel).name ∧ ∃ f ∈ m.selected sel, f.hasRelation = true ∧ f.typeName = t := by
  by_cases hsel : sel = .others
  · -- Neither side holds of a class without relations.
    subst hsel
    refine iff_of_false (fun h => by cases h) ?_
    rintro ⟨-, f, hf, hrel, -⟩
    have := (mem_selected_iff.1 hf).2
    simp [Selection.takes, hrel] at this
  · have htakes : ∀ f : Field, f.hasRelation = true → sel.takes f = true := by
      intro f hf
      cases sel with
      | all => rfl
      | relations => exact hf
      | others => exact absurd rfl hsel
    rw [relations_classOf hsel, OrderedSet.mem_ofList, List.mem_map]
    constructor
    · rintro ⟨f, hf, rfl⟩
      obtain ⟨hmem, hf⟩ := List.mem_filter.1 hf
      rw [Bool.and_eq_true, bne_iff_ne] at hf
      exact ⟨hf.2, f, mem_selected_iff.2 ⟨hmem, htakes f hf.1⟩, hf.1, rfl⟩
    · rintro ⟨hne, f, hf, hfrel, rfl⟩
      refine ⟨f, List.mem_filter.2 ⟨(mem_selected_iff.1 hf).1, ?_⟩, rfl⟩
      rw [Bool.and_eq_true, bne_iff_ne]
      exact ⟨hfrel, hne⟩

/-- A class with more than relations refers to all enums of the model. -/
theorem mem_enums_classOf_iff {e : String} : e ∈ (m.classOf swagger sel).enums.toList ↔
    sel ≠ .relations ∧ ∃ f ∈ m.fields, f.kind = .enum ∧ f.typeName = e := by
  by_cases hsel : sel = .relations
  · subst hsel
    exact iff_of_false (fun h => by cases h) fun h => h.1 rfl
  · have henums : (m.classOf swagger sel).enums =
        .ofList ((m.fields.filter fun f => f.kind = .enum).map Field.typeName) := if_neg hsel
    rw [henums, OrderedSet.mem_ofList, List.mem_map]
    simp [hsel, and_assoc]

/-- The decorators of a class are those of its properties. -/
theorem mem_usedDecorators_classOf_iff {d : Decorator} : d ∈ (m.classOf swagger sel).usedDecorators ↔
    ∃ f ∈ m.selected sel, d ∈ (f.toProperty swagger).decorators := by
  have : (m.classOf swagger sel).usedDecorators = (m.classOf swagger sel).properties.flatMap Property.decorators := rfl
  rw [this, properties_classOf, List.flatMap_map, List.mem_flatMap]

end Class

/-! ## Small fields -/

/-- A required number. -/
def Field.number (name : String) : Field := ⟨name, .scalar, "Int", true, false, none, none⟩

/-- A required reference to a model. -/
def Field.reference (name target : String) : Field := ⟨name, .object, target, true, false, some name, none⟩

/-- A required member of an enum. -/
def Field.choice (name enum start : String) : Field :=
  ⟨name, .enum, enum, true, false, none, some (.literal (.string start))⟩

end SchemaClasses
