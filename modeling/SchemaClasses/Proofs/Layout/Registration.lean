import SchemaClasses.Proofs.Layout.Coverage

/-!
# Registered references

The code of a property refers to a class in two places, and in both it is the class that the shape of its field names
(`Field.mentions_model_iff`). A shape names a class for every field of kind `object` (`Field.shape_relation_iff`),
whereas a class counts among its relations those of fields with a relation name only. So a class registers no more
than its fields refer to (`refers_of_mem_relations`), but not always all of it: a field of kind `object` without a
relation name goes unregistered unless it refers to its own class or to one that another field has a named relation to
(`relations_registered_iff`).
-/

namespace SchemaClasses

open TypeScript

/-- A property mentions the class that the shape of its field names. -/
theorem Field.mentions_model_iff {f : Field} {swagger : Bool} {client t x : String} :
    f.Mentions swagger client (.model t) x ↔ Shape.of f = .relation t ∧ x = Text.capitalize t := by
  constructor
  · intro h
    cases h with
    | relation h => exact ⟨h, rfl⟩
    | thunk hd ho h =>
      obtain ⟨-, rfl⟩ := Field.mem_decorators_iff.1 hd
      exact ⟨Field.shape_of_thunk ho h, rfl⟩
  · rintro ⟨h, rfl⟩
    exact .relation h

section Class

variable {swagger : Bool} {m : Model} {sel : Selection}

/-- A class that a field of another class refers to. -/
def Model.Refers (m : Model) (sel : Selection) (t : String) : Prop :=
  t ≠ m.name ++ sel.ending ∧ ∃ f ∈ m.selected sel, Shape.of f = .relation t

/-- Each selected field of kind `object` has a relation name, or refers to its own class or to one that a selected field
has a named relation to. -/
def Model.NamesRelations (m : Model) (sel : Selection) : Prop :=
  ∀ f ∈ m.selected sel, f.kind = .object → f.hasRelation = false →
    f.typeName = m.name ++ sel.ending ∨ ∃ g ∈ m.selected sel, g.hasRelation = true ∧ g.typeName = f.typeName

instance : Decidable (m.NamesRelations sel) :=
  inferInstanceAs (Decidable (∀ f ∈ m.selected sel, f.kind = .object → f.hasRelation = false →
    f.typeName = m.name ++ sel.ending ∨ ∃ g ∈ m.selected sel, g.hasRelation = true ∧ g.typeName = f.typeName))

/-- The relations of a class are references of its fields. -/
theorem refers_of_mem_relations {t : String} (h : t ∈ (m.classOf swagger sel).relations.toList) : m.Refers sel t := by
  obtain ⟨hne, f, hf, hrel, rfl⟩ := mem_relations_classOf_iff.1 h
  exact ⟨hne, f, hf, Field.shape_relation_iff.2 ⟨Or.inl hrel, rfl⟩⟩

/-- All references of fields are relations of the class just where no field of kind `object` goes unregistered. -/
theorem mem_relations_of_refers_iff :
    (∀ t, m.Refers sel t → t ∈ (m.classOf swagger sel).relations.toList) ↔ m.NamesRelations sel := by
  constructor
  · intro hall f hf hkind _
    by_cases hown : f.typeName = m.name ++ sel.ending
    · exact Or.inl hown
    · have hshape : Shape.of f = .relation f.typeName := Field.shape_relation_iff.2 ⟨Or.inr hkind, rfl⟩
      obtain ⟨-, g, hg, hrel, htype⟩ := mem_relations_classOf_iff.1 (hall _ ⟨hown, f, hf, hshape⟩)
      exact Or.inr ⟨g, hg, hrel, htype⟩
  · rintro hnames t ⟨hne, f, hf, hshape⟩
    obtain ⟨hrelation, rfl⟩ := Field.shape_relation_iff.1 hshape
    rw [mem_relations_classOf_iff]
    cases hrel : f.hasRelation with
    | true => exact ⟨hne, f, hf, hrel, rfl⟩
    | false =>
      have hkind : f.kind = .object := hrelation.resolve_left (by simp [hrel])
      obtain ⟨g, hg, hgrel, htype⟩ := (hnames f hf hkind hrel).resolve_left hne
      exact ⟨hne, g, hg, hgrel, htype⟩

/-- A draft imports a class just where its own class has it among its relations. -/
theorem Draft.brings_model_iff {client : Client} {directory : Path} {d : Draft}
    (h : Draft.ofClass client directory (m.classOf swagger sel) = .ok d) {t x : String} :
    d.imports.Brings (.model t) x ↔ t ∈ (m.classOf swagger sel).relations.toList ∧ x = Text.capitalize t := by
  rw [Draft.brings_ofClass h]
  constructor
  · intro hneeds
    cases hneeds with
    | relation ht => exact ⟨ht, rfl⟩
  · rintro ⟨ht, rfl⟩
    exact .relation ht

end Class

/-- **References are registered** just where no field of kind `object` goes unregistered: then, and only then, the
relations of the class of the selected fields are the classes that these fields refer to, but its own, and its draft
imports each of these classes that the code of its properties mentions. What a class has among its relations its fields
always refer to. -/
theorem relations_registered_iff (swagger : Bool) (m : Model) (sel : Selection) :
    (∀ t ∈ (m.classOf swagger sel).relations.toList, m.Refers sel t) ∧
    ((∀ t, t ∈ (m.classOf swagger sel).relations.toList ↔ m.Refers sel t) ↔ m.NamesRelations sel) ∧
    ∀ client directory d, Draft.ofClass client directory (m.classOf swagger sel) = .ok d →
      ((∀ f ∈ m.selected sel, ∀ t x, t ≠ (m.classOf swagger sel).name →
          f.Mentions swagger client.specifier (.model t) x → d.imports.Brings (.model t) x) ↔
        m.NamesRelations sel) := by
  refine ⟨fun t => refers_of_mem_relations, ?_, fun client directory d hd => ?_⟩
  · rw [← @mem_relations_of_refers_iff swagger]
    exact forall_congr' fun t => ⟨fun h => h.2, fun h => ⟨refers_of_mem_relations, h⟩⟩
  · rw [← @mem_relations_of_refers_iff swagger]
    constructor
    · rintro hall t ⟨hne, f, hf, hshape⟩
      have hbrings := hall f hf t _ hne (Field.mentions_model_iff.2 ⟨hshape, rfl⟩)
      exact ((Draft.brings_model_iff hd).1 hbrings).1
    · intro hall f hf t x hne hmentions
      obtain ⟨hshape, rfl⟩ := Field.mentions_model_iff.1 hmentions
      exact (Draft.brings_model_iff hd).2 ⟨hall t ⟨hne, f, hf, hshape⟩, rfl⟩

/-- A model with a reference that has no relation name. -/
def unnamed : Model := ⟨"Post", [.number "id", ⟨"author", .object, "User", true, false, none, none⟩]⟩

theorem relations_registered_unnamed : ∃ d,
    Draft.ofClass (.known "@prisma/client") ⟨"/out"⟩ (unnamed.classOf true .all) = .ok d ∧
    (¬∀ t, t ∈ (unnamed.classOf true .all).relations.toList ↔ unnamed.Refers .all t) ∧
    ¬∀ f ∈ unnamed.selected .all, ∀ t x, t ≠ "Post" →
      f.Mentions true "@prisma/client" (.model t) x → d.imports.Brings (.model t) x := by
  have hnames : ¬unnamed.NamesRelations .all := by decide +kernel
  obtain ⟨-, hrelations, himports⟩ := relations_registered_iff true unnamed .all
  obtain ⟨d, hd⟩ := Draft.exists_ofClass "@prisma/client" ⟨"/out"⟩ (unnamed.classOf true .all)
  exact ⟨d, hd, fun h => hnames (hrelations.1 h), fun h => hnames ((himports _ _ d hd).1 h)⟩

/-- The code of a class names another class that is not among its relations and that its draft does not import. -/
theorem relations_not_registered :
    (¬∀ (m : Model) (sel : Selection) (t : String),
      t ∈ (m.classOf true sel).relations.toList ↔ m.Refers sel t) ∧
    (unnamed.classOf true .all).relations.toList = [] ∧
    (unnamed.classOf true .all).properties.map Property.render =
      ["  @ApiProperty(\x7b type: Number \x7d)\n  id: number = undefined;",
        "  @ApiProperty(\x7b type: () => User \x7d)\n  author: User = undefined;"] ∧
    ∃ d, Draft.ofClass (.known "@prisma/client") ⟨"/out"⟩ (unnamed.classOf true .all) = .ok d ∧
      d.imports.toList.map Import.origin = [.module "@nestjs/swagger"] := by
  refine ⟨fun h => ?_, by decide +kernel, by decide +kernel, _, rfl, by decide +kernel⟩
  have hrefers : unnamed.Refers .all "User" := ⟨by decide, _, .tail _ (.head _), rfl⟩
  exact absurd ((h unnamed .all "User").2 hrefers) (by decide +kernel)

end SchemaClasses
