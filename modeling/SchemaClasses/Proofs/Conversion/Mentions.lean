import SchemaClasses.Conversion.Property
import SchemaClasses.Layout.Draft
import SchemaClasses.Proofs.TypeScript.ObjectLiterals

/-!
# Symbols that a property mentions

The property of a field mentions classes and enums by their names: in its type, in the object literal of its decorator
and in the expression that it starts with (`Field.Mentions`). What the object literal holds under another key than
`isArray` is about the type of the field (`Field.get?_parameters`). Where just the fields of kind `object` have a
relation name, all these places name the type of the field (`mentions_iff`).
-/

namespace SchemaClasses

open TypeScript

/-! ## Mentions -/

/-- The symbols that the code of the property of a field needs, each with the origin that has it. -/
inductive Field.Mentions (swagger : Bool) (client : String) (f : Field) : Origin → String → Prop
  /-- The type of the property is another class. -/
  | relation {t : String} (h : Shape.of f = .relation t) : Mentions swagger client f (.model t) (Text.capitalize t)
  /-- A decorator gets a function that returns a class. -/
  | thunk {t : String} {d : Decorator} {o : ObjectLiteral} (hd : d ∈ (f.toProperty swagger).decorators)
      (ho : o ∈ d.arguments) (h : o.get? "type" = some (.thunk t)) :
      Mentions swagger client f (.model t) (Text.capitalize t)
  /-- The type of the property is an enum. -/
  | enum {e : String} (h : Shape.of f = .enum e) : Mentions swagger client f (.module client) e
  /-- A decorator gets an enum. -/
  | entry {e : String} {d : Decorator} {o : ObjectLiteral} (hd : d ∈ (f.toProperty swagger).decorators)
      (ho : o ∈ d.arguments) (h : o.get? "enum" = some (.code e)) : Mentions swagger client f (.module client) e
  /-- The property starts with a member of an enum. -/
  | default {e : String} {l : Literal} (hk : f.kind = .enum) (hl : f.default = some (.literal l))
      (h : (f.toProperty swagger).initializer = some (e ++ "." ++ l.text)) :
      Mentions swagger client f (.module client) e
  /-- The enum of the property is registered behind the class. -/
  | registration {e : String} (h : Shape.of f = .enum e) :
      Mentions swagger client f (.module graphqlModule) registerEnum
  | decorator {d : Decorator} (hd : d ∈ (f.toProperty swagger).decorators) :
      Mentions swagger client f (.module d.module) d.name

/-- No key of what a decorator says about a type repeats. -/
theorem Shape.nodup_typeEntries (s : Shape) : (s.typeEntries.map Prod.fst).Nodup := by
  cases s <;> simp [typeEntries]

namespace Field

variable {f : Field} {swagger : Bool} {client : String}

/-- A field refers to a class if it has a relation name, and only then is of kind `object`. -/
def Consistent (f : Field) : Prop := f.hasRelation = true ↔ f.kind = .object

/-- A field refers to the class of its type if it has a relation name or is of kind `object`. -/
theorem shape_relation_iff {t : String} :
    Shape.of f = .relation t ↔ (f.hasRelation = true ∨ f.kind = .object) ∧ f.typeName = t := by
  unfold Shape.of
  cases hrel : f.hasRelation with
  | true =>
    rw [if_pos rfl]
    simp
  | false =>
    rw [if_neg Bool.false_ne_true]
    cases hk : f.kind with
    | object => simp
    | enum => exact iff_of_false Shape.noConfusion (by simp)
    | unsupported => exact iff_of_false Shape.noConfusion (by simp)
    | scalar =>
      refine iff_of_false ?_ (by simp)
      dsimp only
      split <;> exact Shape.noConfusion

theorem shape_eq_relation_iff (hf : f.Consistent) {t : String} :
    Shape.of f = .relation t ↔ f.hasRelation = true ∧ f.typeName = t := by
  rw [shape_relation_iff, or_iff_left_of_imp hf.2]

theorem shape_eq_enum_iff (hf : f.Consistent) {e : String} :
    Shape.of f = .enum e ↔ f.kind = .enum ∧ f.typeName = e := by
  unfold Shape.of
  cases hrel : f.hasRelation with
  | true =>
    rw [if_pos rfl]
    refine iff_of_false Shape.noConfusion fun h => ?_
    rw [hf.1 hrel] at h
    cases h.1
  | false =>
    rw [if_neg Bool.false_ne_true]
    cases hk : f.kind with
    | object => exact iff_of_false Shape.noConfusion fun h => by cases h.1
    | enum => simp
    | unsupported => exact iff_of_false Shape.noConfusion fun h => by cases h.1
    | scalar =>
      refine iff_of_false ?_ fun h => by cases h.1
      dsimp only
      split <;> exact Shape.noConfusion

/-- The decorator of a property documents the field. -/
theorem mem_decorators_iff {d : Decorator} :
    d ∈ (f.toProperty swagger).decorators ↔ swagger = true ∧ d = f.documentation := by
  unfold toProperty
  cases swagger <;> simp

/-- The object literal that the decorator of a field is called on. -/
def parameters (f : Field) : ObjectLiteral :=
  .ofList ((Shape.of f).typeEntries ++ if f.isList then [("isArray", .flag true)] else [])

/-- What is said of a list hides nothing of what is said of its elements. -/
theorem get?_parameters {k : String} (hk : k ≠ "isArray") :
    f.parameters.get? k = (Shape.of f).typeEntries.lookup k := by
  have hlist : (if f.isList then [("isArray", Expression.flag true)] else []).reverse.lookup k = none := by
    cases f.isList with
    | true => rw [if_pos rfl, List.reverse_singleton, List.lookup_cons, beq_false_of_ne hk]; rfl
    | false => rfl
  have hnodup : ((Shape.of f).typeEntries.reverse.map Prod.fst).Nodup :=
    (((List.reverse_perm _).map Prod.fst).nodup_iff).2 (Shape.of f).nodup_typeEntries
  unfold parameters
  rw [ObjectLiteral.get?_ofList, List.reverse_append, List.lookup_append, hlist, Option.none_or]
  exact OrderedMap.lookup_perm (List.reverse_perm _) hnodup k

/-- What a decorator gets under a key but `isArray` is about the type of the field. -/
theorem mem_typeEntries_of_get? {o : ObjectLiteral} {k : String} {x : Expression} (hk : k ≠ "isArray")
    (ho : o ∈ f.documentation.arguments) (h : o.get? k = some x) : (k, x) ∈ (Shape.of f).typeEntries := by
  obtain rfl := List.mem_singleton.1 ho
  exact mem_of_lookup ((get?_parameters hk).symm.trans h)

/-- A class that a decorator returns is the class that the field refers to. -/
theorem shape_of_thunk {o : ObjectLiteral} {t : String} (ho : o ∈ f.documentation.arguments)
    (h : o.get? "type" = some (.thunk t)) : Shape.of f = .relation t := by
  have hmem := mem_typeEntries_of_get? (by decide) ho h
  cases hs : Shape.of f with
  | scalar s => simp [hs, Shape.typeEntries] at hmem
  | relation u => simpa [hs, Shape.typeEntries, eq_comm] using hmem
  | enum e => simp [hs, Shape.typeEntries] at hmem
  | other u => simp [hs, Shape.typeEntries] at hmem

/-- An enum that a decorator gets is the type of the field. -/
theorem shape_of_entry {o : ObjectLiteral} {e : String} (ho : o ∈ f.documentation.arguments)
    (h : o.get? "enum" = some (.code e)) : Shape.of f = .enum e := by
  have hmem := mem_typeEntries_of_get? (by decide) ho h
  cases hs : Shape.of f with
  | scalar s => simp [hs, Shape.typeEntries] at hmem
  | relation u => simp [hs, Shape.typeEntries] at hmem
  | enum u => simpa [hs, Shape.typeEntries, eq_comm] using hmem
  | other u => simp [hs, Shape.typeEntries] at hmem

/-- An enum that the property starts with a member of is the type of the field. -/
theorem typeName_of_initializer (hf : f.Consistent) {e : String} {l : Literal} (hk : f.kind = .enum)
    (hl : f.default = some (.literal l)) (h : f.initializer = some (e ++ "." ++ l.text)) : f.typeName = e := by
  have hshape : Shape.of f = .enum f.typeName := (shape_eq_enum_iff hf).2 ⟨hk, rfl⟩
  have hinit : f.initializer = some (f.typeName ++ "." ++ l.text) := by
    unfold initializer
    rw [hl, hshape]
    rfl
  rw [hinit, Option.some.injEq, String.append_assoc, String.append_assoc, String.append_left_inj] at h
  exact h

/-- A property mentions the type of its field and its decorators. -/
theorem mentions_iff (hf : f.Consistent) {o : Origin} {x : String} : f.Mentions swagger client o x ↔
    (f.hasRelation = true ∧ o = .model f.typeName ∧ x = Text.capitalize f.typeName) ∨
    (f.kind = .enum ∧ (o = .module client ∧ x = f.typeName ∨ o = .module graphqlModule ∧ x = registerEnum)) ∨
    ∃ d ∈ (f.toProperty swagger).decorators, o = .module d.module ∧ x = d.name := by
  have hrelation : ∀ {t}, Shape.of f = .relation t → f.hasRelation = true ∧ f.typeName = t :=
    (shape_eq_relation_iff hf).1
  have henum : ∀ {e}, Shape.of f = .enum e → f.kind = .enum ∧ f.typeName = e := (shape_eq_enum_iff hf).1
  constructor
  · intro h
    cases h with
    | relation h =>
      obtain ⟨hrel, rfl⟩ := hrelation h
      exact Or.inl ⟨hrel, rfl, rfl⟩
    | thunk hd ho h =>
      obtain ⟨-, rfl⟩ := mem_decorators_iff.1 hd
      obtain ⟨hrel, rfl⟩ := hrelation (shape_of_thunk ho h)
      exact Or.inl ⟨hrel, rfl, rfl⟩
    | enum h =>
      obtain ⟨hk, rfl⟩ := henum h
      exact Or.inr (Or.inl ⟨hk, Or.inl ⟨rfl, rfl⟩⟩)
    | entry hd ho h =>
      obtain ⟨-, rfl⟩ := mem_decorators_iff.1 hd
      obtain ⟨hk, rfl⟩ := henum (shape_of_entry ho h)
      exact Or.inr (Or.inl ⟨hk, Or.inl ⟨rfl, rfl⟩⟩)
    | default hk hl h =>
      obtain rfl := typeName_of_initializer hf hk hl h
      exact Or.inr (Or.inl ⟨hk, Or.inl ⟨rfl, rfl⟩⟩)
    | registration h => exact Or.inr (Or.inl ⟨(henum h).1, Or.inr ⟨rfl, rfl⟩⟩)
    | decorator hd => exact Or.inr (Or.inr ⟨_, hd, rfl, rfl⟩)
  · rintro (⟨hrel, rfl, rfl⟩ | ⟨hk, ⟨rfl, rfl⟩ | ⟨rfl, rfl⟩⟩ | ⟨d, hd, rfl, rfl⟩)
    · exact .relation ((shape_eq_relation_iff hf).2 ⟨hrel, rfl⟩)
    · exact .enum ((shape_eq_enum_iff hf).2 ⟨hk, rfl⟩)
    · exact .registration ((shape_eq_enum_iff hf).2 ⟨hk, rfl⟩)
    · exact .decorator hd

end Field
end SchemaClasses
