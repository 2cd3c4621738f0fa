import SchemaClasses.Proofs.Conversion.Initializers
import SchemaClasses.Proofs.Conversion.Mentions

/-!
# Properties agree with their documentation

What a field holds is told by its relation name, its kind and the name of its type, in this order (`Field.Holds`), and
this is its shape (`Field.holds_iff`). The type of its property is that of one element, with brackets for a list
(`Field.type_eq_list_iff`); the object literal of its decorator says the same of the element (`Shape.describes_of_get?`)
and of the list (`Field.get?_parameters_isArray`). In the code of a property the mark of an optional one stands right
behind the name (`TypeScript.Property.marked_iff`). So the property and its decorator say the same of every field
(`Field.declared_as_documented`).
-/

namespace SchemaClasses

open TypeScript

/-! ## Shapes -/

namespace Scalar

theorem ofName?_name (s : Scalar) : ofName? s.name = some s := by
  cases s <;> decide

theorem ofName?_eq_some_iff {name : String} {s : Scalar} : ofName? name = some s ↔ s.name = name := by
  constructor
  · intro h
    have hname := List.find?_some h
    exact beq_iff_eq.1 hname
  · rintro rfl
    exact s.ofName?_name

theorem ofName?_eq_none_iff {name : String} : ofName? name = none ↔ ∀ s : Scalar, s.name ≠ name := by
  rw [Option.eq_none_iff_forall_ne_some]
  exact forall_congr' fun s => not_congr ofName?_eq_some_iff

end Scalar

/-- What a field holds. A relation name counts before the kind. -/
inductive Field.Holds (f : Field) : Shape → Prop
  | named (hrelation : f.relationName ≠ none) : f.Holds (.relation f.typeName)
  | object (hrelation : f.relationName = none) (hkind : f.kind = .object) : f.Holds (.relation f.typeName)
  | enum (hrelation : f.relationName = none) (hkind : f.kind = .enum) : f.Holds (.enum f.typeName)
  | scalar {s : Scalar} (hrelation : f.relationName = none) (hkind : f.kind = .scalar) (hname : s.name = f.typeName) :
    f.Holds (.scalar s)
  /-- A scalar of an unknown name. -/
  | unknown (hrelation : f.relationName = none) (hkind : f.kind = .scalar) (hname : ∀ s : Scalar, s.name ≠ f.typeName) :
    f.Holds (.other f.typeName)
  | unsupported (hrelation : f.relationName = none) (hkind : f.kind = .unsupported) : f.Holds (.other f.typeName)

namespace Field

variable {f : Field} {s : Shape}

/-- With a relation name the kind does not count. -/
theorem shape_of_named (h : f.relationName ≠ none) : Shape.of f = .relation f.typeName :=
  shape_relation_iff.2 ⟨Or.inl (Option.isSome_iff_ne_none.2 h), rfl⟩

theorem hasRelation_of_unnamed (h : f.relationName = none) : f.hasRelation = false := by
  rw [hasRelation, h]
  rfl

theorem Holds.shape_eq (h : f.Holds s) : Shape.of f = s := by
  cases h with
  | named hrelation => exact shape_of_named hrelation
  | object _ hkind => exact shape_relation_iff.2 ⟨Or.inr hkind, rfl⟩
  | enum hrelation hkind =>
    rw [Shape.of, hasRelation_of_unnamed hrelation, hkind]
    rfl
  | scalar hrelation hkind hname =>
    rw [Shape.of, hasRelation_of_unnamed hrelation, hkind, Scalar.ofName?_eq_some_iff.2 hname]
    rfl
  | unknown hrelation hkind hname =>
    rw [Shape.of, hasRelation_of_unnamed hrelation, hkind, Scalar.ofName?_eq_none_iff.2 hname]
    rfl
  | unsupported hrelation hkind =>
    rw [Shape.of, hasRelation_of_unnamed hrelation, hkind]
    rfl

/-- Every field holds something. -/
theorem exists_holds (f : Field) : ∃ s, f.Holds s := by
  by_cases hrelation : f.relationName = none
  · cases hkind : f.kind with
    | scalar =>
      cases hname : Scalar.ofName? f.typeName with
      | some s => exact ⟨_, .scalar hrelation hkind (Scalar.ofName?_eq_some_iff.1 hname)⟩
      | none => exact ⟨_, .unknown hrelation hkind (Scalar.ofName?_eq_none_iff.1 hname)⟩
    | object => exact ⟨_, .object hrelation hkind⟩
    | enum => exact ⟨_, .enum hrelation hkind⟩
    | unsupported => exact ⟨_, .unsupported hrelation hkind⟩
  · exact ⟨_, .named hrelation⟩

/-- What a field holds is its shape. -/
theorem holds_iff : f.Holds s ↔ Shape.of f = s := by
  constructor
  · exact Holds.shape_eq
  · rintro rfl
    obtain ⟨s, hs⟩ := f.exists_holds
    exact hs.shape_eq ▸ hs

end Field

/-! ## The code of a property -/

namespace TypeScript.Property

variable {p : Property} {d : Decorator}

/-- The code of a property with one decorator. -/
theorem render_of_single (hd : p.decorators = [d]) :
    p.render = "  " ++ d.render ++ "\n" ++ "  " ++ p.name ++ (if p.isOptional then "?" else "") ++ ": " ++ p.type
      ++ " = " ++ p.initializer.getD "undefined" ++ ";" := by
  unfold render
  rw [hd, List.map_singleton, String.join_cons, String.join_nil, String.append_empty]

/-- The mark of an optional property stands right behind its name. -/
theorem marked_iff (hd : p.decorators = [d]) :
    (∃ rest, p.render = "  " ++ d.render ++ "\n" ++ "  " ++ p.name ++ "?" ++ rest) ↔ p.isOptional = true := by
  rw [render_of_single hd]
  constructor
  · rintro ⟨rest, h⟩
    cases hmark : p.isOptional with
    | true => rfl
    | false =>
      -- A colon stands where the mark would be.
      simp only [hmark, String.append_assoc, String.append_right_inj] at h
      have hhead := congrArg (fun code => code.toList.head?) h
      simp only [String.toList_append] at hhead
      cases hhead
  · intro h
    rw [if_pos h]
    simp only [String.append_assoc]
    exact ⟨_, rfl⟩

end TypeScript.Property

/-! ## The parameters of a decorator -/

/-- Each scalar with its type and the constructor that stands for it. -/
def Scalar.declarations : List (Scalar × String × String) :=
  [(.bigInt, "BigInt", "BigInt"), (.boolean, "boolean", "Boolean"), (.bytes, "Buffer", "Buffer"),
    (.dateTime, "Date", "Date"), (.decimal, "number", "Number"), (.float, "number", "Number"),
    (.int, "number", "Number"), (.json, "object", "Object"), (.string, "string", "String")]

theorem Scalar.mem_declarations (s : Scalar) : (s, s.type, s.constructor) ∈ declarations := by
  cases s <;> decide

/-- What an object literal says about the type of one element, if the element is of a shape. -/
inductive Describes (o : ObjectLiteral) (element : String) : Shape → Prop
  | scalar {s : Scalar} {constructor : String} (hdeclared : (s, element, constructor) ∈ Scalar.declarations)
      (hcapital : constructor = Text.capitalize element) (htype : o.get? "type" = some (.code constructor))
      (henum : o.get? "enum" = none) (hname : o.get? "enumName" = none) : Describes o element (.scalar s)
  | relation {model : String} (htype : o.get? "type" = some (.thunk element)) (henum : o.get? "enum" = none)
      (hname : o.get? "enumName" = none) : Describes o element (.relation model)
  | enum {name : String} {x : Expression} {body : List Char} (htype : o.get? "type" = none)
      (henum : o.get? "enum" = some (.code element)) (hname : o.get? "enumName" = some x)
      (hliteral : x.render.toList = '\'' :: (body ++ ['\''])) (hbody : Text.Quoted.Encodes body element.toList) :
      Describes o element (.enum name)
  | other {name : String} (htype : o.get? "type" = none) (henum : o.get? "enum" = none)
      (hname : o.get? "enumName" = none) : Describes o element (.other name)

namespace Shape

theorem keys_typeEntries (s : Shape) : s.typeEntries.map Prod.fst ⊆ ["type", "enum", "enumName"] := by
  cases s <;> simp [typeEntries]

/-- An object literal with the entries of a shape says what the shape is. -/
theorem describes_of_get? {o : ObjectLiteral} {s : Shape}
    (h : ∀ k ∈ ["type", "enum", "enumName"], o.get? k = s.typeEntries.lookup k) : Describes o s.type s := by
  have htype := h "type" (by decide)
  have henum := h "enum" (by decide)
  have hname := h "enumName" (by decide)
  cases s with
  | scalar s => exact .scalar s.mem_declarations rfl htype henum hname
  | relation model => exact .relation htype henum hname
  | enum name => exact .enum htype henum hname (Text.toList_quoted name) (Text.Quoted.encodes_encode _)
  | other name => exact .other htype henum hname

end Shape

theorem listType_ne (type : String) : listType type ≠ type := by
  unfold listType
  rw [Ne, String.append_eq_left_iff]
  decide

namespace Field

variable {f : Field}

theorem get?_parameters_isArray : f.parameters.get? "isArray" = if f.isList then some (.flag true) else none := by
  unfold parameters
  rw [ObjectLiteral.get?_ofList, List.reverse_append, List.lookup_append]
  cases f.isList with
  | true => rfl
  | false => cases Shape.of f <;> rfl

theorem mem_keys_parameters {k : String} (h : k ∈ f.parameters.keys) :
    k ∈ ["type", "enum", "enumName", "isArray"] := by
  have hmem := ((ObjectLiteral.follows_ofList _).mem_iff k).1 h
  rw [List.map_append, List.mem_append] at hmem
  rcases hmem with hmem | hmem
  · exact List.mem_append_left ["isArray"] ((Shape.of f).keys_typeEntries hmem)
  · split at hmem
    · exact List.mem_append_right ["type", "enum", "enumName"] hmem
    · cases hmem

/-- The type of a property is that of one element just where the field is no list. -/
theorem type_eq_single_iff (f : Field) : f.type = (Shape.of f).type ↔ f.isList = false := by
  unfold Field.type
  cases f.isList with
  | true => exact iff_of_false (listType_ne _) nofun
  | false => exact iff_of_true rfl rfl

theorem type_eq_list_iff (f : Field) : f.type = (Shape.of f).type ++ "[]" ↔ f.isList = true := by
  unfold Field.type
  cases f.isList with
  | true => exact iff_of_true rfl rfl
  | false => exact iff_of_false (listType_ne _).symm nofun

/-- With a relation name the kind does not count for the property either. -/
theorem toProperty_of_named (h : f.relationName ≠ none) (swagger : Bool) (k : Kind) :
    ({ f with kind := k } : Field).toProperty swagger = f.toProperty swagger := by
  have hshape : Shape.of { f with kind := k } = Shape.of f :=
    (shape_of_named (f := { f with kind := k }) h).trans (shape_of_named h).symm
  simp only [toProperty, Field.type, documentation, initializer, hshape]

end Field

/-! ## Agreement -/

/-- A property with one decorator, called on one object literal, both of which say the same of a field of a shape. -/
structure TypeScript.Property.Documented (p : Property) (f : Field) (s : Shape) (d : Decorator) (o : ObjectLiteral) :
    Prop where
  decorators : p.decorators = [d]
  arguments : d.arguments = [o]
  code : p.render = "  " ++ d.render ++ "\n" ++ "  " ++ f.name ++ (if f.isRequired then "" else "?") ++ ": " ++ p.type
    ++ " = " ++ p.initializer.getD "undefined" ++ ";"
  name : d.name = "ApiProperty" ∨ d.name = "ApiPropertyOptional"
  optional : d.name = "ApiPropertyOptional" ↔ f.isRequired = false
  marked : (∃ rest, p.render = "  " ++ d.render ++ "\n" ++ "  " ++ f.name ++ "?" ++ rest) ↔ f.isRequired = false
  single : p.type = s.type ↔ f.isList = false
  list : p.type = s.type ++ "[]" ↔ f.isList = true
  isArray : o.get? "isArray" = some (.flag true) ↔ f.isList = true
  /-- The literal names the type of one element. -/
  describes : Describes o s.type s
  /-- The literal says nothing else. -/
  keys : ∀ k ∈ o.keys, k ∈ ["type", "enum", "enumName", "isArray"]
  /-- A property of an enum starts with a member of this enum. -/
  member : ∀ name l, s = .enum name → f.default = some (.literal l) → p.initializer = some (s.type ++ "." ++ l.text)
  /-- A property of a class starts with the literal itself. -/
  raw : ∀ model l, s = .relation model → f.default = some (.literal l) → p.initializer = some l.text

namespace Field

/-- The property of a field and its documentation say the same of the shape of the field. -/
theorem documented_toProperty (f : Field) :
    (f.toProperty true).Documented f (Shape.of f) f.documentation f.parameters where
  decorators := rfl
  arguments := rfl
  code := by
    have hmark : (if (f.toProperty true).isOptional then "?" else "") = if f.isRequired then "" else "?" := by
      unfold toProperty
      cases f.isRequired <;> rfl
    rw [Property.render_of_single rfl, hmark]
    rfl
  name := by
    unfold documentation
    cases f.isRequired with
    | true => exact Or.inl rfl
    | false => exact Or.inr rfl
  optional := by
    unfold documentation
    cases f.isRequired with
    | true => simp
    | false => simp
  marked := by
    rw [show f.name = (f.toProperty true).name from rfl, Property.marked_iff rfl]
    show (!f.isRequired) = true ↔ _
    rw [Bool.not_eq_true']
  single := f.type_eq_single_iff
  list := f.type_eq_list_iff
  isArray := by
    rw [get?_parameters_isArray]
    cases f.isList with
    | true => exact iff_of_true rfl rfl
    | false => exact iff_of_false nofun nofun
  describes := Shape.describes_of_get? fun k hk => get?_parameters fun h => absurd (h ▸ hk) (by decide)
  keys _ := mem_keys_parameters
  member name l hshape hdefault := by
    show f.initializer = _
    rw [initializer_of_literal hdefault, hshape]
    rfl
  raw model l hshape hdefault := by
    show f.initializer = _
    rw [initializer_of_literal hdefault, hshape]
    rfl

/-- **Properties and their documentation agree**: each field is of one shape, and its property has one decorator, called
on one object literal. The decorator is that of an optional property, and the property is marked as one, just where the
field is not required. The type of the property is the type of one element, with brackets just where the field is a
list, and just there the literal says so. Of the element the literal says what its shape is, by the name that the type
of the property has. A relation name overrules the kind in all of this. -/
theorem declared_as_documented (f : Field) :
    (∃ s, ∀ t, f.Holds t ↔ t = s) ∧
    (∀ s, f.Holds s → ∃ d o, (f.toProperty true).Documented f s d o) ∧
    (f.relationName ≠ none → f.Holds (.relation f.typeName) ∧
      ∀ k, ({ f with kind := k } : Field).toProperty true = f.toProperty true) := by
  refine ⟨⟨Shape.of f, fun t => ?_⟩, fun s hs => ?_, fun h => ⟨.named h, f.toProperty_of_named h true⟩⟩
  · rw [holds_iff, eq_comm]
  · obtain rfl := hs.shape_eq
    exact ⟨_, _, f.documented_toProperty⟩

/-- A list of members of an enum, which need not be given. -/
def roles : Field := ⟨"roles", .enum, "Team's", false, true, none, some (.literal (.string "LEAD"))⟩

/-- Under a relation name the same field refers to a class. -/
def namedRoles : Field := { roles with relationName := some "TeamRoles" }

/-- A list of numbers. -/
def scores : Field := ⟨"scores", .scalar, "Int", true, true, none, none⟩

theorem declared_as_documented_roles :
    roles.Holds (.enum "Team's") ∧
    (∃ d o, (roles.toProperty true).Documented roles (.enum "Team's") d o) ∧
    (roles.toProperty true).render =
      "  @ApiPropertyOptional(\x7b enum: Team's, enumName: 'Team\\'s', isArray: true \x7d)\n" ++
        "  roles?: Team's[] = Team's.LEAD;" ∧
    namedRoles.relationName ≠ none ∧
    (∃ d o, (namedRoles.toProperty true).Documented namedRoles (.relation "Team's") d o) ∧
    (∀ k, ({ namedRoles with kind := k } : Field).toProperty true = namedRoles.toProperty true) ∧
    (namedRoles.toProperty true).render =
      "  @ApiPropertyOptional(\x7b type: () => Team's, isArray: true \x7d)\n  roles?: Team's[] = LEAD;" ∧
    scores.Holds (.scalar .int) ∧
    (∃ d o, (scores.toProperty true).Documented scores (.scalar .int) d o ∧
      o.get? "type" = some (.code "Number")) ∧
    (scores.toProperty true).render =
      "  @ApiProperty(\x7b type: Number, isArray: true \x7d)\n  scores: number[] = undefined;" := by
  obtain ⟨-, henum, -⟩ := declared_as_documented roles
  obtain ⟨-, hrelation, hnamed⟩ := declared_as_documented namedRoles
  obtain ⟨-, hscalar, -⟩ := declared_as_documented scores
  have hroles : roles.Holds (.enum "Team's") := .enum rfl rfl
  have hname : namedRoles.relationName ≠ none := nofun
  obtain ⟨hholds, hkind⟩ := hnamed hname
  have hscores : scores.Holds (.scalar .int) := .scalar rfl rfl rfl
  obtain ⟨d, o, hdocumented⟩ := hscalar _ hscores
  have hnumber : ∀ e ∈ Scalar.declarations, e.1 = .int → e.2.2 = "Number" := by decide
  have htype : o.get? "type" = some (.code "Number") := by
    cases hdocumented.describes with
    | scalar hdeclared _ htype _ _ =>
      obtain rfl := hnumber _ hdeclared rfl
      exact htype
  exact ⟨hroles, henum _ hroles, by decide, hname, hrelation _ hholds, hkind, by decide, hscores,
    ⟨d, o, hdocumented, htype⟩, by decide⟩

end Field
end SchemaClasses
