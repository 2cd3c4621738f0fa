import SchemaClasses.Proofs.Conversion.Classes
import SchemaClasses.Proofs.Conversion.Mentions
import SchemaClasses.Proofs.Layout.Drafts

/-!
# Imports and what a class mentions

A class made of a model refers to the enums of the fields that it takes and to no others (`mem_enums_iff`), as it does
to other classes. So it needs just the symbols that its properties mention (`needs_classOf_iff`), but its own name. Its
draft imports these and no more, and it imports the function that registers enums just where the code of the class
registers one (`needs_registerEnum_iff`).
-/

namespace SchemaClasses

open TypeScript

/-! ## Registrations -/

/-- The code of a class has the statement that registers one of its enums. -/
def TypeScript.ClassDecl.Registers (c : ClassDecl) (e : String) : Prop :=
  e ∈ c.enums.toList ∧ ∃ before after,
    c.render? = some (before ++ ("\nregisterEnumType(" ++ e ++ ", \x7b\n  name: '" ++ e ++ "',\n\x7d);\n") ++ after)

/-- The code of a class with properties ends with the statements that register its enums. -/
theorem TypeScript.ClassDecl.render?_registrations {c : ClassDecl} (h : c.properties ≠ []) :
    ∃ head, c.render? = some (head ++ String.join (c.enums.toList.map ClassDecl.registration)) := by
  unfold ClassDecl.render?
  rw [if_neg fun hempty => h (List.isEmpty_iff.1 hempty)]
  exact ⟨_, rfl⟩

/-- A class with properties registers each of its enums. -/
theorem TypeScript.ClassDecl.registers_iff {c : ClassDecl} {e : String} :
    c.Registers e ↔ e ∈ c.enums.toList ∧ c.properties ≠ [] := by
  refine and_congr_right fun he => ?_
  constructor
  · rintro ⟨before, after, h⟩ hnil
    rw [ClassDecl.render?, hnil, if_pos List.isEmpty_nil] at h
    cases h
  · intro hne
    obtain ⟨head, hhead⟩ := ClassDecl.render?_registrations hne
    obtain ⟨es, fs, hsplit⟩ := List.append_of_mem he
    rw [hsplit, List.map_append, List.map_cons, String.join_append, String.join_cons] at hhead
    refine ⟨head ++ String.join (es.map ClassDecl.registration), String.join (fs.map ClassDecl.registration), ?_⟩
    show c.render? = some (_ ++ ClassDecl.registration e ++ _)
    rw [hhead]
    simp only [String.append_assoc]

/-! ## What a class needs -/

section Class

variable {swagger : Bool} {m : Model} {sel : Selection} {client : String}

/-- A class refers to the enums of its fields. -/
theorem mem_enums_iff (hm : ∀ f ∈ m.fields, f.Consistent) {e : String} :
    e ∈ (m.classOf swagger sel).enums.toList ↔ ∃ f ∈ m.selected sel, f.kind = .enum ∧ f.typeName = e := by
  rw [mem_enums_classOf_iff]
  constructor
  · rintro ⟨hsel, f, hf, hk, rfl⟩
    refine ⟨f, mem_selected_iff.2 ⟨hf, ?_⟩, hk, rfl⟩
    cases sel with
    | all => rfl
    | relations => exact absurd rfl hsel
    | others =>
      -- An enum has no relation name.
      have hrel : ¬f.hasRelation = true := fun h => by
        have hobject := (hm f hf).1 h
        rw [hk] at hobject
        cases hobject
      simp [Selection.takes, hrel]
  · rintro ⟨f, hf, hk, rfl⟩
    obtain ⟨hmem, htakes⟩ := mem_selected_iff.1 hf
    refine ⟨?_, f, hmem, hk, rfl⟩
    rintro rfl
    have hobject := (hm f hmem).1 htakes
    rw [hk] at hobject
    cases hobject

/-- A class needs the symbols that its properties mention, but itself. -/
theorem needs_classOf_iff (hm : ∀ f ∈ m.fields, f.Consistent) {o : Origin} {x : String} :
    (m.classOf swagger sel).Needs client o x ↔
      o ≠ .model (m.classOf swagger sel).name ∧ ∃ f ∈ m.selected sel, f.Mentions swagger client o x := by
  have hmem : ∀ f ∈ m.selected sel, f.Consistent := fun f hf => hm f (mem_selected_iff.1 hf).1
  constructor
  · intro h
    cases h with
    | relation ht =>
      obtain ⟨hne, f, hf, hrel, rfl⟩ := mem_relations_classOf_iff.1 ht
      exact ⟨fun h => hne (Origin.model.inj h), f, hf, (Field.mentions_iff (hmem f hf)).2 (Or.inl ⟨hrel, rfl, rfl⟩)⟩
    | enum he =>
      obtain ⟨f, hf, hk, rfl⟩ := (mem_enums_iff hm).1 he
      refine ⟨Origin.noConfusion, f, hf, ?_⟩
      exact (Field.mentions_iff (hmem f hf)).2 (Or.inr (Or.inl ⟨hk, Or.inl ⟨rfl, rfl⟩⟩))
    | registration he =>
      obtain ⟨f, hf, hk, rfl⟩ := (mem_enums_iff hm).1 he
      refine ⟨Origin.noConfusion, f, hf, ?_⟩
      exact (Field.mentions_iff (hmem f hf)).2 (Or.inr (Or.inl ⟨hk, Or.inr ⟨rfl, rfl⟩⟩))
    | decorator hd =>
      obtain ⟨f, hf, hd⟩ := mem_usedDecorators_classOf_iff.1 hd
      exact ⟨Origin.noConfusion, f, hf, .decorator hd⟩
  · rintro ⟨hne, f, hf, h⟩
    rcases (Field.mentions_iff (hmem f hf)).1 h with ⟨hrel, rfl, rfl⟩ | ⟨hk, h⟩ | ⟨d, hd, rfl, rfl⟩
    · exact .relation (mem_relations_classOf_iff.2 ⟨fun he => hne (by rw [he]), f, hf, hrel, rfl⟩)
    · have he : f.typeName ∈ (m.classOf swagger sel).enums.toList := (mem_enums_iff hm).2 ⟨f, hf, hk, rfl⟩
      rcases h with ⟨rfl, rfl⟩ | ⟨rfl, rfl⟩
      · exact .enum he
      · exact .registration he
    · exact .decorator (mem_usedDecorators_classOf_iff.2 ⟨f, hf, hd⟩)

/-- A class needs the function that registers enums just where its code registers one. -/
theorem needs_registerEnum_iff (hm : ∀ f ∈ m.fields, f.Consistent) :
    (m.classOf swagger sel).Needs client (.module graphqlModule) registerEnum ↔
      ∃ e, (m.classOf swagger sel).Registers e := by
  constructor
  · intro h
    obtain ⟨-, f, hf, hmentions⟩ := (needs_classOf_iff hm).1 h
    rcases (Field.mentions_iff (hm f (mem_selected_iff.1 hf).1)).1 hmentions with ⟨-, ho, -⟩ | ⟨hk, -⟩ | ⟨d, hd, ho, -⟩
    · cases ho
    · refine ⟨f.typeName, ClassDecl.registers_iff.2 ⟨(mem_enums_iff hm).2 ⟨f, hf, hk, rfl⟩, ?_⟩⟩
      rw [properties_classOf]
      exact fun hnil => List.ne_nil_of_mem hf (List.map_eq_nil_iff.1 hnil)
    · -- Decorators come from another module.
      have hmodule : graphqlModule ≠ swaggerModule := by decide
      rw [(Field.mem_decorators_iff.1 hd).2, Origin.module.injEq] at ho
      exact absurd ho hmodule
  · rintro ⟨e, he⟩
    exact .registration he.1

end Class

/-! ## Drafts -/

/-- A draft imports nothing from the file of its own class. -/
theorem Draft.origin_ne_own {client : Client} {directory : Path} {d : Draft} {swagger : Bool} {m : Model}
    {sel : Selection} (h : Draft.ofClass client directory (m.classOf swagger sel) = .ok d) {i : Import Origin}
    (hi : i ∈ d.imports.toList) : i.origin ≠ .model (m.classOf swagger sel).name := by
  obtain ⟨enums, he, rfl⟩ := Draft.ofClass_eq_ok_iff.1 h
  obtain ⟨j, hj, horigin⟩ := Imports.exists_origin_of_mem_ofList hi
  rw [← horigin]
  rcases List.mem_append.1 hj with hj | hj
  · rcases List.mem_append.1 hj with hj | hj
    · obtain ⟨t, ht, rfl⟩ := List.mem_map.1 hj
      exact fun hown => (mem_relations_classOf_iff.1 ht).1 (Origin.model.inj hown)
    · rcases Draft.enumImports_eq_ok_iff.1 he with ⟨-, rfl⟩ | ⟨-, -, rfl⟩
      · cases hj
      · rcases List.mem_append.1 hj with hj | hj
        · obtain ⟨e, -, rfl⟩ := List.mem_map.1 hj
          exact Origin.noConfusion
        · obtain rfl := List.mem_singleton.1 hj
          exact Origin.noConfusion
  · obtain ⟨d, -, rfl⟩ := List.mem_map.1 hj
    exact Origin.noConfusion

/-- A class is drafted where the client module is known. -/
theorem Draft.exists_ofClass (client : String) (directory : Path) (c : ClassDecl) :
    ∃ d, Draft.ofClass (.known client) directory c = .ok d := by
  by_cases h : c.enums.toList = []
  · exact ⟨_, Draft.ofClass_eq_ok_iff.2 ⟨_, Draft.enumImports_eq_ok_iff.2 (Or.inl ⟨h, rfl⟩), rfl⟩⟩
  · exact ⟨_, Draft.ofClass_eq_ok_iff.2 ⟨_, Draft.enumImports_eq_ok_iff.2 (Or.inr ⟨h, ⟨client, rfl⟩, rfl⟩), rfl⟩⟩

/-- **Imports cover what a class mentions, and nothing else**: each class of a schema has a draft, which imports just
the symbols that the properties of the class mention, but the class itself. It imports each enum that the class
registers, and it imports the function that registers enums just where the code of the class registers one. -/
theorem imports_cover {s : Schema} (hs : ∀ m ∈ s.models, ∀ f ∈ m.fields, f.Consistent) (swagger split : Bool)
    (client : String) (directory : Path) :
    ∀ c ∈ s.toClasses swagger split, ∃ m ∈ s.models, ∃ sel ∈ Selection.used split,
      c.name = m.name ++ sel.ending ∧ c.properties = (m.selected sel).map (Field.toProperty swagger) ∧
      ∃ d, Draft.ofClass (.known client) directory c = .ok d ∧
        (∀ o x, d.imports.Brings o x ↔
          o ≠ .model c.name ∧ ∃ f ∈ m.selected sel, f.Mentions swagger client o x) ∧
        (∀ e, c.Registers e → d.imports.Brings (.module client) e) ∧
        (d.imports.Brings (.module "@nestjs/graphql") "registerEnumType" ↔ ∃ e, c.Registers e) ∧
        ∀ i ∈ d.imports.toList, i.origin ≠ .model c.name := by
  intro c hc
  obtain ⟨m, hm, sel, hsel, rfl⟩ := mem_toClasses_iff.1 hc
  obtain ⟨d, hd⟩ := Draft.exists_ofClass client directory (m.classOf swagger sel)
  refine ⟨m, hm, sel, hsel, rfl, rfl, d, hd, fun o x => ?_, fun e he => ?_, ?_, fun i hi => Draft.origin_ne_own hd hi⟩
  · rw [Draft.brings_ofClass hd]
    exact needs_classOf_iff (hs m hm)
  · exact (Draft.brings_ofClass hd).2 (.enum he.1)
  · rw [Draft.brings_ofClass hd]
    exact needs_registerEnum_iff (hs m hm)

/-- A model with a reference to itself and to another model, and with an enum. -/
def member : Model :=
  ⟨"Member", [.reference "friend" "Member", .reference "team" "Team", .choice "role" "Role" "ADMIN"]⟩

/-- The code of its class, up to the registration of the enum. -/
def memberCode : String :=
  "export class Member \x7b\n" ++
    "  @ApiProperty(\x7b type: () => Member \x7d)\n  friend: Member = undefined;\n\n" ++
    "  @ApiProperty(\x7b type: () => Team \x7d)\n  team: Team = undefined;\n\n" ++
    "  @ApiProperty(\x7b enum: Role, enumName: 'Role' \x7d)\n  role: Role = Role.ADMIN;\n\x7d\n"

theorem imports_cover_member : ∃ d,
    Draft.ofClass (.known "@prisma/client") ⟨"/out"⟩ (member.classOf true .all) = .ok d ∧
    (∀ o x, d.imports.Brings o x ↔
      o ≠ .model "Member" ∧ ∃ f ∈ member.fields, f.Mentions true "@prisma/client" o x) ∧
    (member.classOf true .all).render? =
      some (memberCode ++ "\nregisterEnumType(Role, \x7b\n  name: 'Role',\n\x7d);\n") ∧
    (member.classOf true .all).Registers "Role" ∧
    d.imports.Brings (.module "@prisma/client") "Role" ∧
    d.imports.Brings (.module "@nestjs/graphql") "registerEnumType" ∧
    (∀ i ∈ d.imports.toList, i.origin ≠ .model "Member") ∧
    (d.imports.toList.map fun i => (i.origin, i.names.toList)) =
      [(.model "Team", ["Team"]), (.module "@prisma/client", ["Role"]),
        (.module "@nestjs/graphql", ["registerEnumType"]), (.module "@nestjs/swagger", ["ApiProperty"])] := by
  have hs : ∀ m ∈ [member], ∀ f ∈ m.fields, f.Consistent := by
    unfold Field.Consistent
    decide
  have hcode : (member.classOf true .all).render? =
      some (memberCode ++ "\nregisterEnumType(Role, \x7b\n  name: 'Role',\n\x7d);\n") := by decide +kernel
  have hrole : (member.classOf true .all).Registers "Role" :=
    ⟨by decide +kernel, memberCode, "", by rw [hcode, String.append_empty]; rfl⟩
  obtain ⟨m, hm, sel, hsel, -, -, d, hd, hbrings, henums, hregister, hown⟩ :=
    imports_cover (s := ⟨[member], ["Role"]⟩) hs true false "@prisma/client" ⟨"/out"⟩ _ List.mem_cons_self
  obtain rfl := List.mem_singleton.1 hm
  obtain rfl := List.mem_singleton.1 hsel
  refine ⟨d, hd, hbrings, hcode, hrole, henums "Role" hrole, hregister.2 ⟨"Role", hrole⟩, hown, ?_⟩
  cases hd
  decide +kernel

end SchemaClasses
