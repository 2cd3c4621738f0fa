import SchemaClasses.Proofs.Layout.Drafts

/-!
# Faults of drafts

A class has a draft unless it has an enum while the client module is not known (`Draft.ofClass_eq`). A draft is placed
unless one of its origins has no specifier: the first such origin tells why (`Draft.placeImports_eq`). The origins of a
draft are the classes it refers to, in order, and then modules (`Draft.exists_keys_drafted`), so the first origin
without a specifier is the first class without a place.
-/

namespace SchemaClasses

open TypeScript Outcome

/-- Why a class has no draft: it has an enum, and the client module is not known. -/
def Client.fault? (client : Client) (c : ClassDecl) : Option GenerationError :=
  match client with
  | .known _ => none
  | .unknown reason => if c.enums.isEmpty then none else some (.clientUnknown reason)

theorem Client.fault?_eq_some_iff {client : Client} {c : ClassDecl} {e : GenerationError} :
    client.fault? c = some e ↔
      ∃ reason, client = .unknown reason ∧ c.enums.toList ≠ [] ∧ e = .clientUnknown reason := by
  cases client with
  | known specifier => simp [Client.fault?]
  | unknown reason =>
    unfold Client.fault?
    by_cases h : c.enums.isEmpty = true
    · have hnil : c.enums.toList = [] := OrderedSet.isEmpty_iff.1 h
      simp [h, hnil]
    · have hne : c.enums.toList ≠ [] := fun hnil => h (OrderedSet.isEmpty_iff.2 hnil)
      simp [h, hne, eq_comm]

namespace Draft

variable {client : Client} {directory : Path} {c : ClassDecl} {d : Draft}

/-- The imports of the enums of a class, where the client module is known. -/
def knownEnumImports (client : Client) (c : ClassDecl) : List (Import Origin) :=
  (enumImports (.known client.specifier) c).toOption.getD []

/-- The draft of a class, if it has one. -/
def drafted (client : Client) (directory : Path) (c : ClassDecl) : Draft where
  directory
  name := fileName c.name
  decl := c
  imports := .ofList (relationImports c ++ knownEnumImports client c ++ decoratorImports c)

/-- A class has its draft, or the client module is at fault. -/
theorem ofClass_eq (client : Client) (directory : Path) (c : ClassDecl) :
    ofClass client directory c = orElse (client.fault? c) (drafted client directory c) := by
  cases client with
  | known specifier =>
    unfold ofClass drafted knownEnumImports enumImports
    cases c.enums.isEmpty <;> rfl
  | unknown reason =>
    unfold ofClass drafted knownEnumImports Client.fault? enumImports
    cases c.enums.isEmpty <;> rfl

/-! ## Origins -/

/-- Enums are imported from the client module, and what registers them from another one. -/
theorem origin_of_mem_knownEnumImports {i : Import Origin} (h : i ∈ knownEnumImports client c) :
    i.origin = .module client.specifier ∨ i.origin = .module graphqlModule := by
  unfold knownEnumImports enumImports at h
  cases he : c.enums.isEmpty with
  | true => simp [he, Except.toOption] at h
  | false =>
    simp only [he, Bool.false_eq_true, if_false, Except.toOption, Option.getD_some, List.mem_append, List.mem_map,
      List.mem_singleton] at h
    rcases h with ⟨e, -, rfl⟩ | rfl
    · exact Or.inl rfl
    · exact Or.inr rfl

theorem enums_ne_nil_of_mem_knownEnumImports {i : Import Origin} (h : i ∈ knownEnumImports client c) :
    c.enums.toList ≠ [] := by
  intro hnil
  unfold knownEnumImports enumImports at h
  rw [if_pos (OrderedSet.isEmpty_iff.2 hnil)] at h
  cases h

theorem model?_of_mem_knownEnumImports {i : Import Origin} (h : i ∈ knownEnumImports client c) :
    i.origin.model? = none := by
  rcases origin_of_mem_knownEnumImports h with ho | ho <;> rw [ho] <;> rfl

theorem model?_of_mem_decoratorImports {i : Import Origin} (h : i ∈ decoratorImports c) : i.origin.model? = none := by
  obtain ⟨d, -, rfl⟩ := List.mem_map.1 h
  rfl

/-- A draft imports from the classes that its class refers to, in order, and then from modules. -/
theorem exists_keys_drafted (client : Client) (directory : Path) (c : ClassDecl) :
    ∃ modules, (drafted client directory c).imports.keys = c.relations.toList.map Origin.model ++ modules ∧
      ∀ o ∈ modules, o.model? = none := by
  have horigins : (relationImports c).map Import.origin = c.relations.toList.map Origin.model := by
    simp [relationImports]
  have hnodup : ((relationImports c).map Import.origin).Nodup := by
    rw [horigins]
    exact List.pairwise_map.2 (c.relations.nodup.imp fun hne h => hne (Origin.model.inj h))
  have hrelations : (Imports.ofList (relationImports c)).keys = c.relations.toList.map Origin.model := by
    unfold Imports.ofList
    rw [Imports.keys_mergeAll_of_nodup (by simpa [OrderedMap.keys, OrderedMap.empty] using hnodup), horigins]
    rfl
  obtain ⟨modules, hkeys, hmodules⟩ := Imports.exists_keys_mergeAll (Imports.ofList (relationImports c))
    (knownEnumImports client c ++ decoratorImports c)
  refine ⟨modules, ?_, fun o ho => ?_⟩
  · rw [← hrelations, ← hkeys]
    unfold drafted Imports.ofList
    rw [List.append_assoc, Imports.mergeAll_append]
  · obtain ⟨i, hi, rfl⟩ := hmodules o ho
    rcases List.mem_append.1 hi with hi | hi
    · exact model?_of_mem_knownEnumImports hi
    · exact model?_of_mem_decoratorImports hi

/-! ## Placing -/

/-- Where it is known of each origin what its specifier is or why it has none, the first fault counts. -/
theorem placeImports_eq {places : Dictionary Path} {fault : Origin → Option GenerationError} {spec : Origin → String}
    (h : ∀ o, d.specifier? places o = orElse (fault o) (spec o)) (done : Imports String) (is : List (Import Origin)) :
    d.placeImports places done is = orElse (is.findSome? fun i => fault i.origin)
      (done.mergeAll (is.map fun i => ⟨spec i.origin, i.names⟩)) := by
  -- By induction on the imports that are left, for any imports done before.
  induction is generalizing done with
  | nil => rfl
  | cons i is ih =>
    unfold placeImports
    rw [h, List.findSome?_cons]
    cases fault i.origin with
    | some e => rfl
    | none => exact ih _

end Draft
end SchemaClasses
