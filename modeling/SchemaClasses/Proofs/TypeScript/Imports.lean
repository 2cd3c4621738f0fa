import SchemaClasses.Proofs.Ordered.Lookup
import SchemaClasses.TypeScript.Import

/-!
# Symbols of imports

What a set of imports is for is told by the symbols it brings from each origin (`Imports.Brings`). Merging adds the
symbols of the merged import from its origin and nothing else (`Imports.brings_merge`), so a set that is made of a list
brings what the imports of the list bring (`Imports.brings_ofList`). The origins of merged imports are inserted one after
the other (`Imports.origins_mergeAll`): those there were stay where they are (`Imports.exists_keys_mergeAll`), distinct
ones stay in order (`Imports.keys_mergeAll_of_nodup`), and a list gives each of its origins where it is first
(`Imports.keys_ofList`). The symbols of a new origin make one import behind all others
(`Imports.toList_mergeAll_of_new`).
-/

namespace SchemaClasses.TypeScript.Imports

variable {ο : Type} [DecidableEq ο]

/-- Some import of a list has the origin and holds the symbol. -/
def Listed (is : List (Import ο)) (origin : ο) (name : String) : Prop :=
  ∃ i ∈ is, i.origin = origin ∧ name ∈ i.names.toList

/-- Some import of a set has the origin and holds the symbol. -/
def Brings (s : Imports ο) (origin : ο) (name : String) : Prop := Listed s.toList origin name

variable {s : Imports ο} {is : List (Import ο)} {o : ο} {x : String}

/-! ## Lists of imports -/

omit [DecidableEq ο] in
theorem not_listed_nil : ¬Listed [] o x := by
  rintro ⟨i, hi, -⟩
  cases hi

omit [DecidableEq ο] in
theorem listed_cons {i : Import ο} : Listed (i :: is) o x ↔ (i.origin = o ∧ x ∈ i.names.toList) ∨ Listed is o x := by
  unfold Listed
  simp

omit [DecidableEq ο] in
theorem listed_append {js : List (Import ο)} : Listed (is ++ js) o x ↔ Listed is o x ∨ Listed js o x := by
  unfold Listed
  simp only [List.mem_append, or_and_right, exists_or]

omit [DecidableEq ο] in
/-- Imports of one symbol each. -/
theorem listed_map_single {α : Type} (l : List α) (origin : α → ο) (symbol : α → String) :
    Listed (l.map fun a => ⟨origin a, .ofList [symbol a]⟩) o x ↔ ∃ a ∈ l, origin a = o ∧ symbol a = x := by
  constructor
  · rintro ⟨i, hi, ho, hx⟩
    obtain ⟨a, ha, rfl⟩ := List.mem_map.1 hi
    rw [OrderedSet.toList_ofList_singleton, List.mem_singleton] at hx
    exact ⟨a, ha, ho, hx.symm⟩
  · rintro ⟨a, ha, ho, hx⟩
    refine ⟨_, List.mem_map_of_mem ha, ho, ?_⟩
    rw [OrderedSet.toList_ofList_singleton, List.mem_singleton, hx]

/-! ## Sets of imports -/

theorem mem_toList_iff {i : Import ο} : i ∈ s.toList ↔ s.get? i.origin = some i.names := by
  rw [← OrderedMap.mem_entries_iff]
  unfold toList
  rw [List.mem_map]
  constructor
  · rintro ⟨e, he, rfl⟩; exact he
  · intro h; exact ⟨(i.origin, i.names), h, rfl⟩

theorem brings_iff : s.Brings o x ↔ ∃ names, s.get? o = some names ∧ x ∈ names.toList := by
  constructor
  · rintro ⟨i, hi, rfl, hx⟩
    exact ⟨i.names, mem_toList_iff.1 hi, hx⟩
  · rintro ⟨names, hnames, hx⟩
    exact ⟨⟨o, names⟩, mem_toList_iff.2 hnames, rfl, hx⟩

/-- Merging adds the symbols of one import. -/
theorem brings_merge (i : Import ο) : (s.merge i).Brings o x ↔ s.Brings o x ∨ i.origin = o ∧ x ∈ i.names.toList := by
  rw [brings_iff, brings_iff, merge, OrderedMap.get?_alter]
  by_cases ho : o = i.origin
  · subst ho
    rw [if_pos rfl]
    cases s.get? i.origin with
    | none => simp
    | some names => simp [OrderedSet.mem_insertAll]
  · rw [if_neg ho]
    simp [Ne.symm ho]

/-- Merging a list adds the symbols of each of its imports. -/
theorem brings_mergeAll : (s.mergeAll is).Brings o x ↔ s.Brings o x ∨ Listed is o x := by
  induction is generalizing s with
  | nil => exact ⟨Or.inl, fun h => h.elim id fun h => absurd h not_listed_nil⟩
  | cons i is ih =>
    rw [show s.mergeAll (i :: is) = (s.merge i).mergeAll is from rfl, ih, brings_merge, listed_cons, or_assoc]

omit [DecidableEq ο] in
theorem not_brings_empty : ¬Brings (OrderedMap.empty : Imports ο) o x := not_listed_nil

/-- Imports made of a list bring what the list holds. -/
theorem brings_ofList : (ofList is).Brings o x ↔ Listed is o x := by
  unfold ofList
  rw [brings_mergeAll]
  exact ⟨fun h => h.elim (fun h => absurd h not_brings_empty) id, Or.inr⟩

/-! ## The order of origins -/

omit [DecidableEq ο] in
theorem map_origin_toList (s : Imports ο) : s.toList.map Import.origin = s.keys := by
  unfold toList OrderedMap.keys
  rw [List.map_map]
  rfl

theorem mergeAll_cons (s : Imports ο) (i : Import ο) (is : List (Import ο)) :
    s.mergeAll (i :: is) = (s.merge i).mergeAll is := rfl

theorem mergeAll_append (s : Imports ο) (is js : List (Import ο)) :
    s.mergeAll (is ++ js) = (s.mergeAll is).mergeAll js := List.foldl_append

theorem keys_merge (s : Imports ο) (i : Import ο) :
    (s.merge i).keys = if i.origin ∈ s.keys then s.keys else s.keys ++ [i.origin] :=
  s.keys_alter i.origin _

/-- The origins of a set, in order. -/
def origins (s : Imports ο) : OrderedSet ο := ⟨s.keys, s.nodup⟩

theorem origins_merge (s : Imports ο) (i : Import ο) : (s.merge i).origins = s.origins.insert i.origin := by
  apply OrderedSet.ext
  rw [OrderedSet.toList_insert]
  exact keys_merge s i

/-- Merging a list inserts its origins. -/
theorem origins_mergeAll (s : Imports ο) (is : List (Import ο)) :
    (s.mergeAll is).origins = s.origins.insertAll (is.map Import.origin) := by
  induction is generalizing s with
  | nil => rfl
  | cons i is ih =>
    rw [mergeAll_cons, ih, origins_merge]
    rfl

theorem keys_mergeAll (s : Imports ο) (is : List (Import ο)) :
    (s.mergeAll is).keys = (s.origins.insertAll (is.map Import.origin)).toList := by
  rw [← origins_mergeAll]
  rfl

/-- Imports made of a list have the origins of the imports of the list. -/
theorem mem_keys_mergeAll : o ∈ (s.mergeAll is).keys ↔ o ∈ s.keys ∨ ∃ i ∈ is, i.origin = o := by
  rw [keys_mergeAll, OrderedSet.mem_insertAll, List.mem_map]
  rfl

/-- Imports made of a list have no other origins. -/
theorem exists_of_mem_keys_ofList (h : o ∈ (ofList is).keys) : ∃ i ∈ is, i.origin = o := by
  unfold ofList at h
  rcases mem_keys_mergeAll.1 h with h | h
  · cases h
  · exact h

/-- Every import of a list keeps its origin. -/
theorem exists_origin_of_mem_ofList {i : Import ο} (h : i ∈ (ofList is).toList) :
    ∃ j ∈ is, j.origin = i.origin := by
  obtain ⟨e, he, rfl⟩ := List.mem_map.1 h
  exact exists_of_mem_keys_ofList (List.mem_map_of_mem he)

/-- New origins come behind those before. -/
theorem exists_keys_mergeAll (s : Imports ο) (is : List (Import ο)) :
    ∃ new, (s.mergeAll is).keys = s.keys ++ new ∧ ∀ o ∈ new, ∃ i ∈ is, i.origin = o := by
  rw [keys_mergeAll, OrderedSet.toList_insertAll]
  refine ⟨_, rfl, fun o ho => ?_⟩
  rw [List.mem_eraseDups, List.mem_filter] at ho
  exact List.mem_map.1 ho.1

/-- Imports of new and distinct origins come in order. -/
theorem keys_mergeAll_of_nodup {s : Imports ο} {is : List (Import ο)} (h : (s.keys ++ is.map Import.origin).Nodup) :
    (s.mergeAll is).keys = s.keys ++ is.map Import.origin := by
  rw [keys_mergeAll]
  exact OrderedSet.toList_insertAll_of_nodup h

/-- The origins of a list of imports, each where it is first. -/
theorem keys_ofList (is : List (Import ο)) : (ofList is).keys = (is.map Import.origin).eraseDups := by
  unfold ofList
  rw [keys_mergeAll]
  exact OrderedSet.toList_ofList _

/-! ## Imports of a new origin -/

theorem entries_merge_of_new {i : Import ο} (h : i.origin ∉ s.keys) :
    (s.merge i).entries = s.entries ++ [(i.origin, i.names)] := by
  show OrderedMap.alterEntries i.origin _ s.entries = _
  rw [← List.append_nil s.entries, OrderedMap.alterEntries_append _ h, List.append_nil]
  rfl

/-- An import of a new origin comes last. -/
theorem toList_merge_of_new {i : Import ο} (h : i.origin ∉ s.keys) : (s.merge i).toList = s.toList ++ [i] := by
  unfold toList
  rw [entries_merge_of_new h, List.map_append]
  rfl

/-- Symbols from the last origin are put to those it has. -/
theorem entries_mergeAll_last {es : List (ο × OrderedSet String)} {names : OrderedSet String}
    (h : s.entries = es ++ [(o, names)]) (l : List String) :
    (s.mergeAll (l.map fun x => ⟨o, .ofList [x]⟩)).entries = es ++ [(o, names.insertAll l)] := by
  induction l generalizing s names with
  | nil => exact h
  | cons x l ih =>
    have hnew : o ∉ es.map Prod.fst := by
      have hnodup := s.nodup
      rw [h, List.map_append] at hnodup
      exact fun hmem => (List.nodup_append.1 hnodup).2.2 o hmem o List.mem_cons_self rfl
    have hmerge : (s.merge ⟨o, .ofList [x]⟩).entries = es ++ [(o, names.insert x)] := by
      show OrderedMap.alterEntries o _ s.entries = _
      rw [h, OrderedMap.alterEntries_append _ hnew, OrderedMap.alterEntries, if_pos rfl]
      rfl
    rw [List.map_cons, mergeAll_cons]
    exact ih hmerge

/-- Symbols from a new origin make one import, which comes last. -/
theorem toList_mergeAll_of_new (h : o ∉ s.keys) {l : List String} (hl : l ≠ []) :
    (s.mergeAll (l.map fun x => ⟨o, .ofList [x]⟩)).toList = s.toList ++ [⟨o, .ofList l⟩] := by
  cases l with
  | nil => exact absurd rfl hl
  | cons x l =>
    have hfirst : (s.merge ⟨o, .ofList [x]⟩).entries = s.entries ++ [(o, .ofList [x])] := entries_merge_of_new h
    unfold toList
    rw [List.map_cons, mergeAll_cons, entries_mergeAll_last hfirst, List.map_append]
    rfl

end SchemaClasses.TypeScript.Imports
