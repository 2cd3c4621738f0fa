import SchemaClasses.Proofs.TypeScript.Imports

/-!
# Sets of imports and their histories

A set of imports is told by the imports it was given, one after the other: its origins are theirs, and an origin has
the symbols that it was given anywhere (`Imports.get?_mergeAll`). So each import of a set that is made of a list is
known (`Imports.toList_ofList`).

A history (`Imports.Change`) gives single symbols and whole imports in any order. Each change merges the import that it
gives (`Imports.Change.apply_eq_merge`), so that what is said of lists holds of histories
(`Imports.replay_eq_mergeAll`). A change whose symbols are there already changes nothing (`Imports.apply_of_holds`), and
after a history this is so of each of its changes (`Imports.holds_replay`).
-/

namespace SchemaClasses.TypeScript.Imports

variable {ο : Type} [DecidableEq ο]

/-! ## Merged lists -/

/-- The symbols that a list of imports gives to an origin. -/
def symbolsOf (is : List (Import ο)) (o : ο) : List String :=
  (is.filter (·.origin = o)).flatMap (·.names.toList)

variable {s : Imports ο} {is : List (Import ο)} {o : ο}

theorem symbolsOf_cons_self (i : Import ο) (is : List (Import ο)) :
    symbolsOf (i :: is) i.origin = i.names.toList ++ symbolsOf is i.origin := by
  unfold symbolsOf
  rw [List.filter_cons_of_pos (by simp), List.flatMap_cons]

theorem symbolsOf_cons_of_ne {i : Import ο} (h : i.origin ≠ o) (is : List (Import ο)) :
    symbolsOf (i :: is) o = symbolsOf is o := by
  unfold symbolsOf
  rw [List.filter_cons_of_neg (by simpa using h)]

theorem symbolsOf_of_not_mem (h : o ∉ is.map Import.origin) : symbolsOf is o = [] := by
  have hnone : is.filter (·.origin = o) = [] :=
    List.filter_eq_nil_iff.2 fun i hi ho => h (List.mem_map.2 ⟨i, hi, of_decide_eq_true ho⟩)
  unfold symbolsOf
  rw [hnone, List.flatMap_nil]

theorem mem_symbolsOf_iff {x : String} : x ∈ symbolsOf is o ↔ Listed is o x := by
  unfold symbolsOf Listed
  simp only [List.mem_flatMap, List.mem_filter, decide_eq_true_eq, and_assoc]

/-- Merging puts the symbols of an import to those of its origin. -/
theorem get?_merge (s : Imports ο) (i : Import ο) (o : ο) : (s.merge i).get? o =
    if o = i.origin then some (((s.get? o).getD .empty).insertAll i.names.toList) else s.get? o := by
  rw [merge, OrderedMap.get?_alter]
  by_cases ho : o = i.origin
  · subst ho
    rw [if_pos rfl, if_pos rfl]
    cases s.get? i.origin with
    | none => exact congrArg some (OrderedSet.ofList_toList i.names).symm
    | some names => rfl
  · rw [if_neg ho, if_neg ho]

/-- Merging a list puts its symbols for an origin to those there were. -/
theorem get?_mergeAll (s : Imports ο) (is : List (Import ο)) (o : ο) : (s.mergeAll is).get? o =
    if o ∈ is.map Import.origin then some (((s.get? o).getD .empty).insertAll (symbolsOf is o)) else s.get? o := by
  -- By induction on the list, for any set to start from.
  induction is generalizing s with
  | nil => rfl
  | cons i is ih =>
    rw [mergeAll_cons, ih, get?_merge, List.map_cons]
    by_cases ho : o = i.origin
    · subst ho
      have hmem : i.origin ∈ i.origin :: is.map Import.origin := List.mem_cons_self
      rw [if_pos hmem, if_pos rfl, symbolsOf_cons_self, OrderedSet.insertAll_append]
      split
      · rfl
      · rename_i hlast
        rw [symbolsOf_of_not_mem hlast]
        rfl
    · rw [if_neg ho, symbolsOf_cons_of_ne (Ne.symm ho)]
      simp [ho]

/-- The imports of a set that is made of a list: one for each origin, with all symbols that the list gives to it. -/
theorem toList_ofList (is : List (Import ο)) : (ofList is).toList =
    (is.map Import.origin).eraseDups.map fun o => ⟨o, .ofList (symbolsOf is o)⟩ := by
  have hentry : ∀ i ∈ (ofList is).toList, i = ⟨i.origin, .ofList (symbolsOf is i.origin)⟩ := by
    intro i hi
    have horigin : i.origin ∈ is.map Import.origin := by
      rw [← List.mem_eraseDups, ← keys_ofList]
      exact OrderedMap.mem_keys_of_get? (mem_toList_iff.1 hi)
    have hnames : some i.names = some (.ofList (symbolsOf is i.origin)) := by
      rw [← mem_toList_iff.1 hi, ofList, get?_mergeAll, if_pos horigin]
      rfl
    rw [← Option.some.inj hnames]
  rw [← keys_ofList, ← map_origin_toList, List.map_map]
  exact ((List.map_congr_left hentry).symm.trans (List.map_id _)).symm

/-! ## Changes -/

/-- A change of a set of imports. -/
inductive Change (ο : Type) where
  /-- One more symbol from an origin. -/
  | register (name : String) (origin : ο)
  /-- The symbols of an import, of which there may be none. -/
  | merge (i : Import ο)

namespace Change

/-- The set after a change. -/
def apply (s : Imports ο) : Change ο → Imports ο
  | .register name origin => s.register name origin
  | .merge i => s.merge i

/-- The origin that a change is about. -/
def origin : Change ο → ο
  | .register _ origin => origin
  | .merge i => i.origin

/-- The symbols that a change gives to its origin. -/
def symbols : Change ο → List String
  | .register name _ => [name]
  | .merge i => i.names.toList

/-- The import that a change gives. -/
def given : Change ο → Import ο
  | .register name origin => ⟨origin, .ofList [name]⟩
  | .merge i => i

theorem apply_eq_merge (s : Imports ο) (c : Change ο) : c.apply s = s.merge c.given := by
  cases c <;> rfl

omit [DecidableEq ο] in
theorem origin_given (c : Change ο) : c.given.origin = c.origin := by
  cases c <;> rfl

omit [DecidableEq ο] in
theorem symbols_given (c : Change ο) : c.given.names.toList = c.symbols := by
  cases c <;> rfl

end Change

/-! ## Histories -/

/-- The set after a history of changes. -/
def replay (s : Imports ο) (history : List (Change ο)) : Imports ο := history.foldl Change.apply s

/-- The symbols that a history gives to an origin. -/
def symbolsIn (history : List (Change ο)) (o : ο) : List String :=
  (history.filter (·.origin = o)).flatMap Change.symbols

variable {history part : List (Change ο)} {c : Change ο}

/-- A history merges what its changes give. -/
theorem replay_eq_mergeAll (s : Imports ο) (history : List (Change ο)) :
    s.replay history = s.mergeAll (history.map Change.given) := by
  induction history generalizing s with
  | nil => rfl
  | cons c history ih =>
    show (c.apply s).replay history = _
    rw [Change.apply_eq_merge, ih]
    rfl

omit [DecidableEq ο] in
theorem map_origin_given (history : List (Change ο)) :
    (history.map Change.given).map Import.origin = history.map Change.origin := by
  rw [List.map_map]
  exact List.map_congr_left fun c _ => c.origin_given

theorem symbolsOf_given (history : List (Change ο)) (o : ο) :
    symbolsOf (history.map Change.given) o = symbolsIn history o := by
  unfold symbolsOf symbolsIn
  rw [List.filter_map, List.flatMap_map]
  simp only [Function.comp_def, Change.origin_given, Change.symbols_given]

/-- After a history there is one import for each origin, with all symbols that the history gives to it. -/
theorem toList_replay (history : List (Change ο)) : (replay OrderedMap.empty history).toList =
    (history.map Change.origin).eraseDups.map fun o => ⟨o, .ofList (symbolsIn history o)⟩ := by
  rw [replay_eq_mergeAll]
  show (ofList _).toList = _
  simp only [toList_ofList, map_origin_given, symbolsOf_given]

theorem mem_symbolsIn (h : c ∈ history) {x : String} (hx : x ∈ c.symbols) : x ∈ symbolsIn history c.origin :=
  List.mem_flatMap.2 ⟨c, List.mem_filter.2 ⟨h, by simp⟩, hx⟩

/-! ## Changes made again -/

/-- A set has the origin of a change with the symbols it gives. -/
def Holds (s : Imports ο) (c : Change ο) : Prop :=
  ∃ names, s.get? c.origin = some names ∧ ∀ x ∈ c.symbols, x ∈ names.toList

/-- A change that a set holds changes nothing. -/
theorem apply_of_holds (h : s.Holds c) : c.apply s = s := by
  obtain ⟨names, hnames, hsymbols⟩ := h
  rw [← c.origin_given] at hnames
  rw [Change.apply_eq_merge]
  refine OrderedMap.eq_of_get?_eq ?_ fun o => ?_
  · rw [keys_merge, if_pos (OrderedMap.mem_keys_of_get? hnames)]
  · rw [get?_merge]
    split
    · rename_i ho
      rw [ho, hnames, Option.getD_some, c.symbols_given, OrderedSet.insertAll_of_forall_mem hsymbols]
    · rfl

theorem replay_of_holds (h : ∀ c ∈ part, s.Holds c) : s.replay part = s := by
  induction part with
  | nil => rfl
  | cons c part ih =>
    obtain ⟨hc, hpart⟩ := List.forall_mem_cons.1 h
    show (c.apply s).replay part = s
    rw [apply_of_holds hc]
    exact ih hpart

/-- After a history a set holds each of its changes. -/
theorem holds_replay (h : c ∈ history) : (s.replay history).Holds c := by
  have horigin : c.origin ∈ (history.map Change.given).map Import.origin := by
    rw [map_origin_given]
    exact List.mem_map_of_mem h
  refine ⟨((s.get? c.origin).getD .empty).insertAll (symbolsIn history c.origin), ?_, fun x hx => ?_⟩
  · rw [replay_eq_mergeAll, get?_mergeAll, if_pos horigin, symbolsOf_given]
  · exact OrderedSet.mem_insertAll.2 (Or.inr (mem_symbolsIn h hx))

/-- **Histories of imports**: after any changes of the empty set, its origins are those of the changes, each once and
where it is first; each has the symbols that the changes give to it anywhere, each once and where it is first, and one
at least if any is registered; and to make changes of the history again, all or some, changes nothing. A set that is
made of a list is the set after merging its imports one by one. -/
theorem replay_settled (history : List (Change ο)) :
    ((replay OrderedMap.empty history).toList.map Import.origin).Nodup ∧
      (replay OrderedMap.empty history).toList.map Import.origin = (history.map Change.origin).eraseDups ∧
      (∀ i ∈ (replay OrderedMap.empty history).toList, i.names.toList.Nodup ∧
        i.names.toList = (symbolsIn history i.origin).eraseDups ∧
        ((∃ name, .register name i.origin ∈ history) → i.names.toList ≠ [])) ∧
      (∀ part, part ⊆ history → (replay OrderedMap.empty history).replay part = replay OrderedMap.empty history) ∧
      ∀ is : List (Import ο), ofList is = replay OrderedMap.empty (is.map .merge) := by
  have horigins : (replay OrderedMap.empty history).toList.map Import.origin =
      (history.map Change.origin).eraseDups := by
    rw [toList_replay, List.map_map]
    exact List.map_id _
  refine ⟨horigins ▸ OrderedSet.nodup_eraseDups _, horigins, fun i hi => ?_, fun part hpart => ?_, fun is => ?_⟩
  · rw [toList_replay] at hi
    obtain ⟨o, -, rfl⟩ := List.mem_map.1 hi
    have hnames : (OrderedSet.ofList (symbolsIn history o)).toList = (symbolsIn history o).eraseDups :=
      OrderedSet.toList_ofList _
    refine ⟨(OrderedSet.ofList _).nodup, hnames, ?_⟩
    rintro ⟨name, hname⟩
    have hmem : name ∈ (OrderedSet.ofList (symbolsIn history o)).toList :=
      OrderedSet.mem_ofList.2 (mem_symbolsIn hname List.mem_cons_self)
    exact List.ne_nil_of_mem hmem
  · exact replay_of_holds fun c hc => holds_replay (hpart hc)
  · unfold replay ofList mergeAll
    rw [List.foldl_map]
    rfl

/-- An import without symbols, symbols for two origins by turns, and some of the changes once more. -/
def byTurns : List (Change String) :=
  [.merge ⟨"b", .empty⟩, .register "x" "a", .merge ⟨"a", .ofList ["y", "x"]⟩, .register "z" "b"]

theorem replay_settled_byTurns :
    (⟨"a", .ofList ["x", "y"]⟩ : Import String) ∈ (replay OrderedMap.empty byTurns).toList ∧
      (symbolsIn byTurns "a").eraseDups = ["x", "y"] ∧
      .register "x" "a" ∈ byTurns ∧ (OrderedSet.ofList ["x", "y"]).toList ≠ [] ∧
      (replay OrderedMap.empty byTurns).toList.map Import.origin = ["b", "a"] ∧
      (replay OrderedMap.empty byTurns).replay [.register "z" "b", .register "x" "a"] =
        replay OrderedMap.empty byTurns := by
  obtain ⟨-, horigins, himports, hagain, -⟩ := replay_settled byTurns
  have himport : (⟨"a", .ofList ["x", "y"]⟩ : Import String) ∈ (replay OrderedMap.empty byTurns).toList :=
    List.mem_cons_of_mem _ List.mem_cons_self
  have hregister : Change.register "x" "a" ∈ byTurns := List.mem_cons_of_mem _ List.mem_cons_self
  obtain ⟨-, hnames, hsome⟩ := himports _ himport
  refine ⟨himport, hnames.symm, hregister, hsome ⟨"x", hregister⟩, horigins.trans (by decide), hagain _ fun c hc => ?_⟩
  rcases List.mem_cons.1 hc with rfl | hc
  · simp [byTurns]
  · rw [List.mem_singleton.1 hc]
    exact hregister

end SchemaClasses.TypeScript.Imports
