/-!
# Dictionaries

A `Dictionary` maps texts to values and lists its entries in the order of their keys, by code point. Two dictionaries
with the same look-ups are equal (`Dictionary.ext_get?`), however they were filled.
-/

namespace SchemaClasses

/-- A finite map from texts, listed in the order of its keys. -/
structure Dictionary (α : Type) where
  entries : List (String × α)
  sorted : entries.Pairwise fun a b => a.1 < b.1
deriving DecidableEq

namespace Dictionary

variable {α : Type}

/-- Sorted entries with the entry `(k, a)`, which takes the place of an earlier one. -/
def insertEntry (k : String) (a : α) : List (String × α) → List (String × α)
  | [] => [(k, a)]
  | e :: es =>
    if k < e.1 then (k, a) :: e :: es
    else if k = e.1 then (k, a) :: es
    else e :: insertEntry k a es

theorem mem_insertEntry {k : String} {a : α} {x : String × α} {es : List (String × α)}
    (h : x ∈ insertEntry k a es) : x = (k, a) ∨ x ∈ es := by
  induction es with
  | nil => simpa [insertEntry] using h
  | cons e es ih =>
    simp only [insertEntry] at h
    split at h
    · grind
    · split at h <;> grind

theorem sorted_insertEntry {k : String} {a : α} {es : List (String × α)}
    (h : es.Pairwise fun a b => a.1 < b.1) : (insertEntry k a es).Pairwise fun a b => a.1 < b.1 := by
  induction es with
  | nil => simp [insertEntry]
  | cons e es ih =>
    obtain ⟨he, hes⟩ := List.pairwise_cons.1 h
    simp only [insertEntry]
    split
    · rename_i hk
      refine List.pairwise_cons.2 ⟨fun x hx => ?_, h⟩
      rcases List.mem_cons.1 hx with rfl | hx
      · exact hk
      · exact String.lt_trans hk (he x hx)
    · rename_i hk
      split
      · rename_i heq
        exact List.pairwise_cons.2 ⟨fun x hx => heq ▸ he x hx, hes⟩
      · rename_i hne
        refine List.pairwise_cons.2 ⟨fun x hx => ?_, ih hes⟩
        rcases mem_insertEntry hx with rfl | hx
        · exact Std.lt_of_le_of_ne (String.not_lt.1 hk) (Ne.symm hne)
        · exact he x hx

/-- The dictionary without entries. -/
def empty : Dictionary α := ⟨[], .nil⟩

/-- The dictionary in which `k` maps to `a`. -/
def insert (d : Dictionary α) (k : String) (a : α) : Dictionary α :=
  ⟨insertEntry k a d.entries, sorted_insertEntry d.sorted⟩

/-- The dictionary without the key `k`. -/
def erase (d : Dictionary α) (k : String) : Dictionary α :=
  ⟨d.entries.filter (·.1 ≠ k), d.sorted.filter _⟩

/-- The value of a key. -/
def get? (d : Dictionary α) (k : String) : Option α := d.entries.lookup k

/-- The dictionary with the entries of a list; of two for one key the later holds. -/
def insertAll (d : Dictionary α) (es : List (String × α)) : Dictionary α :=
  es.foldl (fun d e => d.insert e.1 e.2) d

/-- The dictionary of a list of entries; of two for one key the later holds. -/
def ofList (es : List (String × α)) : Dictionary α := empty.insertAll es

/-- The dictionary with the entries of `e` over those of `d`. -/
def overlay (d e : Dictionary α) : Dictionary α := d.insertAll e.entries

@[ext] theorem ext {d e : Dictionary α} (h : d.entries = e.entries) : d = e := by
  cases d; cases e; simp_all

theorem lookup_insertEntry (k j : String) (a : α) (es : List (String × α)) :
    (insertEntry k a es).lookup j = if j = k then some a else es.lookup j := by
  induction es with
  | nil =>
    rw [insertEntry, List.lookup_cons, List.lookup_nil]
    by_cases h : j = k
    · rw [h, beq_self_eq_true, if_pos rfl]
    · rw [beq_false_of_ne h, if_neg h]
  | cons e es ih => grind [insertEntry]

/-- Only the inserted key maps to another value. -/
theorem get?_insert (d : Dictionary α) (k j : String) (a : α) :
    (d.insert k a).get? j = if j = k then some a else d.get? j := lookup_insertEntry k j a d.entries

theorem lookup_eq_none_of_lt {k : String} {es : List (String × α)} (h : ∀ e ∈ es, k < e.1) :
    es.lookup k = none := by
  refine List.lookup_eq_none_iff.2 fun e he => ?_
  have := h e he
  grind [String.lt_irrefl]

/-- A key before the first of sorted entries has none. -/
theorem lookup_cons_eq_none_of_lt {k : String} {e : String × α} {es : List (String × α)} (hk : k < e.1)
    (hes : ∀ x ∈ es, e.1 < x.1) : (e :: es).lookup k = none :=
  lookup_eq_none_of_lt (List.forall_mem_cons.2 ⟨hk, fun x hx => String.lt_trans hk (hes x hx)⟩)

theorem eq_of_lookup : ∀ {es fs : List (String × α)}, es.Pairwise (fun a b => a.1 < b.1) →
    fs.Pairwise (fun a b => a.1 < b.1) → (∀ k, es.lookup k = fs.lookup k) → es = fs
  | [], [], _, _, _ => rfl
  | [], (j, b) :: _, _, _, h => by simpa using h j
  | (k, a) :: _, [], _, _, h => by simpa using h k
  | (k, a) :: es, (j, b) :: fs, he, hf, h => by
    obtain ⟨hek, hes⟩ := List.pairwise_cons.1 he
    obtain ⟨hfj, hfs⟩ := List.pairwise_cons.1 hf
    -- Of two first keys the lesser would be missing among the other entries.
    have hkj : k = j := by
      refine Decidable.byContradiction fun hne => ?_
      rcases Decidable.em (k < j) with hlt | hlt
      · have hk := h k
        rw [List.lookup_cons_self, lookup_cons_eq_none_of_lt hlt hfj] at hk
        cases hk
      · have hlt : j < k := Std.lt_of_le_of_ne (String.not_lt.1 hlt) (Ne.symm hne)
        have hj := h j
        rw [List.lookup_cons_self, lookup_cons_eq_none_of_lt hlt hek] at hj
        cases hj
    subst hkj
    have hab := h k
    rw [List.lookup_cons_self, List.lookup_cons_self] at hab
    cases hab
    have htail : ∀ i, es.lookup i = fs.lookup i := by
      intro i
      by_cases hi : i = k
      · subst hi
        rw [lookup_eq_none_of_lt hek, lookup_eq_none_of_lt hfj]
      · have hrest := h i
        rw [List.lookup_cons, List.lookup_cons, beq_false_of_ne hi] at hrest
        exact hrest
    exact congrArg (List.cons (k, a)) (eq_of_lookup hes hfs htail)

/-- Dictionaries with the same look-ups are equal. -/
theorem ext_get? {d e : Dictionary α} (h : ∀ k, d.get? k = e.get? k) : d = e :=
  ext (eq_of_lookup d.sorted e.sorted h)

end Dictionary
end SchemaClasses
