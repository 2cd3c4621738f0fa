/-!
# Maps in order of insertion

An `OrderedMap` lists each key once, where it was first given a value. `OrderedMap.alter` gives a key a value made
from the one it had; what any key holds afterwards is `OrderedMap.get?_alter`.
-/

namespace SchemaClasses

/-- A finite map that lists its keys in the order in which they first got a value. -/
structure OrderedMap (κ α : Type) where
  entries : List (κ × α)
  nodup : (entries.map Prod.fst).Nodup

namespace OrderedMap

variable {κ α : Type} [DecidableEq κ]

/-- The entries with the value of `k` made by `f` from its value so far. -/
def alterEntries (k : κ) (f : Option α → α) : List (κ × α) → List (κ × α)
  | [] => [(k, f none)]
  | e :: es => if e.1 = k then (e.1, f (some e.2)) :: es else e :: alterEntries k f es

theorem keys_alterEntries (k : κ) (f : Option α → α) (es : List (κ × α)) :
    (alterEntries k f es).map Prod.fst =
      if k ∈ es.map Prod.fst then es.map Prod.fst else es.map Prod.fst ++ [k] := by
  induction es with
  | nil => simp [alterEntries]
  | cons e es ih =>
    by_cases h : e.1 = k
    · simp [alterEntries, h]
    · by_cases hk : k ∈ es.map Prod.fst <;> simp_all [alterEntries, Ne.symm h]

/-- The map without entries. -/
def empty : OrderedMap κ α := ⟨[], List.nodup_nil⟩

/-- The map whose key `k` has the value that `f` makes from its value so far. -/
def alter (m : OrderedMap κ α) (k : κ) (f : Option α → α) : OrderedMap κ α where
  entries := alterEntries k f m.entries
  nodup := by
    rw [keys_alterEntries]
    split
    · exact m.nodup
    · exact List.nodup_append.2 ⟨m.nodup, by simp, by grind⟩

/-- The map whose key `k` has the value `a`. -/
def set (m : OrderedMap κ α) (k : κ) (a : α) : OrderedMap κ α := m.alter k fun _ => a

/-- The value of a key. -/
def get? (m : OrderedMap κ α) (k : κ) : Option α := m.entries.lookup k

/-- The keys in order. -/
def keys (m : OrderedMap κ α) : List κ := m.entries.map Prod.fst

/-- How many keys have a value. -/
def size (m : OrderedMap κ α) : Nat := m.entries.length

omit [DecidableEq κ] in
@[ext] theorem ext {m n : OrderedMap κ α} (h : m.entries = n.entries) : m = n := by
  cases m; cases n; simp_all

theorem keys_alter (m : OrderedMap κ α) (k : κ) (f : Option α → α) :
    (m.alter k f).keys = if k ∈ m.keys then m.keys else m.keys ++ [k] :=
  keys_alterEntries k f m.entries

theorem lookup_alterEntries (k j : κ) (f : Option α → α) (es : List (κ × α)) :
    (alterEntries k f es).lookup j = if j = k then some (f (es.lookup k)) else es.lookup j := by
  induction es with
  | nil =>
    rw [alterEntries, List.lookup_cons, List.lookup_nil, List.lookup_nil]
    by_cases h : j = k
    · rw [h, beq_self_eq_true, if_pos rfl]
    · rw [beq_false_of_ne h, if_neg h]
  | cons e es ih => grind [alterEntries]

/-- Only the altered key holds another value. -/
theorem get?_alter (m : OrderedMap κ α) (k j : κ) (f : Option α → α) :
    (m.alter k f).get? j = if j = k then some (f (m.get? k)) else m.get? j :=
  lookup_alterEntries k j f m.entries

end OrderedMap
end SchemaClasses
