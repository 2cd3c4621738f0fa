/-!
# Sets in order of insertion

An `OrderedSet` lists each member once, where it was first inserted (`OrderedSet.mem_insert`,
`OrderedSet.insert_of_mem`).
-/

namespace SchemaClasses

/-- A finite set that lists its members in the order of their first insertion. -/
structure OrderedSet (α : Type) where
  toList : List α
  nodup : toList.Nodup
deriving DecidableEq

namespace OrderedSet

variable {α : Type} [DecidableEq α]

/-- The set without members. -/
def empty : OrderedSet α := ⟨[], List.nodup_nil⟩

/-- The set with `a`: in its place if it is a member, else at the end. -/
def insert (s : OrderedSet α) (a : α) : OrderedSet α :=
  if h : a ∈ s.toList then s
  else ⟨s.toList ++ [a], List.nodup_append.2 ⟨s.nodup, by simp, by grind⟩⟩

/-- The set with every member of a list, one after the other. -/
def insertAll (s : OrderedSet α) (l : List α) : OrderedSet α := l.foldl insert s

/-- The set of the members of a list. -/
def ofList (l : List α) : OrderedSet α := empty.insertAll l

/-- The set without members has none to list. -/
def isEmpty (s : OrderedSet α) : Bool := s.toList.isEmpty

omit [DecidableEq α] in
@[ext] theorem ext {s t : OrderedSet α} (h : s.toList = t.toList) : s = t := by
  cases s; cases t; simp_all

theorem insert_of_mem {s : OrderedSet α} {a : α} (h : a ∈ s.toList) : s.insert a = s := by simp [insert, h]

theorem toList_insert (s : OrderedSet α) (a : α) :
    (s.insert a).toList = if a ∈ s.toList then s.toList else s.toList ++ [a] := by
  unfold insert; split <;> simp_all

theorem mem_insert {s : OrderedSet α} {a b : α} : b ∈ (s.insert a).toList ↔ b ∈ s.toList ∨ b = a := by
  rw [toList_insert]; split <;> grind

theorem mem_insertAll {s : OrderedSet α} {l : List α} {b : α} :
    b ∈ (s.insertAll l).toList ↔ b ∈ s.toList ∨ b ∈ l := by
  induction l generalizing s with
  | nil => simp [insertAll]
  | cons a l ih =>
    rw [show s.insertAll (a :: l) = (s.insert a).insertAll l from rfl, ih, mem_insert]
    simp [or_assoc]

end OrderedSet
end SchemaClasses
