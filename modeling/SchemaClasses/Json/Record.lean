import SchemaClasses.Json.Decode

/-!
# Reading records

A record is declared by its fields in order (`Fields.start`, `Fields.required`, `Fields.withDefault`). One
declaration gives both readers of a record: an object in which each field stands once, in any order and among other
members, and an array of the fields in their order, of which the last ones may be left out when they have defaults.
-/

namespace SchemaClasses.Json

/-- The fields of a record in order, and what to make of their values. -/
inductive Fields : Type → Type 1 where
  | done {α : Type} (make : α) : Fields α
  | field {τ α : Type} (before : Fields (τ → α)) (key : String) (fallback : Option τ) (read : Reader τ) : Fields α

namespace Fields

/-! ## Declarations -/

/-- No fields yet. -/
def start {α : Type} (make : α) : Fields α := .done make

/-- One more field, which has to be there. -/
def required {τ α : Type} (before : Fields (τ → α)) (key : String) (read : Reader τ) : Fields α :=
  .field before key none read

/-- One more field, with the value it has when it is not there. -/
def withDefault {τ α : Type} (before : Fields (τ → α)) (key : String) (fallback : τ) (read : Reader τ) : Fields α :=
  .field before key (some fallback) read

/-- The number of fields. -/
def size {α : Type} : Fields α → Nat
  | .done _ => 0
  | .field before _ _ _ => before.size + 1

/-- Whether a key names a field. -/
def has {α : Type} (key : String) : Fields α → Bool
  | .done _ => false
  | .field before k _ _ => k == key || before.has key

/-! ## Slots -/

/-- The values of the fields that have been read. -/
def Slots {α : Type} : Fields α → Type
  | .done _ => Unit
  | @field τ _ before _ _ _ => before.Slots × Option τ

/-- Slots before anything is read. -/
def unread {α : Type} : (fs : Fields α) → fs.Slots
  | .done _ => ()
  | .field before _ _ _ => (before.unread, none)

/-- The slots with the value of the field `key`, which must not have been read before. -/
def fill {α : Type} (depth : Nat) (key : String) (t : Tree) : (fs : Fields α) → fs.Slots → Except Error fs.Slots
  | .done _ => fun slots => .ok slots
  | .field before k _ read => fun ((slots, x) : before.Slots × Option _) =>
    if k = key then
      match x with
      | some _ => .error (.duplicateField key)
      | none => do
        let v ← read depth t
        return (slots, some v)
    else do
      let slots ← before.fill depth key t slots
      return (slots, x)

/-- The record of the slots, or the first field that has neither a value nor a default. -/
def finish {α : Type} : (fs : Fields α) → fs.Slots → Except String α
  | .done make => fun _ => .ok make
  | .field before key fallback _ => fun ((slots, x) : before.Slots × Option _) => do
    let make ← before.finish slots
    match x.or fallback with
    | some v => return make v
    | none => .error key

/-! ## The two forms of a record -/

/-- The slots with the members of an object. -/
def fillMembers {α : Type} (fs : Fields α) (depth : Nat) : List (Tree × Tree) → fs.Slots → Except Error fs.Slots
  | [], slots => .ok slots
  | (k, t) :: ms, slots => do
    let key ← memberKey k
    let slots ← if fs.has key then fs.fill depth key t slots else (skip t).map fun _ => slots
    fs.fillMembers depth ms slots

/-- The slots with the items of an array, and the items that are left. -/
def fillItems {α : Type} (wanted : String) (depth : Nat) (items : List Tree) (fault : Option Fault) :
    (fs : Fields α) → Except Error (fs.Slots × List Tree)
  | .done _ => .ok ((), items)
  | .field before _ fallback read => do
    let (slots, items) ← before.fillItems wanted depth items fault
    match items with
    | t :: items =>
      let v ← read depth t
      return ((slots, some v), items)
    | [] =>
      checkFault fault
      if fallback.isNone then .error (.invalidLength before.size wanted) else return ((slots, none), [])

/-- How a message names a record of several fields. -/
def counted {α : Type} (name : String) (fs : Fields α) : String :=
  "struct " ++ name ++ " with " ++ toString fs.size ++ (if fs.size = 1 then " element" else " elements")

/-- The record of filled slots. -/
def complete {α : Type} (fs : Fields α) (slots : fs.Slots) : Except Error α :=
  (fs.finish slots).mapError .missingField

end Fields

/-- A record with a name for messages. -/
def record {α : Type} (name : String) (fs : Fields α) : Reader α
  | depth, .object members fault => do
    openContainer depth
    let slots ← fs.fillMembers (depth + 1) members fs.unread
    checkFault fault
    fs.complete slots
  | depth, .array items fault => do
    openContainer depth
    let (slots, items) ← fs.fillItems (fs.counted name) (depth + 1) items fault
    if items.isEmpty then checkFault fault else .error (.fault .malformed)
    fs.complete slots
  | _, t => refuse ("struct " ++ name) t

end SchemaClasses.Json
