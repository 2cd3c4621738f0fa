import SchemaClasses.Json.Tree
import SchemaClasses.Text.Escaped

/-!
# Reading JSON trees as data

A `Reader` turns a tree into a value of some type or says why it cannot. Readers walk the tree in the order of the
text, so of several problems the first one is reported; what a reader refuses by its kind alone it does not look into.
A document may open 127 containers inside each other where it is read; parts that are passed over (`skip`) have no
such limit and may hold numbers and surrogates that no reader accepts.
-/

namespace SchemaClasses.Json

/-! ## Errors -/

/-- What a reader found in place of what it wanted. -/
inductive Found where
  | null
  | bool (b : Bool)
  | number (n : Number)
  | string (s : String)
  | sequence
  | map

/-- Why a tree cannot be read. -/
inductive Error where
  | fault (f : Fault)
  | invalidType (found : Found) (wanted : String)
  | unknownVariant (name : String) (variants : List String)
  | noVariant (union : String)
  | missingField (name : String)
  | duplicateField (name : String)
  | invalidLength (length : Nat) (wanted : String)

/-- How a message names what was found. -/
def Found.text : Found → String
  | .null => "null"
  | .bool b => "boolean `" ++ toString b ++ "`"
  | .number (.integer n) => "integer `" ++ toString n ++ "`"
  | .number n => "floating point `" ++ n.text ++ "`"
  | .string s => "string " ++ Text.escaped s
  | .sequence => "sequence"
  | .map => "map"

/-- The message of a problem with the shape of a document. -/
def Error.message : Error → String
  | .fault .malformed => "malformed document"
  | .fault .ended => "unexpected end of document"
  | .invalidType found wanted => "invalid type: " ++ found.text ++ ", expected " ++ wanted
  | .unknownVariant name variants =>
    "unknown variant `" ++ name ++ "`, expected one of "
      ++ ", ".intercalate (variants.map fun v => "`" ++ v ++ "`")
  | .noVariant union => "data did not match any variant of untagged enum " ++ union
  | .missingField name => "missing field `" ++ name ++ "`"
  | .duplicateField name => "duplicate field `" ++ name ++ "`"
  | .invalidLength length wanted => "invalid length " ++ toString length ++ ", expected " ++ wanted

/-! ## Readers -/

/-- A way to read a tree that stands inside a number of open containers. -/
abbrev Reader (α : Type) := Nat → Tree → Except Error α

/-- A fault, if there is one. -/
def checkFault : Option Fault → Except Error Unit
  | none => .ok ()
  | some f => .error (.fault f)

/-- One more container may be open. -/
def openContainer (depth : Nat) : Except Error Unit := if depth < 127 then .ok () else .error (.fault .malformed)

/-- The text of a string literal. -/
def literalText (s : Spelling) : Except Error String := s.text.mapError .fault

/-- The value of a number. -/
def numberValue (n : Numeral) : Except Error Number :=
  match n.value with
  | some v => .ok v
  | none => .error (.fault .malformed)

/-- The refusal of a tree where something else is wanted. -/
def refuse {α : Type} (wanted : String) : Tree → Except Error α
  | .broken f => .error (.fault f)
  | .cutNumber | .cutWord => .error (.fault .ended)
  | .null => .error (.invalidType .null wanted)
  | .bool b => .error (.invalidType (.bool b) wanted)
  | .number n => do
    let v ← numberValue n
    .error (.invalidType (.number v) wanted)
  | .string s => do
    let text ← literalText s
    .error (.invalidType (.string text) wanted)
  | .array _ _ => .error (.invalidType .sequence wanted)
  | .object _ _ => .error (.invalidType .map wanted)

/-- A text; `wanted` is its name in a message. -/
def textAs (wanted : String) : Reader String
  | _, .string s => literalText s
  | _, t => refuse wanted t

/-- A text. -/
def text : Reader String := textAs "a string"

/-- A truth value. -/
def flag : Reader Bool
  | _, .bool b => .ok b
  | _, t => refuse "a boolean" t

/-- What `read` reads, or nothing for `null`. -/
def optional {α : Type} (read : Reader α) : Reader (Option α)
  | _, .null => .ok none
  | depth, t => (read depth t).map some

/-- Each item of an array in order. -/
def readEach {α : Type} (read : Reader α) (depth : Nat) : List Tree → Except Error (List α)
  | [] => .ok []
  | t :: ts => do
    let a ← read depth t
    let as ← readEach read depth ts
    return a :: as

/-- A list. -/
def sequence {α : Type} (read : Reader α) : Reader (List α)
  | depth, .array items fault => do
    openContainer depth
    let as ← readEach read (depth + 1) items
    checkFault fault
    return as
  | _, t => refuse "a sequence" t

/-- The key of a member. -/
def memberKey : Tree → Except Error String
  | .string s => literalText s
  | .broken f => .error (.fault f)
  | _ => .error (.fault .malformed)

/-- Each member of an object in order. -/
def readMembersAs {α : Type} (read : Reader α) (depth : Nat) :
    List (Tree × Tree) → Except Error (List (String × α))
  | [] => .ok []
  | (k, t) :: ms => do
    let key ← memberKey k
    let a ← read depth t
    let rest ← readMembersAs read depth ms
    return (key, a) :: rest

/-- A dictionary; of two values for one key the later holds. -/
def dictionary {α : Type} (read : Reader α) : Reader (Dictionary α)
  | depth, .object members fault => do
    openContainer depth
    let es ← readMembersAs read (depth + 1) members
    checkFault fault
    return Dictionary.ofList es
  | _, t => refuse "a map" t

mutual

/-- Any value. -/
def value (depth : Nat) : Tree → Except Error Value
  | .null => .ok .null
  | .bool b => .ok (.bool b)
  | .number n => do
    let v ← numberValue n
    return .number v
  | .string s => do
    let text ← literalText s
    return .string text
  | .array items fault => do
    openContainer depth
    let vs ← values (depth + 1) items
    checkFault fault
    return .array vs
  | .object members fault => do
    openContainer depth
    let ms ← memberValues (depth + 1) members
    checkFault fault
    return .object ms
  | .broken f => .error (.fault f)
  | .cutNumber | .cutWord => .error (.fault .ended)

/-- The values of a list of trees. -/
def values (depth : Nat) : List Tree → Except Error (List Value)
  | [] => .ok []
  | t :: ts => do
    let v ← value depth t
    let vs ← values depth ts
    return v :: vs

/-- The values of members. -/
def memberValues (depth : Nat) : List (Tree × Tree) → Except Error (List (String × Value))
  | [] => .ok []
  | (k, t) :: ms => do
    let key ← memberKey k
    let v ← value depth t
    let rest ← memberValues depth ms
    return (key, v) :: rest

end

mutual

/-- Passes over a value of any form. -/
def skip : Tree → Except Error Unit
  | .null | .bool _ | .number _ => .ok ()
  | .string s => checkFault s.fault
  | .array items fault => do
    skipItems items
    checkFault fault
  | .object members fault => do
    skipMembers members
    checkFault fault
  | .broken f => .error (.fault f)
  | .cutNumber => .error (.fault .malformed)
  | .cutWord => .error (.fault .ended)

/-- Passes over a list of values. -/
def skipItems : List Tree → Except Error Unit
  | [] => .ok ()
  | t :: ts => do
    skip t
    skipItems ts

/-- Passes over members. -/
def skipMembers : List (Tree × Tree) → Except Error Unit
  | [] => .ok ()
  | (k, t) :: ms => do
    match k with
    | .string s => checkFault s.fault
    | .broken f => .error (.fault f)
    | _ => .error (.fault .malformed)
    skip t
    skipMembers ms

end

/-- A whole text: only blanks may follow the value. -/
def decode {α : Type} (read : Reader α) (text : String) : Except Error α := do
  let (t, more) := Tree.read text.toList
  let a ← read 0 t
  if more then .error (.fault .malformed) else return a

end SchemaClasses.Json
