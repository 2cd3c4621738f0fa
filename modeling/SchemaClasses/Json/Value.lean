import SchemaClasses.Decimal.Shortest
import SchemaClasses.Ordered.Dictionary
import SchemaClasses.Text.CodePoint

/-!
# JSON values

A `Value` is what a JSON text says. Integers of 64 bits are exact, every other number is a binary fraction.
`Value.canonical` gives each object its keys in order and once; `Value.compact` writes a value without blanks.
-/

namespace SchemaClasses.Json

/-- A number: an exact integer or a binary fraction with a sign. -/
inductive Number where
  | integer (n : Int)
  | fraction (negative : Bool) (magnitude : Binary)
deriving DecidableEq

/-- A value; an object lists its members as written. -/
inductive Value where
  | null
  | bool (b : Bool)
  | number (n : Number)
  | string (s : String)
  | array (items : List Value)
  | object (members : List (String × Value))

/-! ## Writing -/

/-- The text of a number. -/
def Number.text : Number → String
  | .integer n => toString n
  | .fraction true m => "-" ++ m.text
  | .fraction false m => m.text

/-- A character of a string literal, escaped only where it has to be. -/
def escape (c : Char) : List Char :=
  match c with
  | '"' => ['\\', '"']
  | '\\' => ['\\', '\\']
  | '\x08' => ['\\', 'b']
  | '\t' => ['\\', 't']
  | '\n' => ['\\', 'n']
  | '\x0c' => ['\\', 'f']
  | '\r' => ['\\', 'r']
  | c =>
    if c.toNat < 32 then ['\\', 'u', '0', '0', Text.hexDigit (c.toNat / 16), Text.hexDigit (c.toNat % 16)]
    else [c]

/-- A string literal. -/
def quote (s : String) : String := String.ofList ('"' :: s.toList.flatMap escape ++ ['"'])

mutual

/-- The value with the members of every object sorted by key; of two with one key the later stays. -/
def Value.canonical : Value → Value
  | .array items => .array (canonicalItems items)
  | .object members => .object (Dictionary.ofList (canonicalMembers members)).entries
  | v => v

/-- The canonical forms of a list of values. -/
def canonicalItems : List Value → List Value
  | [] => []
  | v :: vs => v.canonical :: canonicalItems vs

/-- Members with canonical values. -/
def canonicalMembers : List (String × Value) → List (String × Value)
  | [] => []
  | (k, v) :: ms => (k, v.canonical) :: canonicalMembers ms

end

mutual

/-- The text of a value, without blanks. -/
def Value.compact : Value → String
  | .null => "null"
  | .bool b => toString b
  | .number n => n.text
  | .string s => quote s
  | .array items => "[" ++ ",".intercalate (compactItems items) ++ "]"
  | .object members => "\x7b" ++ ",".intercalate (compactMembers members) ++ "\x7d"

/-- The texts of a list of values. -/
def compactItems : List Value → List String
  | [] => []
  | v :: vs => v.compact :: compactItems vs

/-- The texts of members. -/
def compactMembers : List (String × Value) → List String
  | [] => []
  | (k, v) :: ms => (quote k ++ ":" ++ v.compact) :: compactMembers ms

end

end SchemaClasses.Json
