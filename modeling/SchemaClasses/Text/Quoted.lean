import SchemaClasses.Text.CodePoint

/-!
# Single-quoted literals

`Quoted.encode` writes the body of a single-quoted TypeScript literal: quotes and backslashes get a backslash, line
breaks and ASCII controls an escape, so the literal stays on one line. `Quoted.decode` reads a body by the rules of the
language: besides the escapes that `encode` writes, any other character behind a backslash stands for itself or for
its control. A quote or line break that stands alone ends the literal, so no body holds one.
-/

namespace SchemaClasses.Text
namespace Quoted

/-- A character of a literal. -/
def encodeChar (c : Char) : List Char :=
  match c with
  | '\\' => ['\\', '\\']
  | '\'' => ['\\', '\'']
  | '\n' => ['\\', 'n']
  | '\r' => ['\\', 'r']
  | '\t' => ['\\', 't']
  | '\u2028' => ['\\', 'u', '2', '0', '2', '8']
  | '\u2029' => ['\\', 'u', '2', '0', '2', '9']
  | c =>
    if c.toNat < 32 ∨ c.toNat = 127 then ['\\', 'x', hexDigit (c.toNat / 16), hexDigit (c.toNat % 16)] else [c]

/-- The body of the literal of a text. -/
def encode (cs : List Char) : List Char := cs.flatMap encodeChar

/-- The character that a letter behind a backslash stands for. -/
def escapedChar : Char → Char
  | 'n' => '\n'
  | 'r' => '\r'
  | 't' => '\t'
  | 'b' => '\x08'
  | 'f' => '\x0c'
  | 'v' => '\x0b'
  | c => c

/-- Whether a character ends a line. -/
def isLineBreak (c : Char) : Bool := c = '\n' || c = '\r' || c = '\u2028' || c = '\u2029'

/-- Whether a character behind a backslash is the start of a number, or of nothing that a body may hold. -/
def isClosed (c : Char) : Bool := c = 'x' || c = 'u' || c.isDigit || isLineBreak c

/-- The text of a body; none if the body ends early or holds an escape that is none. -/
def decode : List Char → Option (List Char)
  | [] => some []
  | '\\' :: [] => none
  | '\\' :: 'x' :: a :: b :: cs => do
    let c ← (ofHex? [a, b]).bind charOf?
    let rest ← decode cs
    return c :: rest
  | '\\' :: 'u' :: a :: b :: c :: d :: cs => do
    let c ← (ofHex? [a, b, c, d]).bind charOf?
    let rest ← decode cs
    return c :: rest
  | '\\' :: e :: cs => if isClosed e then none else (decode cs).map (escapedChar e :: ·)
  | c :: cs => if c = '\'' || isLineBreak c then none else (decode cs).map (c :: ·)

end Quoted

/-- The single-quoted literal of a text. -/
def quoted (s : String) : String := String.ofList ('\'' :: Quoted.encode s.toList ++ ['\''])

end SchemaClasses.Text
