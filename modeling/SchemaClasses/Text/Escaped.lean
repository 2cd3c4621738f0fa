import SchemaClasses.Text.Escaped.Tables

/-!
# Quoted text in messages

`escaped` quotes a text so that every character of it shows: line breaks, tabs, quotes and backslashes get a
backslash, other characters that do not show are written by code point.
-/

namespace SchemaClasses.Text

/-- Whether a character is written by its code point. -/
def Escaped.isHidden (c : Char) : Bool :=
  if c.toNat < 0x80 then c.toNat < 32 || c.toNat = 127 else inRanges Escaped.hiddenRanges c

/-- The hexadecimal digits of a number, in lower case. -/
def hexDigits (n : Nat) : List Char := Nat.toDigits 16 n

/-- A character of a quoted text. -/
def Escaped.char (c : Char) : List Char :=
  match c with
  | '\x00' => ['\\', '0']
  | '\t' => ['\\', 't']
  | '\n' => ['\\', 'n']
  | '\r' => ['\\', 'r']
  | '"' => ['\\', '"']
  | '\\' => ['\\', '\\']
  | c => if Escaped.isHidden c then ['\\', 'u', '\x7b'] ++ hexDigits c.toNat ++ ['\x7d'] else [c]

/-- A text between double quotes. -/
def escaped (s : String) : String := String.ofList ('"' :: s.toList.flatMap Escaped.char ++ ['"'])

end SchemaClasses.Text
