import SchemaClasses.Text.CodePoint

/-!
# Blank characters

The characters that leave a blank or end a line, and `trim`, which cuts them off both ends of a text.
-/

namespace SchemaClasses.Text

/-- Whether a character is a blank or ends a line. -/
def isBlank (c : Char) : Bool :=
  inRanges [(0x9, 0xD), (0x20, 0x20), (0x85, 0x85), (0xA0, 0xA0), (0x1680, 0x1680), (0x2000, 0x200A),
    (0x2028, 0x2029), (0x202F, 0x202F), (0x205F, 0x205F), (0x3000, 0x3000)] c

/-- A text without the blanks at its ends. -/
def trim (s : String) : String :=
  String.ofList ((s.toList.dropWhile isBlank).reverse.dropWhile isBlank).reverse

end SchemaClasses.Text
