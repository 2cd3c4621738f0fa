import SchemaClasses.Text.Casing.Tables

/-!
# Letter case

`upper` and `lower` give the other case of one character, which may be several characters (`ß` is `SS` in upper
case). A capital sigma is the one letter whose lower case depends on its neighbours: it is final at the end of a word
(`lowercase`). ASCII goes by rule, all else by table.
-/

namespace SchemaClasses.Text
namespace Casing

/-- The case of `c` that the runs list, or `c`. -/
def shifted (runs : List Run) (c : Char) : Char :=
  match runs.find? fun r => r.first ≤ c.toNat && c.toNat ≤ r.last && (c.toNat - r.first) % r.step == 0 with
  | some r => Char.ofNat (c.toNat + r.shift).toNat
  | none => c

/-- Whether a character has a case. -/
def cased (c : Char) : Bool := if c.toNat < 0x80 then c.isAlpha else inRanges casedRanges c

/-- Whether a search for a neighbouring cased letter passes over a character. -/
def ignorable (c : Char) : Bool :=
  if c.toNat < 0x80 then ['\'', '.', ':', '^', '\x60'].contains c else inRanges ignorableRanges c

/-- Whether the first character that is not passed over has a case. -/
def meetsCased (cs : List Char) : Bool := ((cs.dropWhile ignorable).head?.map cased).getD false

end Casing

/-- The lower case of a character by itself. -/
def lower (c : Char) : List Char :=
  if c.toNat < 0x80 then [c.toLower]
  else if c = 'İ' then ['i', '\u0307']
  else [Casing.shifted Casing.lowerRuns c]

/-- The upper case of a character. -/
def upper (c : Char) : List Char :=
  if c.toNat < 0x80 then [c.toUpper]
  else
    match Casing.upperExpansions.lookup c.toNat with
    | some cs => cs.map Char.ofNat
    | none => [Casing.shifted Casing.upperRuns c]

/-- The lower case of a text that follows `before`, the nearest character first. -/
def lowercaseAfter (before : List Char) : List Char → List Char
  | [] => []
  | c :: cs =>
    let here :=
      if c = 'Σ' then [if Casing.meetsCased before && !Casing.meetsCased cs then 'ς' else 'σ'] else lower c
    here ++ lowercaseAfter (c :: before) cs

/-- The lower case of a text. -/
def lowercase (cs : List Char) : List Char := lowercaseAfter [] cs

/-- The upper case of a text. -/
def uppercase (cs : List Char) : List Char := cs.flatMap upper

/-- A text with its first character in upper case. -/
def capitalize (s : String) : String :=
  match s.toList with
  | [] => ""
  | c :: cs => String.ofList (upper c ++ cs)

end SchemaClasses.Text
