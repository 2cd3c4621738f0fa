import SchemaClasses.Text.Grapheme.Tables

/-!
# Grapheme clusters

`clusters` divides a text into user-perceived characters: a line break of two characters, a letter with its marks, a
Hangul syllable, a flag or a joined pictograph is one cluster. Whether two neighbours belong together depends on what
stands before them, which `Left` keeps.
-/

namespace SchemaClasses.Text.Grapheme

/-- How a character takes part in clusters. -/
inductive Kind where
  | carriageReturn
  | lineFeed
  | control
  | extend
  | linker
  | nonJoiner
  | joiner
  | spacing
  | prepend
  | regional
  | leading
  | vowel
  | trailing
  | syllable
  | closedSyllable
  | pictograph
  | consonant
  | other
deriving DecidableEq

/-- The kind of a character. -/
def kind (c : Char) : Kind :=
  let n := c.toNat
  if n < 0x80 then
    if n = 13 then .carriageReturn else if n = 10 then .lineFeed else if n < 32 ∨ n = 127 then .control else .other
  else if n = 0x200C then .nonJoiner
  else if n = 0x200D then .joiner
  else if 0x1F1E6 ≤ n ∧ n ≤ 0x1F1FF then .regional
  else if inRanges [(0x1100, 0x115F), (0xA960, 0xA97C)] c then .leading
  else if inRanges [(0x1160, 0x11A7), (0xD7B0, 0xD7C6), (0x16D63, 0x16D63), (0x16D67, 0x16D6A)] c then .vowel
  else if inRanges [(0x11A8, 0x11FF), (0xD7CB, 0xD7FB)] c then .trailing
  else if 0xAC00 ≤ n ∧ n ≤ 0xD7A3 then if (n - 0xAC00) % 28 = 0 then .syllable else .closedSyllable
  else if inRanges linkerRanges c then .linker
  else if inRanges extendRanges c then .extend
  else if inRanges spacingRanges c then .spacing
  else if inRanges prependRanges c then .prepend
  else if inRanges pictographRanges c then .pictograph
  else if inRanges consonantRanges c then .consonant
  else if inRanges controlRanges c then .control
  else .other

/-- What the characters before a place say about it. -/
structure Left where
  /-- The kind of the last character; none at the start of the text. -/
  last : Option Kind := none
  /-- An odd number of regional indicators ends here. -/
  halfFlag : Bool := false
  /-- A pictograph and its marks end here. -/
  pictograph : Bool := false
  /-- A pictograph, its marks and a joiner end here. -/
  pictographJoined : Bool := false
  /-- A consonant and its marks end here. -/
  consonant : Bool := false
  /-- A consonant and its marks end here, a linker among them. -/
  consonantLinked : Bool := false

/-- The kinds that end a cluster on both sides. -/
def Kind.isBreak (k : Kind) : Bool := k = .carriageReturn || k = .lineFeed || k = .control

/-- The marks of a pictograph. -/
def Kind.isMark (k : Kind) : Bool := k = .extend || k = .linker || k = .nonJoiner

/-- What stands before the place behind a character of kind `k`. -/
def Left.next (left : Left) (k : Kind) : Left where
  last := some k
  halfFlag := k = .regional && !left.halfFlag
  pictograph := k = .pictograph || (left.pictograph && k.isMark)
  pictographJoined := left.pictograph && k = .joiner
  consonant := k = .consonant || (left.consonant && (k = .extend || k = .joiner || k = .linker))
  consonantLinked :=
    (left.consonant && k = .linker) || (left.consonantLinked && (k = .extend || k = .joiner))

/-- Whether a character of kind `k` belongs to the cluster before it. -/
def Left.joins (left : Left) (k : Kind) : Bool :=
  match left.last with
  | none => false
  | some .carriageReturn => k = .lineFeed
  | some last =>
    if last.isBreak || k.isBreak then false
    else if k.isMark || k = .joiner || k = .spacing || last = .prepend then true
    else
      match last, k with
      | .leading, .leading | .leading, .vowel | .leading, .syllable | .leading, .closedSyllable => true
      | .syllable, .vowel | .syllable, .trailing | .vowel, .vowel | .vowel, .trailing => true
      | .closedSyllable, .trailing | .trailing, .trailing => true
      | _, .consonant => left.consonantLinked
      | _, .pictograph => left.pictographJoined
      | _, .regional => left.halfFlag
      | _, _ => false

/-- The rest of the cluster that `left` is in, and the clusters behind it. -/
def clustersAfter (left : Left) : List Char → List Char × List (List Char)
  | [] => ([], [])
  | c :: cs =>
    let (more, others) := clustersAfter (left.next (kind c)) cs
    if left.joins (kind c) then (c :: more, others) else ([], (c :: more) :: others)

/-- The clusters of a text. -/
def clusters (cs : List Char) : List (List Char) := (clustersAfter {} cs).2

end SchemaClasses.Text.Grapheme
