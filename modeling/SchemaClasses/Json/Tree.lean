import SchemaClasses.Json.Value

/-!
# JSON texts as trees

`Tree.read` turns any text into a tree that keeps what the text spells, up to the place where it stops being JSON: a
**fault** stands in the tree where the text breaks off, so whoever walks the tree in order meets the faults in the
order of the text. What only some readers object to (half of a surrogate pair, a number out of range) is kept as
spelled: `Spelling.text` and `Numeral.value` decide.
-/

namespace SchemaClasses.Json

/-- Why a text is not JSON. -/
inductive Fault where
  /-- Some character cannot stand where it stands. -/
  | malformed
  /-- The text ends inside a value. -/
  | ended
deriving DecidableEq

/-! ## Spelled strings and numbers -/

/-- A piece of a string literal: a character, or a UTF-16 unit written in hexadecimal. -/
inductive Piece where
  | char (c : Char)
  | unit (n : Nat)
deriving DecidableEq

/-- A string literal up to its closing quote or to a fault. -/
structure Spelling where
  pieces : List Piece
  fault : Option Fault
deriving DecidableEq

/-- A number as spelled. -/
structure Numeral where
  negative : Bool
  whole : List Char
  fraction : Option (List Char)
  exponent : Option (Bool × List Char)
deriving DecidableEq

/-- Whether a UTF-16 unit opens a surrogate pair. -/
def isHigh (n : Nat) : Bool := 0xD800 ≤ n && n < 0xDC00

/-- Whether a UTF-16 unit closes a surrogate pair. -/
def isLow (n : Nat) : Bool := 0xDC00 ≤ n && n < 0xE000

/-- The characters of pieces; half of a surrogate pair is malformed. -/
def charactersOf (fault : Option Fault) : List Piece → Except Fault (List Char)
  | [] =>
    match fault with
    | some f => .error f
    | none => .ok []
  | .char c :: ps => do
    let cs ← charactersOf fault ps
    return c :: cs
  | .unit n :: ps =>
    if isLow n then .error .malformed
    else if isHigh n then
      match ps with
      | .unit m :: ps =>
        if isLow m then do
          let cs ← charactersOf fault ps
          return Char.ofNat (0x10000 + (n - 0xD800) * 0x400 + (m - 0xDC00)) :: cs
        else .error .malformed
      | .char _ :: _ => .error .malformed
      | [] => .error (fault.getD .malformed)
    else do
      let cs ← charactersOf fault ps
      return Char.ofNat n :: cs

/-- The text of a string literal. -/
def Spelling.text (s : Spelling) : Except Fault String := (charactersOf s.fault s.pieces).map String.ofList

/-- The number that digits write. -/
def digitsValue (ds : List Char) : Nat := ds.foldl (fun n d => 10 * n + (d.toNat - 48)) 0

/-- The digits taken up while the number stays below `2 ^ 64`, and how many digits are left. -/
def accumulate (n : Nat) : List Char → Nat × Nat
  | [] => (n, 0)
  | d :: ds =>
    let m := 10 * n + (d.toNat - 48)
    if m < Nat.pow 2 64 then accumulate m ds else (n, ds.length + 1)

/-- The number `f * 10 ^ e`, by steps that are each rounded; nothing beyond the largest binary fraction. -/
def scaleFrom : Nat → Binary → Int → Option Binary
  | 0, f, _ => some f
  | steps + 1, f, e =>
    if e.natAbs ≤ 308 then do
      let power ← Binary.ofNat (Nat.pow 10 e.natAbs)
      if 0 ≤ e then f.mul power else f.div power
    else if f.isZero then some f
    else if 0 ≤ e then none
    else do
      let power ← Binary.ofNat (Nat.pow 10 308)
      let f ← f.div power
      scaleFrom steps f (e + 308)

/-- The value of a number, unless it is out of range. Integers of 64 bits are exact. Of any other number the leading
digits that fit 64 bits count; they are scaled by the power of ten that the rest of the spelling gives. -/
def Numeral.value (n : Numeral) : Option Number :=
  let (s, dropped) := accumulate 0 n.whole
  if n.fraction = none ∧ n.exponent = none ∧ dropped = 0 ∧ (n.negative = false ∨ (0 < s ∧ s ≤ Nat.pow 2 63)) then
    some (.integer (if n.negative then -(s : Int) else s))
  else
    let (s, places) :=
      match n.fraction with
      | none => (s, 0)
      | some ds =>
        let (s, unused) := accumulate s ds
        (s, ds.length - unused)
    let e : Int :=
      match n.exponent with
      | none => 0
      | some (true, ds) => -(digitsValue ds : Int)
      | some (false, ds) => digitsValue ds
    ((Binary.ofNat s).bind fun f => scaleFrom 5 f (dropped - places + e)).map (.fraction n.negative)

/-! ## Trees -/

/-- What a text spells. An array or object keeps the fault that ends it instead of its closing bracket. A key is a
tree too, for it may be no string. -/
inductive Tree where
  | null
  | bool (b : Bool)
  | number (n : Numeral)
  | string (s : Spelling)
  | array (items : List Tree) (fault : Option Fault)
  | object (members : List (Tree × Tree)) (fault : Option Fault)
  /-- The text breaks off here. -/
  | broken (f : Fault)
  /-- The text ends inside a number. -/
  | cutNumber
  /-- The text ends inside a keyword. -/
  | cutWord

/-! ## Reading -/

/-- The characters that may stand between the parts of a text. -/
def isBlank (c : Char) : Bool := c = ' ' || c = '\t' || c = '\n' || c = '\r'

/-- A text without the blanks it opens with. -/
def skipBlanks (cs : List Char) : List Char := cs.dropWhile isBlank

/-- The character that a letter behind a backslash stands for. -/
def unescape? : Char → Option Char
  | '"' => some '"'
  | '\\' => some '\\'
  | '/' => some '/'
  | 'b' => some '\x08'
  | 'f' => some '\x0c'
  | 'n' => some '\n'
  | 'r' => some '\r'
  | 't' => some '\t'
  | _ => none

/-- The number of bytes of characters in UTF-8. -/
def byteLength (cs : List Char) : Nat := cs.foldr (fun c n => c.utf8Size + n) 0

/-- A string literal behind its opening quote, and the text behind its closing quote. -/
def readString : List Char → Spelling × List Char
  | [] => (⟨[], some .ended⟩, [])
  | '"' :: cs => (⟨[], none⟩, cs)
  | '\\' :: [] => (⟨[], some .ended⟩, [])
  | '\\' :: 'u' :: a :: b :: c :: d :: cs =>
    match Text.ofHex? [a, b, c, d] with
    | some n =>
      let (s, rest) := readString cs
      (⟨.unit n :: s.pieces, s.fault⟩, rest)
    | none => (⟨[], some .malformed⟩, [])
  | '\\' :: 'u' :: cs => (⟨[], some (if byteLength cs < 4 then .ended else .malformed)⟩, [])
  | '\\' :: e :: cs =>
    match unescape? e with
    | some c =>
      let (s, rest) := readString cs
      (⟨.char c :: s.pieces, s.fault⟩, rest)
    | none => (⟨[], some .malformed⟩, [])
  | c :: cs =>
    if c.toNat < 32 then (⟨[], some .malformed⟩, [])
    else
      let (s, rest) := readString cs
      (⟨.char c :: s.pieces, s.fault⟩, rest)

/-- The digits at the start of a text, and the rest. -/
def readDigits (cs : List Char) : List Char × List Char := (cs.takeWhile Char.isDigit, cs.dropWhile Char.isDigit)

/-- A number that lacks a digit before `rest`. -/
def lacksDigit (rest : List Char) : Tree × Option (List Char) :=
  (if rest.isEmpty then .cutNumber else .broken .malformed, none)

/-- The exponent of a number, and the number. -/
def readExponent (n : Numeral) (cs : List Char) : Tree × Option (List Char) :=
  match cs with
  | e :: rest =>
    if e = 'e' ∨ e = 'E' then
      let (negative, rest) :=
        match rest with
        | '-' :: rest => (true, rest)
        | '+' :: rest => (false, rest)
        | rest => (false, rest)
      match readDigits rest with
      | ([], rest) => lacksDigit rest
      | (ds, rest) => (.number { n with exponent := some (negative, ds) }, some rest)
    else (.number n, some cs)
  | [] => (.number n, some [])

/-- The fraction of a number, and the number. -/
def readFraction (n : Numeral) (cs : List Char) : Tree × Option (List Char) :=
  match cs with
  | '.' :: rest =>
    match readDigits rest with
    | ([], rest) => lacksDigit rest
    | (ds, rest) => readExponent { n with fraction := some ds } rest
  | cs => readExponent n cs

/-- A number behind its sign. -/
def readNumber (negative : Bool) (cs : List Char) : Tree × Option (List Char) :=
  match readDigits cs with
  | ([], rest) => lacksDigit rest
  | ('0' :: _ :: _, _) => (.broken .malformed, none)
  | (ds, rest) => readFraction ⟨negative, ds, none, none⟩ rest

/-- A keyword letter by letter. -/
def readWord (t : Tree) : List Char → List Char → Tree × Option (List Char)
  | [], cs => (t, some cs)
  | _ :: _, [] => (.cutWord, none)
  | w :: ws, c :: cs => if w = c then readWord t ws cs else (.broken .malformed, none)

/-- A string literal as a tree. -/
def readText (cs : List Char) : Tree × Option (List Char) :=
  let (s, rest) := readString cs
  (.string s, if s.fault.isSome then none else some rest)

mutual

/-- The value at the start of a text, and the text behind it unless the value breaks off. Each step takes one of the
`steps`. -/
def readValue (steps : Nat) (cs : List Char) : Tree × Option (List Char) :=
  match steps with
  | 0 => (.broken .ended, none)
  | steps + 1 =>
    match skipBlanks cs with
    | [] => (.broken .ended, none)
    | '"' :: cs => readText cs
    | '[' :: cs =>
      match skipBlanks cs with
      | ']' :: cs => (.array [] none, some cs)
      | [] => (.array [] (some .ended), none)
      | cs =>
        let (items, fault, rest) := readItems steps cs
        (.array items fault, rest)
    | '\x7b' :: cs =>
      match skipBlanks cs with
      | '\x7d' :: cs => (.object [] none, some cs)
      | [] => (.object [] (some .ended), none)
      | cs =>
        let (members, fault, rest) := readMembers steps cs
        (.object members fault, rest)
    | '-' :: cs => readNumber true cs
    | 'n' :: cs => readWord .null ['u', 'l', 'l'] cs
    | 't' :: cs => readWord (.bool true) ['r', 'u', 'e'] cs
    | 'f' :: cs => readWord (.bool false) ['a', 'l', 's', 'e'] cs
    | c :: cs => if c.isDigit then readNumber false (c :: cs) else (.broken .malformed, none)

/-- The items of an array up to its closing bracket. -/
def readItems (steps : Nat) (cs : List Char) : List Tree × Option Fault × Option (List Char) :=
  match steps with
  | 0 => ([], some .ended, none)
  | steps + 1 =>
    match readValue steps cs with
    | (t, none) => ([t], none, none)
    | (t, some rest) =>
      match skipBlanks rest with
      | ']' :: rest => ([t], none, some rest)
      | ',' :: rest =>
        let (ts, fault, rest) := readItems steps rest
        (t :: ts, fault, rest)
      | [] => ([t], some .ended, none)
      | _ => ([t], some .malformed, none)

/-- The members of an object up to its closing bracket. -/
def readMembers (steps : Nat) (cs : List Char) : List (Tree × Tree) × Option Fault × Option (List Char) :=
  match steps with
  | 0 => ([], some .ended, none)
  | steps + 1 =>
    match skipBlanks cs with
    | '"' :: cs =>
      match readText cs with
      | (key, none) => ([(key, .broken .ended)], none, none)
      | (key, some rest) =>
        match skipBlanks rest with
        | ':' :: rest =>
          match readValue steps rest with
          | (t, none) => ([(key, t)], none, none)
          | (t, some rest) =>
            match skipBlanks rest with
            | '\x7d' :: rest => ([(key, t)], none, some rest)
            | ',' :: rest =>
              let (ms, fault, rest) := readMembers steps rest
              ((key, t) :: ms, fault, rest)
            | [] => ([(key, t)], some .ended, none)
            | _ => ([(key, t)], some .malformed, none)
        | [] => ([(key, .broken .ended)], none, none)
        | _ => ([(key, .broken .malformed)], none, none)
    | cs => ([((readValue steps cs).1, .broken .ended)], none, none)

end

/-- A text as a tree, and whether anything but blanks follows the value. -/
def Tree.read (cs : List Char) : Tree × Bool :=
  match readValue (2 * cs.length + 2) cs with
  | (t, none) => (t, false)
  | (t, some rest) => (t, !(skipBlanks rest).isEmpty)

end SchemaClasses.Json
