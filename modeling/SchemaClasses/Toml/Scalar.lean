import SchemaClasses.Decimal.Binary
import SchemaClasses.Text.CodePoint

/-!
# TOML scalars

The lexical rules of TOML: blanks and comments, the four kinds of strings, and which plain words are truth values,
numbers, dates and times. Each reader takes a text and gives what it read together with the rest, or nothing if the
text does not follow the rules. A number has to fit 128 bits if it is whole, and a binary fraction if it is not.
-/

namespace SchemaClasses.Toml

/-! ## Blanks, comments and line ends -/

/-- A blank inside a line. -/
def isSpace (c : Char) : Bool := c = ' ' || c = '\t'

/-- A text without the blanks it opens with. -/
def skipSpaces (cs : List Char) : List Char := cs.dropWhile isSpace

/-- A character that may stand in comments and strings; control characters but the tab may not. -/
def isPlain (c : Char) : Bool := c = '\t' || (32 ≤ c.toNat && c.toNat != 127)

/-- The text behind a line end. -/
def lineEnd? : List Char → Option (List Char)
  | '\n' :: cs => some cs
  | '\r' :: '\n' :: cs => some cs
  | _ => none

/-- The text behind blanks, line ends and comments; `inComment` tells whether it starts inside a comment. -/
def skipLayout (inComment : Bool) : List Char → Option (List Char)
  | [] => some []
  | '\n' :: cs => skipLayout false cs
  | '\r' :: '\n' :: cs => skipLayout false cs
  | c :: cs =>
    if inComment then if isPlain c then skipLayout true cs else none
    else if isSpace c then skipLayout false cs
    else if c = '#' then skipLayout true cs
    else some (c :: cs)

/-- The text behind the rest of a line that holds nothing but blanks and a comment. -/
def finishLine (inComment : Bool) : List Char → Option (List Char)
  | [] => some []
  | '\n' :: cs => some cs
  | '\r' :: '\n' :: cs => some cs
  | c :: cs =>
    if inComment then if isPlain c then finishLine true cs else none
    else if isSpace c then finishLine false cs
    else if c = '#' then finishLine true cs
    else none

/-! ## Strings -/

/-- The character of a one-letter escape. -/
def escape? : Char → Option Char
  | 'b' => some '\x08'
  | 't' => some '\t'
  | 'n' => some '\n'
  | 'f' => some '\x0c'
  | 'r' => some '\r'
  | 'e' => some '\x1b'
  | '"' => some '"'
  | '\\' => some '\\'
  | _ => none

/-- The character with a code point in hexadecimal. -/
def codePoint? (digits : List Char) : Option Char := (Text.ofHex? digits).bind Text.charOf?

/-- Puts a character before a text that was read. -/
def prepend (c : Char) (read : Option (List Char × List Char)) : Option (List Char × List Char) :=
  read.map fun r => (c :: r.1, r.2)

/-- A basic string behind its opening quote. -/
def basicString : List Char → Option (List Char × List Char)
  | [] => none
  | '"' :: cs => some ([], cs)
  | '\\' :: 'x' :: a :: b :: cs => (codePoint? [a, b]).bind fun c => prepend c (basicString cs)
  | '\\' :: 'u' :: a :: b :: c :: d :: cs => (codePoint? [a, b, c, d]).bind fun c => prepend c (basicString cs)
  | '\\' :: 'U' :: a :: b :: c :: d :: e :: f :: g :: h :: cs =>
    (codePoint? [a, b, c, d, e, f, g, h]).bind fun c => prepend c (basicString cs)
  | '\\' :: e :: cs => (escape? e).bind fun c => prepend c (basicString cs)
  | c :: cs => if isPlain c && c != '\\' then prepend c (basicString cs) else none

/-- A literal string behind its opening quote. -/
def literalString : List Char → Option (List Char × List Char)
  | [] => none
  | '\'' :: cs => some ([], cs)
  | c :: cs => if isPlain c then prepend c (literalString cs) else none

/-- Where a reader of a basic string of several lines stands. -/
inductive Fold where
  /-- In the text. -/
  | text
  /-- Behind a backslash that has to end its line. -/
  | opened
  /-- Behind such a line, where blanks and line ends drop out. -/
  | folded
deriving DecidableEq

/-- A basic string of several lines behind its opening quotes and the line end that may follow them. -/
def basicLines (fold : Fold) : List Char → Option (List Char × List Char)
  | [] => none
  | '\n' :: cs => if fold = .text then prepend '\n' (basicLines .text cs) else basicLines .folded cs
  | '\r' :: '\n' :: cs =>
    if fold = .text then prepend '\r' (prepend '\n' (basicLines .text cs)) else basicLines .folded cs
  | c :: cs =>
    if fold ≠ .text ∧ isSpace c then basicLines fold cs
    else if fold = .opened then none
    else
      match c, cs with
      | '"', '"' :: '"' :: '"' :: '"' :: cs => some (['"', '"'], cs)
      | '"', '"' :: '"' :: '"' :: cs => some (['"'], cs)
      | '"', '"' :: '"' :: cs => some ([], cs)
      | '\\', 'x' :: a :: b :: cs => (codePoint? [a, b]).bind fun c => prepend c (basicLines .text cs)
      | '\\', 'u' :: a :: b :: c :: d :: cs =>
        (codePoint? [a, b, c, d]).bind fun c => prepend c (basicLines .text cs)
      | '\\', 'U' :: a :: b :: c :: d :: e :: f :: g :: h :: cs =>
        (codePoint? [a, b, c, d, e, f, g, h]).bind fun c => prepend c (basicLines .text cs)
      | '\\', e :: cs =>
        match escape? e with
        | some c => prepend c (basicLines .text cs)
        | none => if isSpace e || e = '\n' || e = '\r' then basicLines .opened (e :: cs) else none
      | c, cs => if isPlain c then prepend c (basicLines .text cs) else none

/-- A literal string of several lines behind its opening quotes and the line end that may follow them. -/
def literalLines : List Char → Option (List Char × List Char)
  | [] => none
  | '\'' :: '\'' :: '\'' :: '\'' :: '\'' :: cs => some (['\'', '\''], cs)
  | '\'' :: '\'' :: '\'' :: '\'' :: cs => some (['\''], cs)
  | '\'' :: '\'' :: '\'' :: cs => some ([], cs)
  | '\n' :: cs => prepend '\n' (literalLines cs)
  | '\r' :: '\n' :: cs => prepend '\r' (prepend '\n' (literalLines cs))
  | c :: cs => if isPlain c then prepend c (literalLines cs) else none

/-- A string of any kind. -/
def string? : List Char → Option (List Char × List Char)
  | '"' :: '"' :: '"' :: cs => basicLines .text ((lineEnd? cs).getD cs)
  | '"' :: cs => basicString cs
  | '\'' :: '\'' :: '\'' :: cs => literalLines ((lineEnd? cs).getD cs)
  | '\'' :: cs => literalString cs
  | _ => none

/-! ## Plain words -/

/-- A character of a plain word. -/
def isWord (c : Char) : Bool := c.isAlphanum || c = '+' || c = '-' || c = '_' || c = '.' || c = ':'

/-- Digits in which an underscore stands only between two of them. -/
def isDigits (digit : Char → Bool) : List Char → Bool
  | [] => false
  | [c] => digit c
  | c :: '_' :: cs => digit c && isDigits digit cs
  | c :: cs => digit c && isDigits digit cs

/-- Whether a word opens with a minus, and the word without its sign. -/
def sign : List Char → Bool × List Char
  | '+' :: cs => (false, cs)
  | '-' :: cs => (true, cs)
  | cs => (false, cs)

/-- The number that digits write in some base; other characters are passed over. -/
def valueOf (base : Nat) (cs : List Char) : Nat := (cs.filterMap Text.hexValue?).foldl (fun n d => base * n + d) 0

/-- A whole decimal number without sign; no zero leads other digits. -/
def isWhole (cs : List Char) : Bool :=
  isDigits Char.isDigit cs && (cs.length = 1 || cs.head? != some '0')

/-- A whole number. -/
def isInteger (cs : List Char) : Bool :=
  match cs with
  | '0' :: 'x' :: ds => isDigits (fun c => (Text.hexValue? c).isSome) ds && valueOf 16 ds < Nat.pow 2 128
  | '0' :: 'o' :: ds => isDigits (fun c => '0' ≤ c && c ≤ '7') ds && valueOf 8 ds < Nat.pow 2 128
  | '0' :: 'b' :: ds => isDigits (fun c => c = '0' || c = '1') ds && valueOf 2 ds < Nat.pow 2 128
  | cs =>
    let (negative, ds) := sign cs
    isWhole ds && if negative then valueOf 10 ds ≤ Nat.pow 2 127 else valueOf 10 ds < Nat.pow 2 128

/-- Whether `n * 10 ^ e` rounds to a binary fraction. What is far from the largest one needs no computation. -/
def isFinite (n : Nat) (e : Int) : Bool :=
  let size : Int := (Nat.toDigits 10 n).length + e
  n = 0 || size < 300 || (size < 320 && (Binary.ofRatio (n * Nat.pow 10 e.toNat) (Nat.pow 10 (-e).toNat)).isSome)

/-- A character of the digits of a decimal number. -/
def isDigitOrGap (c : Char) : Bool := c.isDigit || c = '_'

/-- The exponent behind its letter. -/
def exponent? (cs : List Char) : Option Int :=
  let (negative, ds) := sign cs
  if isDigits Char.isDigit ds then some (if negative then -(valueOf 10 ds : Int) else valueOf 10 ds) else none

/-- The exponent of a number, if there is one. -/
def scale? : List Char → Option Int
  | [] => some 0
  | e :: ds => if e = 'e' ∨ e = 'E' then exponent? ds else none

/-- A decimal number with a fraction or an exponent, or one of the two words for what is no number. -/
def isFloat (cs : List Char) : Bool :=
  let cs := (sign cs).2
  let whole := cs.takeWhile isDigitOrGap
  let rest := cs.dropWhile isDigitOrGap
  if cs = "inf".toList ∨ cs = "nan".toList then true
  else
    isWhole whole &&
      match rest with
      | [] => false
      | '.' :: ds =>
        let fraction := ds.takeWhile isDigitOrGap
        isDigits Char.isDigit fraction &&
          ((scale? (ds.dropWhile isDigitOrGap)).map fun e =>
            isFinite (valueOf 10 (whole ++ fraction)) (e - (fraction.countP Char.isDigit : Nat))).getD false
      | rest => ((scale? rest).map (isFinite (valueOf 10 whole))).getD false

/-- The number of decimal digits. -/
def number? (cs : List Char) : Option Nat :=
  if cs.all Char.isDigit then some (cs.foldl (fun n c => 10 * n + (c.toNat - 48)) 0) else none

/-- The number of days of a month. -/
def daysOf (year month : Nat) : Nat :=
  if month = 2 then if year % 4 = 0 ∧ (year % 100 ≠ 0 ∨ year % 400 = 0) then 29 else 28
  else if month = 4 ∨ month = 6 ∨ month = 9 ∨ month = 11 then 30
  else 31

/-- Whether a number lies in a range. -/
def within (low high : Nat) (n : Option Nat) : Bool := (n.map fun n => low ≤ n && n ≤ high).getD false

/-- The rest of a word behind a calendar date. -/
def date? : List Char → Option (List Char)
  | a :: b :: c :: d :: '-' :: e :: f :: '-' :: g :: h :: rest =>
    match number? [a, b, c, d], number? [e, f], number? [g, h] with
    | some year, some month, some day =>
      if 1 ≤ month ∧ month ≤ 12 ∧ 1 ≤ day ∧ day ≤ daysOf year month then some rest else none
    | _, _, _ => none
  | _ => none

/-- The rest of a word behind a time of day; seconds and their fraction may be left out. -/
def time? : List Char → Option (List Char)
  | a :: b :: ':' :: c :: d :: rest =>
    if within 0 23 (number? [a, b]) && within 0 59 (number? [c, d]) then
      match rest with
      | ':' :: e :: f :: rest =>
        if within 0 60 (number? [e, f]) then
          match rest with
          | '.' :: ds => if (ds.takeWhile Char.isDigit).isEmpty then none else some (ds.dropWhile Char.isDigit)
          | rest => some rest
        else none
      | rest => some rest
    else none
  | _ => none

/-- Whether a word is an offset from universal time, or empty. -/
def isOffset : List Char → Bool
  | [] => true
  | ['Z'] => true
  | ['z'] => true
  | [s, a, b, ':', c, d] =>
    (s = '+' || s = '-') && within 0 23 (number? [a, b]) && within 0 59 (number? [c, d])
  | _ => false

/-- Whether a word is a time, by itself. -/
def isTime (cs : List Char) : Bool := time? cs == some []

/-- Whether a word is a date, a time with a date before it, or a time. -/
def isMoment (cs : List Char) : Bool :=
  match date? cs with
  | some [] => true
  | some (t :: rest) => (t = 'T' || t = 't') && ((time? rest).map isOffset).getD false
  | none => isTime cs

/-- Whether a word is a date without time. -/
def isDate (cs : List Char) : Bool := date? cs == some []

/-- A plain value that is no truth value: a number, a date or a time, which a blank may divide from its date. -/
def plain? (cs : List Char) : Option (List Char) :=
  let word := cs.takeWhile isWord
  let rest := cs.dropWhile isWord
  if isDate word then
    match rest with
    | ' ' :: d :: cs =>
      if d.isDigit then
        let time := (d :: cs).takeWhile isWord
        if ((time? time).map isOffset).getD false then some ((d :: cs).dropWhile isWord) else none
      else some rest
    | rest => some rest
  else if isInteger word || isFloat word || isMoment word then some rest
  else none

end SchemaClasses.Toml
