import SchemaClasses.Text.CodePoint

/-!
# Bytes of UTF-8

`Utf8.next` reads one character off a list of bytes or says how many bytes are wrong. `Utf8.fault?` finds the first
wrong place of a text, and `Utf8.lossy` reads a text with a replacement character for every wrong place.
-/

namespace SchemaClasses.Text.Utf8

/-- The start of a list of bytes. -/
inductive Next where
  | char (c : Char) (rest : List UInt8)
  /-- So many bytes are no part of any character. -/
  | wrong (length : Nat) (rest : List UInt8)
  /-- The bytes end inside a character. -/
  | cut

/-- Whether a byte continues a character. -/
def continues (b : UInt8) : Bool := 0x80 ≤ b && b ≤ 0xBF

/-- The second bytes that may follow a first byte of a character of three or four bytes. -/
def follows (first second : UInt8) : Bool :=
  if first = 0xE0 then 0xA0 ≤ second && second ≤ 0xBF
  else if first = 0xED then 0x80 ≤ second && second ≤ 0x9F
  else if first = 0xF0 then 0x90 ≤ second && second ≤ 0xBF
  else if first = 0xF4 then 0x80 ≤ second && second ≤ 0x8F
  else continues second

/-- The character of payload bits, highest first. -/
def ofBits (n : Nat) (more : List UInt8) : Char :=
  Char.ofNat (more.foldl (fun n b => n * 64 + (b.toNat - 0x80)) n)

/-- The first character of a list of bytes that is not empty. -/
def next (first : UInt8) (rest : List UInt8) : Next :=
  if first < 0x80 then .char (Char.ofNat first.toNat) rest
  else if 0xC2 ≤ first && first ≤ 0xDF then
    match rest with
    | [] => .cut
    | b :: bs => if continues b then .char (ofBits (first.toNat - 0xC0) [b]) bs else .wrong 1 rest
  else if 0xE0 ≤ first && first ≤ 0xEF then
    match rest with
    | [] => .cut
    | b :: bs =>
      if follows first b then
        match bs with
        | [] => .cut
        | c :: cs => if continues c then .char (ofBits (first.toNat - 0xE0) [b, c]) cs else .wrong 2 bs
      else .wrong 1 rest
  else if 0xF0 ≤ first && first ≤ 0xF4 then
    match rest with
    | [] => .cut
    | b :: bs =>
      if follows first b then
        match bs with
        | [] => .cut
        | c :: cs =>
          if continues c then
            match cs with
            | [] => .cut
            | d :: ds => if continues d then .char (ofBits (first.toNat - 0xF0) [b, c, d]) ds else .wrong 3 cs
          else .wrong 2 bs
      else .wrong 1 rest
  else .wrong 1 rest

/-- Where a text stops being UTF-8, and how many bytes are wrong there, if the text does not just end. -/
structure Fault where
  index : Nat
  length : Option Nat

/-- The first wrong place of bytes at some index; each step reads a character. -/
def faultFrom (steps index : Nat) (bytes : List UInt8) : Option Fault :=
  match steps, bytes with
  | steps + 1, b :: bs =>
    match next b bs with
    | .char c rest => faultFrom steps (index + c.utf8Size) rest
    | .wrong length _ => some ⟨index, some length⟩
    | .cut => some ⟨index, none⟩
  | _, _ => none

/-- The first wrong place of a text. -/
def fault? (bytes : List UInt8) : Option Fault := faultFrom bytes.length 0 bytes

/-- The message about a wrong place. -/
def Fault.message (f : Fault) : String :=
  match f.length with
  | some n => "invalid utf-8 sequence of " ++ toString n ++ " bytes from index " ++ toString f.index
  | none => "incomplete utf-8 byte sequence from index " ++ toString f.index

/-- The characters of bytes, each wrong place replaced; each step reads a character or passes a wrong place. -/
def lossyFrom (steps : Nat) (bytes : List UInt8) : List Char :=
  match steps, bytes with
  | steps + 1, b :: bs =>
    match next b bs with
    | .char c rest => c :: lossyFrom steps rest
    | .wrong _ rest => '\ufffd' :: lossyFrom steps rest
    | .cut => ['\ufffd']
  | _, _ => []

/-- The text of bytes, each wrong place replaced. -/
def lossy (bytes : List UInt8) : String := String.ofList (lossyFrom bytes.length bytes)

end SchemaClasses.Text.Utf8
