import SchemaClasses.Toml.Table

/-!
# Reading TOML

`Toml.read?` reads a whole text: its lines, and the table they build. It gives nothing for a text that is not TOML.
Lists and inline tables stand at most `maxNesting` deep inside each other, and no key has more parts.
-/

namespace SchemaClasses.Toml

/-! ## Keys -/

/-- A character of a bare key. -/
def isBare (c : Char) : Bool := c.isAlphanum || c = '_' || c = '-'

/-- One part of a key. -/
def keyPart? (cs : List Char) : Option (String × List Char) :=
  match cs with
  | '"' :: cs => (basicString cs).map fun r => (String.ofList r.1, r.2)
  | '\'' :: cs => (literalString cs).map fun r => (String.ofList r.1, r.2)
  | cs =>
    let key := cs.takeWhile isBare
    if key.isEmpty then none else some (String.ofList key, cs.dropWhile isBare)

/-- How deep containers may stand inside each other. -/
def maxNesting : Nat := 80

/-- A key with at most so many parts between dots, and the text behind it and the blanks that follow. -/
def keyUpTo? (parts : Nat) (cs : List Char) : Option (List String × List Char) :=
  match parts with
  | 0 => none
  | parts + 1 => do
    let (part, rest) ← keyPart? (skipSpaces cs)
    match skipSpaces rest with
    | '.' :: rest =>
      let (more, rest) ← keyUpTo? parts rest
      return (part :: more, rest)
    | rest => return ([part], rest)

/-- A key with its parts between dots, and the text behind it and the blanks that follow. -/
def key? (cs : List Char) : Option (List String × List Char) := keyUpTo? maxNesting cs

/-! ## Values -/

mutual

/-- A value inside a number of containers, and the text behind it. Each step takes one of the `steps`. -/
def value? (steps depth : Nat) (cs : List Char) : Option (Node × List Char) :=
  match steps with
  | 0 => none
  | steps + 1 =>
    match cs with
    | '"' :: _ => (string? cs).map fun r => (.text (String.ofList r.1), r.2)
    | '\'' :: _ => (string? cs).map fun r => (.text (String.ofList r.1), r.2)
    | '[' :: cs =>
      if depth < maxNesting then (items? steps (depth + 1) cs).map fun r => (.list r.1, r.2) else none
    | '\x7b' :: cs =>
      if depth < maxNesting then (inline? steps (depth + 1) [] cs).map fun r => (.inline r.1, r.2) else none
    | cs =>
      let word := cs.takeWhile isWord
      let rest := cs.dropWhile isWord
      if word = "true".toList then some (.flag true, rest)
      else if word = "false".toList then some (.flag false, rest)
      else (plain? cs).map (.plain, ·)

/-- The items of a list up to its closing bracket. -/
def items? (steps depth : Nat) (cs : List Char) : Option (List Node × List Char) :=
  match steps with
  | 0 => none
  | steps + 1 => do
    match ← skipLayout false cs with
    | ']' :: rest => return ([], rest)
    | cs =>
      let (n, rest) ← value? steps depth cs
      match ← skipLayout false rest with
      | ',' :: rest =>
        let (ns, rest) ← items? steps depth rest
        return (n :: ns, rest)
      | ']' :: rest => return ([n], rest)
      | _ => none

/-- The entries of an inline table up to its closing brace, put to those read before. -/
def inline? (steps depth : Nat) (es : Entries) (cs : List Char) : Option (Entries × List Char) :=
  match steps with
  | 0 => none
  | steps + 1 => do
    match ← skipLayout false cs with
    | '\x7d' :: rest => return (es, rest)
    | cs =>
      let (path, rest) ← key? cs
      match rest with
      | '=' :: rest =>
        let (n, rest) ← value? steps depth (skipSpaces rest)
        let es ← assign n true path es
        match ← skipLayout false rest with
        | ',' :: rest => inline? steps depth es rest
        | '\x7d' :: rest => return (es, rest)
        | _ => none
      | _ => none

end

/-! ## Lines -/

/-- A line that is not empty, and the text behind what it says. -/
def line? (steps : Nat) (cs : List Char) : Option (Line × List Char) :=
  match cs with
  | '[' :: '[' :: cs => do
    let (path, rest) ← key? cs
    match rest with
    | ']' :: ']' :: rest => return (.header true path, rest)
    | _ => none
  | '[' :: cs => do
    let (path, rest) ← key? cs
    match rest with
    | ']' :: rest => return (.header false path, rest)
    | _ => none
  | cs => do
    let (path, rest) ← key? cs
    match rest with
    | '=' :: rest =>
      let (n, rest) ← value? steps 0 (skipSpaces rest)
      return (.assignment path n, rest)
    | _ => none

/-- The lines of a text, empty ones left out. -/
def lines? (steps : Nat) (cs : List Char) : Option (List Line) :=
  match steps with
  | 0 => none
  | steps + 1 => do
    match ← skipLayout false cs with
    | [] => return []
    | cs =>
      let (line, rest) ← line? steps cs
      let rest ← finishLine false rest
      let lines ← lines? steps rest
      return line :: lines

/-- The table that a text writes; a byte order mark may open it. -/
def read? (text : String) : Option Entries :=
  let cs := text.toList
  let cs := if cs.head? = some '\ufeff' then cs.tail else cs
  (lines? (2 * cs.length + 2) cs).bind build

end SchemaClasses.Toml
