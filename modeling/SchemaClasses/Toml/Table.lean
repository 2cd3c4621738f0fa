import SchemaClasses.Toml.Scalar

/-!
# TOML tables

A TOML text is a table built line by line: headers open tables, assignments fill them. A table stays open to later
lines according to how it came about (`Origin`), which `assign` and `header` enforce; a value once
written is closed.
-/

namespace SchemaClasses.Toml

/-- How a table came about. -/
inductive Origin where
  /-- A longer header passed through it. -/
  | passed
  /-- It has a header of its own. -/
  | header
  /-- A dotted key of an assignment passed through it. -/
  | dotted
deriving DecidableEq

/-- What a key holds. -/
inductive Node where
  | text (s : String)
  | flag (b : Bool)
  /-- A number, a date or a time. -/
  | plain
  | list (items : List Node)
  | inline (entries : List (String × Node))
  | table (origin : Origin) (entries : List (String × Node))
  /-- A list of tables with a header each, the last one first. -/
  | tables (items : List (List (String × Node)))

/-- The entries of a table. -/
abbrev Entries := List (String × Node)

/-- The entries in which the node of a key is made by `f` from the node so far. -/
def update (key : String) (f : Option Node → Option Node) (es : Entries) : Option Entries :=
  match es with
  | [] => (f none).map fun n => [(key, n)]
  | (k, n) :: es =>
    if k = key then (f (some n)).map fun n => (k, n) :: es
    else (update key f es).map ((k, n) :: ·)

/-! ## Assignments -/

/-- The table that a dotted key passes through: a new one, one that dotted keys or longer headers made, or the last
one of a list. -/
def throughDotted (rest : Bool → Entries → Option Entries) : Option Node → Option Node
  | none => (rest true []).map (.table .dotted)
  | some (.table .dotted es) => (rest true es).map (.table .dotted)
  | some (.table .passed es) => (rest false es).map (.table .passed)
  | some (.tables (es :: items)) => (rest false es).map fun es => .tables (es :: items)
  | some _ => none

/-- A new node where none was. -/
def only (n : Node) : Option Node → Option Node
  | none => some n
  | some _ => none

/-- The entries with `n` under a dotted key. `own` says that the last table passed was made by dotted keys, or that
the key has one part. -/
def assign (n : Node) (own : Bool) : List String → Entries → Option Entries
  | [], _ => none
  | [key], es => if own then update key (only n) es else none
  | key :: path, es => update key (throughDotted fun own => assign n own path) es

/-! ## Headers -/

/-- The table that a header passes through. -/
def throughHeader (rest : Entries → Option Entries) : Option Node → Option Node
  | none => (rest []).map (.table .passed)
  | some (.table origin es) => (rest es).map (.table origin)
  | some (.tables (es :: items)) => (rest es).map fun es => .tables (es :: items)
  | some _ => none

/-- The entries in which the table under a path is changed by `f`. -/
def atPath (f : Entries → Option Entries) : List String → Entries → Option Entries
  | [], es => f es
  | key :: path, es => update key (throughHeader fun es => atPath f path es) es

/-- The table that a header opens: a new one, or one that only longer headers made. -/
def openTable : Option Node → Option Node
  | none => some (.table .header [])
  | some (.table .passed es) => some (.table .header es)
  | some _ => none

/-- The list of tables to which a header adds one. -/
def openItem : Option Node → Option Node
  | none => some (.tables [[]])
  | some (.tables items) => some (.tables ([] :: items))
  | some _ => none

/-- The entries after a header; `item` tells whether it adds a table to a list. -/
def header (item : Bool) (path : List String) (es : Entries) : Option Entries :=
  match path.getLast? with
  | none => none
  | some key => atPath (update key (if item then openItem else openTable)) path.dropLast es

/-! ## Lines -/

/-- A line of a text. -/
inductive Line where
  | header (item : Bool) (path : List String)
  | assignment (path : List String) (value : Node)

/-- The table under construction: its entries, and the path of the table that assignments go to. -/
structure Builder where
  entries : Entries
  path : List String

/-- The table after one more line. -/
def Builder.add (b : Builder) : Line → Option Builder
  | .header item path => (header item path b.entries).map (⟨·, path⟩)
  | .assignment path n => (atPath (assign n true path) b.path b.entries).map (⟨·, b.path⟩)

/-- The table that lines build. -/
def build (lines : List Line) : Option Entries :=
  (lines.foldlM Builder.add ⟨[], []⟩).map Builder.entries

end SchemaClasses.Toml
