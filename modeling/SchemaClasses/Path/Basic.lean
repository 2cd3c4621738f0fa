/-!
# File paths

A path is kept as the text it was written as. Its **components** (`Path.components`) are what the text names:
repeated and trailing slashes and every `.` drop out, except a `.` that opens a relative path.
`Path.ofComponents` writes components with single slashes; `Path.join` and `Path.parent?` work on the text and
leave the rest of it as written.
-/

namespace SchemaClasses

/-- A file path, as written. -/
structure Path where
  text : String
deriving DecidableEq, Inhabited

namespace Path

/-! ## Components -/

/-- One step of a path. -/
inductive Component where
  | root
  | current
  | parent
  | name (text : String)
deriving DecidableEq

/-- The text of a component. -/
def Component.text : Component → String
  | .root => "/"
  | .current => "."
  | .parent => ".."
  | .name n => n

/-- The pieces of a text between its slashes. -/
def pieces : List Char → List (List Char)
  | [] => [[]]
  | c :: cs =>
    if c = '/' then [] :: pieces cs
    else
      match pieces cs with
      | [] => [[c]]
      | p :: ps => (c :: p) :: ps

/-- What a piece names; an empty piece and `.` name nothing. -/
def componentOfPiece : List Char → Option Component
  | [] => none
  | ['.'] => none
  | ['.', '.'] => some .parent
  | p => some (.name (String.ofList p))

/-- The components of a text. -/
def componentsOf : List Char → List Component
  | '/' :: cs => .root :: (pieces cs).filterMap componentOfPiece
  | cs =>
    match pieces cs with
    | ['.'] :: ps => .current :: ps.filterMap componentOfPiece
    | ps => ps.filterMap componentOfPiece

/-- The components of a path. -/
def components (p : Path) : List Component := componentsOf p.text.toList

/-- Whether a text starts at the root. -/
def rooted : List Char → Bool
  | '/' :: _ => true
  | _ => false

/-- Whether a path starts at the root. -/
def isAbsolute (p : Path) : Bool := rooted p.text.toList

/-- The path with the given components, separated by single slashes. -/
def ofComponents : List Component → Path
  | .root :: cs => ⟨"/" ++ "/".intercalate (cs.map Component.text)⟩
  | cs => ⟨"/".intercalate (cs.map Component.text)⟩

/-! ## Joining and parents -/

/-- The path `b` seen from `a`: an absolute `b` stands alone, a relative one follows `a` and a slash. -/
def join (a b : Path) : Path :=
  if b.isAbsolute then b
  else if a.text.isEmpty ∨ a.text.toList.getLast? = some '/' then ⟨a.text ++ b.text⟩
  else ⟨a.text ++ "/" ++ b.text⟩

/-- Whether a piece behind the first one names a component. -/
def names (piece : List Char) : Bool := (componentOfPiece piece).isSome

/-- The pieces before the last one that names a component, without the empty ones in between. -/
def dropLastName (pieces : List (List Char)) : Option (List (List Char)) :=
  match pieces.reverse.dropWhile (fun p => !names p) with
  | [] => none
  | _ :: before => some (before.dropWhile (fun p => !names p)).reverse

/-- A text from its pieces. -/
def ofPieces (pieces : List (List Char)) : Path := ⟨String.ofList (['/'].intercalate pieces)⟩

/-- The path without its last component; the root and the empty path have no parent. -/
def parent? (p : Path) : Option Path :=
  match p.text.toList with
  | '/' :: cs => (dropLastName (pieces cs)).map fun ps => ⟨"/" ++ (ofPieces ps).text⟩
  | cs =>
    match pieces cs with
    | ['.'] :: ps => some ((dropLastName ps).elim ⟨""⟩ fun ps => ofPieces (['.'] :: ps))
    | ps => (dropLastName ps).map ofPieces

/-- What stands behind the last slash. -/
def lastPiece (p : Path) : String := String.ofList ((pieces p.text.toList).getLast?.getD [])

end Path
end SchemaClasses
