import SchemaClasses.Error
import SchemaClasses.Ordered.Map

/-!
# File systems

A `FileSystem` maps places to directories and files; the root is always a directory, and there are no links. A path is
followed from the working directory name by name (`FileSystem.follow`), so a path through a missing directory or
through a file leads nowhere, even if `..` comes behind. Reading, writing and making directories refuse as an
operating system does.
-/

namespace SchemaClasses

/-- The content of a file: a text, or bytes that are no text. -/
inductive Content where
  | text (s : String)
  | binary (bytes : List UInt8)
deriving DecidableEq

/-- What lies at a place. -/
inductive Entry where
  | directory
  | file (content : Content)
deriving DecidableEq

/-- The names that lead from the root to a place. -/
abbrev Place := List String

/-- Directories and files by place, seen from a working directory. -/
structure FileSystem where
  cwd : Place
  entries : OrderedMap Place Entry

/-- What a path leads to: an entry, or a free place in a directory. -/
inductive Target where
  | found (place : Place) (entry : Entry)
  | free (place : Place)
deriving DecidableEq

namespace FileSystem

/-- What lies at a place. -/
def get? (fs : FileSystem) (place : Place) : Option Entry :=
  if place.isEmpty then some .directory else fs.entries.get? place

/-- The file system with an entry at a place. -/
def put (fs : FileSystem) (place : Place) (e : Entry) : FileSystem := { fs with entries := fs.entries.set place e }

/-! ## Following paths -/

/-- Where the pieces of a path lead from the directory `here`. -/
def followFrom (fs : FileSystem) (here : Place) : List String → Except IoError Target
  | [] => .ok (.found here .directory)
  | p :: ps =>
    if p = "." then followFrom fs here ps
    else if p = ".." then followFrom fs here.dropLast ps
    else
      let place := here ++ [p]
      match fs.get? place with
      | some .directory => followFrom fs place ps
      | some e => if ps.isEmpty then .ok (.found place e) else .error .notDirectory
      | none => if ps.isEmpty then .ok (.free place) else .error .missing

/-- The pieces of a path that are not empty. -/
def piecesOf (p : Path) : List String :=
  ((Path.pieces p.text.toList).filter fun s => !s.isEmpty).map String.ofList

/-- Where a path leads. -/
def follow (fs : FileSystem) (p : Path) : Except IoError Target :=
  if p.text.isEmpty then .error .missing
  else fs.followFrom (if p.isAbsolute then [] else fs.cwd) (piecesOf p)

/-- Whether a path ends in a slash, by which it asks for a directory. -/
def asksDirectory (p : Path) : Bool := p.text.toList.getLast? = some '/'

/-! ## Reading -/

/-- The entry a path leads to. -/
def entry (fs : FileSystem) (p : Path) : Except IoError Entry := do
  match ← fs.follow p with
  | .free _ => .error .missing
  | .found _ .directory => .ok .directory
  | .found _ e => if asksDirectory p then .error .notDirectory else .ok e

/-- Whether a path leads to anything. -/
def has (fs : FileSystem) (p : Path) : Bool := (fs.entry p).isOk

/-- Whether a path leads to a directory. -/
def isDirectory (fs : FileSystem) (p : Path) : Bool :=
  match fs.entry p with
  | .ok .directory => true
  | _ => false

/-- The text of the file at a path. -/
def read (fs : FileSystem) (p : Path) : Except IoError String := do
  match ← fs.entry p with
  | .directory => .error .isDirectory
  | .file (.text s) => .ok s
  | .file (.binary _) => .error .notText

/-! ## Writing -/

/-- The file system with a text in the file at a path. -/
def write (fs : FileSystem) (p : Path) (text : String) : Except IoError FileSystem := do
  match ← fs.follow p with
  | .found _ .directory => .error .isDirectory
  | .found place _ => if asksDirectory p then .error .isDirectory else .ok (fs.put place (.file (.text text)))
  | .free place => if asksDirectory p then .error .isDirectory else .ok (fs.put place (.file (.text text)))

/-- The file system with a new directory at a path. -/
def makeDirectory (fs : FileSystem) (p : Path) : Except IoError FileSystem := do
  match ← fs.follow p with
  | .found _ _ => .error .occupied
  | .free place => .ok (fs.put place .directory)

/-- The file system with a directory at a path and the directories that lead there, and why it fails if it does.
Each step goes up to a parent. -/
def makeDirectoriesFrom (fs : FileSystem) (steps : Nat) (p : Path) : FileSystem × Option IoError :=
  match steps with
  | 0 => (fs, some .missing)
  | steps + 1 =>
    if p.text.isEmpty then (fs, none)
    else
      match fs.makeDirectory p with
      | .ok fs => (fs, none)
      | .error .missing =>
        match makeDirectoriesFrom fs steps (p.parent?.getD ⟨""⟩) with
        | (fs, some e) => (fs, some e)
        | (fs, none) =>
          match fs.makeDirectory p with
          | .ok fs => (fs, none)
          | .error e => if fs.isDirectory p then (fs, none) else (fs, some e)
      | .error e => if fs.isDirectory p then (fs, none) else (fs, some e)

/-- The file system with a directory at a path and the directories that lead there, and why it fails if it does. -/
def makeDirectories (fs : FileSystem) (p : Path) : FileSystem × Option IoError :=
  fs.makeDirectoriesFrom (p.text.length + 1) p

/-- The file system with a file and the directories that lead there, and why it fails if it does. -/
def writeFile (fs : FileSystem) (p : Path) (text : String) : FileSystem × Option GenerationError :=
  let parent := p.parent?
  match parent.elim (fs, none) fs.makeDirectories with
  | (fs, some e) => (fs, some (.noDirectory (parent.getD ⟨""⟩) e))
  | (fs, none) =>
    match fs.write p text with
    | .ok fs => (fs, none)
    | .error e => (fs, some (.unwritable p e))

/-- The file system with each of a list of files, up to the first that cannot be written. -/
def writeAll (fs : FileSystem) : List (Path × String) → FileSystem × Option GenerationError
  | [] => (fs, none)
  | (p, text) :: files =>
    match fs.writeFile p text with
    | (fs, some e) => (fs, some e)
    | (fs, none) => writeAll fs files

end FileSystem
end SchemaClasses
