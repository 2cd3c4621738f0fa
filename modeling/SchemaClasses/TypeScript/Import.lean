import SchemaClasses.Ordered.Map
import SchemaClasses.Ordered.Set

/-!
# Imports

An import brings symbols from an origin. An `Imports` has one import for each origin, in the order in which the
origins first occurred, and each symbol of an import once, in the order of its first occurrence. While files are being
placed, an import of another class knows the model of the class but not its file (`Origin.model`).
-/

namespace SchemaClasses.TypeScript

/-- Where the symbols of an import come from. -/
inductive Origin where
  /-- A module specifier. -/
  | module (specifier : String)
  /-- The file of the class of a model, wherever it will be. -/
  | model (name : String)
deriving DecidableEq

namespace Origin

/-- What a text of an origin that is not placed starts with. -/
def placeholder : String := "__TEMPORARY_MODEL_PATH__"

/-- The text of an origin. -/
def text : Origin → String
  | .module specifier => specifier
  | .model name => placeholder ++ name

/-- The model whose file is not yet known. -/
def model? : Origin → Option String
  | .module _ => none
  | .model name => some name

end Origin

/-- Symbols from one origin. -/
structure Import (ο : Type) where
  origin : ο
  names : OrderedSet String

/-- The import statement of a module. -/
def Import.render (i : Import String) : String :=
  "import \x7b " ++ ", ".intercalate i.names.toList ++ " \x7d from '" ++ i.origin ++ "';"

/-- The import statement of a module whose symbols get `mark` before their names. -/
def Import.renderMarked (i : Import String) (mark : String) : String :=
  "import \x7b " ++ ", ".intercalate (i.names.toList.map fun n => n ++ " as " ++ mark ++ n) ++ " \x7d from '"
    ++ i.origin ++ "';"

/-- Imports with one entry for each origin. -/
abbrev Imports (ο : Type) := OrderedMap ο (OrderedSet String)

namespace Imports

variable {ο : Type} [DecidableEq ο]

/-- The imports with more symbols from an origin. -/
def merge (s : Imports ο) (i : Import ο) : Imports ο :=
  s.alter i.origin fun
    | none => i.names
    | some names => names.insertAll i.names.toList

/-- The imports with one more symbol from an origin. -/
def register (s : Imports ο) (name : String) (origin : ο) : Imports ο :=
  s.merge ⟨origin, OrderedSet.ofList [name]⟩

/-- The imports with each of a list of imports, one after the other. -/
def mergeAll (s : Imports ο) (is : List (Import ο)) : Imports ο := is.foldl merge s

/-- The imports of a list. -/
def ofList (is : List (Import ο)) : Imports ο := mergeAll OrderedMap.empty is

/-- The imports one by one. -/
def toList (s : Imports ο) : List (Import ο) := s.entries.map fun e => ⟨e.1, e.2⟩

/-- The import of an origin. -/
def find? (s : Imports ο) (origin : ο) : Option (Import ο) := (s.get? origin).map (⟨origin, ·⟩)

end Imports
end SchemaClasses.TypeScript
