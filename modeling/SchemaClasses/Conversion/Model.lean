import SchemaClasses.Conversion.Property

/-!
# Classes of models

A model becomes one class, or in split mode two: one with its relations under a name of its own, and one with all its
other fields. The classes with the relations of all models come first, then the others, both in the order of the
schema (`Schema.toClasses`).
-/

namespace SchemaClasses

open TypeScript

/-- Which fields of a model a class takes. -/
inductive Selection where
  | all
  | relations
  | others
deriving DecidableEq

/-- Whether a class takes a field. -/
def Selection.takes : Selection → Field → Bool
  | .all, _ => true
  | .relations, f => f.hasRelation
  | .others, f => !f.hasRelation

/-- What the name of a class that holds the relations of a model ends in. -/
def relationsEnding : String := "Relations"

/-- The class of a model with the selected fields; `ending` is put to its name. -/
def Model.toClass (swagger : Bool) (selection : Selection) (ending : String) (m : Model) : ClassDecl :=
  let name := m.name ++ ending
  { name
    properties := (m.fields.filter selection.takes).map (Field.toProperty swagger)
    relations :=
      if selection = .others then .empty
      else .ofList ((m.fields.filter fun f => f.hasRelation && f.typeName != name).map Field.typeName)
    enums :=
      if selection = .relations then .empty
      else .ofList ((m.fields.filter fun f => f.kind = .enum).map Field.typeName)
    decorators := [] }

/-- The classes of a schema, whole or split. -/
def Schema.toClasses (swagger split : Bool) (s : Schema) : List ClassDecl :=
  if split then
    s.models.map (Model.toClass swagger .relations relationsEnding) ++ s.models.map (Model.toClass swagger .others "")
  else s.models.map (Model.toClass swagger .all "")

end SchemaClasses
