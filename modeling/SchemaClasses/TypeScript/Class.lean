import SchemaClasses.Ordered.Set
import SchemaClasses.TypeScript.Decorator

/-!
# Classes

A class declares properties and knows the other classes and the enums it refers to. Each enum is registered behind
the class. A class without properties has no code (`ClassDecl.render?`).
-/

namespace SchemaClasses.TypeScript

/-- A property of a class. -/
structure Property where
  name : String
  type : String
  isOptional : Bool
  /-- The expression it starts with; `undefined` if there is none. -/
  initializer : Option String
  decorators : List Decorator

/-- The code of a property, its decorators above it. -/
def Property.render (p : Property) : String :=
  String.join (p.decorators.map fun d => "  " ++ d.render ++ "\n")
    ++ "  " ++ p.name ++ (if p.isOptional then "?" else "") ++ ": " ++ p.type
    ++ " = " ++ p.initializer.getD "undefined" ++ ";"

/-- A class. -/
structure ClassDecl where
  name : String
  properties : List Property
  /-- The other classes it refers to. -/
  relations : OrderedSet String
  /-- The enums it refers to. -/
  enums : OrderedSet String
  decorators : List Decorator

namespace ClassDecl

/-- The class of a name without anything in it. -/
def bare (name : String) : ClassDecl := ⟨name, [], .empty, .empty, []⟩

/-- The decorators of the class and then of its properties. -/
def usedDecorators (c : ClassDecl) : List Decorator := c.decorators ++ c.properties.flatMap Property.decorators

/-- The statement that registers an enum. -/
def registration (enum : String) : String :=
  "\nregisterEnumType(" ++ enum ++ ", \x7b\n  name: '" ++ enum ++ "',\n\x7d);\n"

/-- The code of a class and of the registrations of its enums, if it has properties. -/
def render? (c : ClassDecl) : Option String :=
  if c.properties.isEmpty then none
  else some <|
    String.join (c.decorators.map fun d => d.render ++ "\n")
      ++ "export class " ++ c.name ++ " \x7b\n" ++ "\n\n".intercalate (c.properties.map Property.render) ++ "\n\x7d\n"
      ++ String.join (c.enums.toList.map registration)

/-- The statement that exports an empty subclass under the name of a class that was imported with `mark` before it. -/
def subclassExport (c : ClassDecl) (mark : String) : String :=
  "export class " ++ c.name ++ " extends " ++ mark ++ c.name ++ " \x7b\x7d"

end ClassDecl
end SchemaClasses.TypeScript
