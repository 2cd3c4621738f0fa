import SchemaClasses.Ordered.Map
import SchemaClasses.Text.Quoted

/-!
# Decorators

A decorator is called on object literals, each of which maps keys to expressions in the order in which the keys were
first set. `ObjectLiteral.render` and `Decorator.render` write them.
-/

namespace SchemaClasses.TypeScript

/-- The value of a key in an object literal. -/
inductive Expression where
  /-- Code, written as it is. -/
  | code (text : String)
  | flag (b : Bool)
  | text (s : String)
  /-- A function that returns a class, which may be declared further down. -/
  | thunk (className : String)
deriving DecidableEq

/-- The code of an expression. -/
def Expression.render : Expression → String
  | .code c => c
  | .flag b => toString b
  | .text s => Text.quoted s
  | .thunk name => "() => " ++ name

/-- Expressions by key. -/
abbrev ObjectLiteral := OrderedMap String Expression

/-- The code of an entry of an object literal. -/
def renderEntry (e : String × Expression) : String := e.1 ++ ": " ++ e.2.render

/-- The code of an object literal. -/
def ObjectLiteral.render (o : ObjectLiteral) : String :=
  if o.entries.isEmpty then "\x7b\x7d"
  else "\x7b " ++ ", ".intercalate (o.entries.map renderEntry) ++ " \x7d"

/-- The object literal in which each key got its values one after the other. -/
def ObjectLiteral.ofList (entries : List (String × Expression)) : ObjectLiteral :=
  entries.foldl (fun o e => o.set e.1 e.2) OrderedMap.empty

/-- A decorator, the module it comes from, and what it is called on. -/
structure Decorator where
  name : String
  module : String
  arguments : List ObjectLiteral

/-- The code of a decorator. -/
def Decorator.render (d : Decorator) : String :=
  "@" ++ d.name ++ "(" ++ ", ".intercalate (d.arguments.map ObjectLiteral.render) ++ ")"

end SchemaClasses.TypeScript
