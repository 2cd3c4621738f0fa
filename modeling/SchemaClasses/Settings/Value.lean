import SchemaClasses.Json.Decode

/-!
# Raw settings

Settings arrive as a dictionary from option names to raw values: truth values, texts and lists of texts. A dictionary
of settings is read from JSON (`Settings.read`) and written back as JSON (`Settings.json`).
-/

namespace SchemaClasses

/-- A raw value of an option. -/
inductive Setting where
  | flag (b : Bool)
  | text (s : String)
  | list (items : List String)
deriving DecidableEq

/-- Raw settings by option name. -/
abbrev Settings := Dictionary Setting

namespace Setting

/-- How a message shows a value. -/
def display : Setting → String
  | .flag b => toString b
  | .text s => s
  | .list items => "[" ++ ", ".intercalate items ++ "]"

/-- The text of a JSON string. -/
def stringOf? : Json.Value → Option String
  | .string s => some s
  | _ => none

/-- The setting that a JSON value gives. -/
def ofJson? : Json.Value → Option Setting
  | .bool b => some (.flag b)
  | .string s => some (.text s)
  | .array items => (items.mapM stringOf?).map .list
  | _ => none

/-- A setting as a JSON value. -/
def toJson : Setting → Json.Value
  | .flag b => .bool b
  | .text s => .string s
  | .list items => .array (items.map .string)

/-- Reads a setting; its whole text is read before its form is judged. -/
def read : Json.Reader Setting := fun depth t => do
  let v ← Json.value depth t
  match ofJson? v with
  | some s => return s
  | none => .error (.noVariant "ConfigValue")

end Setting

namespace Settings

/-- Reads settings. -/
def read : Json.Reader Settings := Json.dictionary Setting.read

/-- Settings as a JSON value. -/
def toJson (settings : Settings) : Json.Value := .object (settings.entries.map fun e => (e.1, e.2.toJson))

/-- Settings as JSON text. -/
def json (settings : Settings) : String := (toJson settings).compact

end Settings
end SchemaClasses
