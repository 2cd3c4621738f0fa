import SchemaClasses.Path.Basic
import SchemaClasses.Settings.Value

/-!
# Options

The options that a generator understands, with their defaults and the usage text that lists them. A `Configuration`
holds the value of each option; `Configuration.ofSettings` coerces raw settings in the order of their names and
reports the first one that is of the wrong kind. Settings that are no options are passed over.
-/

namespace SchemaClasses

/-- What kind of value an option has. -/
inductive OptionKind where
  | flag
  | path
deriving DecidableEq

/-- How a message names a kind. -/
def OptionKind.text : OptionKind → String
  | .flag => "a boolean"
  | .path => "a path string"

/-- An option of the generator. -/
structure KnownOption where
  key : String
  description : String
  /-- The default, as the usage text shows it. -/
  default : String

/-- The directory for output that is named nowhere. -/
def defaultOutput : String := "./base"

/-- Every option, in the order of the usage text. -/
def knownOptions : List KnownOption := [
  ⟨"makeIndexFile", "make index file", "true"⟩,
  ⟨"dryRun", "dry run", "true"⟩,
  ⟨"separateRelationFields", "separate relation fields", "false"⟩,
  ⟨"useSwagger", "use swagger decorator", "true"⟩,
  ⟨"output", "output path", defaultOutput⟩]

/-- The line of an option in the usage text. -/
def KnownOption.usage (o : KnownOption) : String :=
  "\t" ++ o.key ++ " = (" ++ o.default ++ ") <- [" ++ o.description ++ "]"

/-- The text that explains the options. -/
def usage : String :=
  "\n".intercalate <|
    ["", "Usage : ", "generator nestbase \x7b", "\tprovider = \"nestbase\"", "\toutput = (string)"]
      ++ knownOptions.map KnownOption.usage ++ ["\x7d"]

/-- The value of every option. -/
structure Configuration where
  /-- Write a file that lists all classes. -/
  makeIndex : Bool := true
  /-- Compute everything and write nothing. -/
  dryRun : Bool := true
  /-- Give the relations of a model a class of their own. -/
  split : Bool := false
  /-- Document properties by decorators. -/
  swagger : Bool := true
  output : Path := ⟨defaultOutput⟩
deriving DecidableEq

/-- A setting of the wrong kind, and all settings it stood among. -/
structure InvalidSetting where
  key : String
  value : String
  expected : OptionKind
  input : Settings

/-- The message about a setting of the wrong kind. -/
def InvalidSetting.message (e : InvalidSetting) : String :=
  "Invalid configuration value for '" ++ e.key ++ "': expected " ++ e.expected.text ++ ", got '" ++ e.value ++ "'"

/-- Whether a text is an ASCII word but for the case of its letters. -/
def isWord (word : String) (s : String) : Bool := s.toList.map Char.toLower == word.toList

/-- The truth value of a setting. -/
def Setting.flag? : Setting → Option Bool
  | .flag b => some b
  | .text s => if isWord "true" s then some true else if isWord "false" s then some false else none
  | .list _ => none

/-- The path of a setting; an empty text is none. -/
def Setting.path? : Setting → Option Path
  | .text s => if s.isEmpty then none else some ⟨s⟩
  | _ => none

namespace Configuration

/-- The configuration with one more setting. -/
def assign (c : Configuration) (key : String) (value : Setting) : Except OptionKind Configuration :=
  let flag (set : Bool → Configuration) : Except OptionKind Configuration :=
    match value.flag? with
    | some b => .ok (set b)
    | none => .error .flag
  match key with
  | "makeIndexFile" => flag fun b => { c with makeIndex := b }
  | "dryRun" => flag fun b => { c with dryRun := b }
  | "separateRelationFields" => flag fun b => { c with split := b }
  | "useSwagger" => flag fun b => { c with swagger := b }
  | "output" =>
    match value.path? with
    | some p => .ok { c with output := p }
    | none => .error .path
  | _ => .ok c

/-- The configuration with each of a list of settings, up to the first of the wrong kind. -/
def assignAll (input : Settings) (c : Configuration) :
    List (String × Setting) → Except InvalidSetting Configuration
  | [] => .ok c
  | (key, value) :: rest =>
    match c.assign key value with
    | .ok c => assignAll input c rest
    | .error kind => .error ⟨key, value.display, kind, input⟩

/-- The configuration that raw settings give. -/
def ofSettings (settings : Settings) : Except InvalidSetting Configuration := assignAll settings {} settings.entries

end Configuration
end SchemaClasses
