import SchemaClasses.Settings.Configuration
import SchemaClasses.Toml.Read

/-!
# Layers of settings

Settings come from the document, from a file in TOML and from flags of the command line; a later layer overrides an
earlier one name by name.
-/

namespace SchemaClasses

/-! ## The file -/

/-- The text of a node. -/
def Toml.Node.text? : Toml.Node → Option String
  | .text s => some s
  | _ => none

/-- The setting that a node of a table gives. -/
def Setting.ofToml? : Toml.Node → Option Setting
  | .text s => some (.text s)
  | .flag b => some (.flag b)
  | .list items => (items.mapM Toml.Node.text?).map .list
  | _ => none

namespace Settings

/-- The settings that the entries of a table give. -/
def ofEntries? (es : Toml.Entries) : Option Settings :=
  (es.mapM fun e => (Setting.ofToml? e.2).map (e.1, ·)).map Dictionary.ofList

/-- The settings in the `generator` table of a text; nothing if the text is not TOML or the table holds more than
settings. -/
def ofToml? (text : String) : Option Settings := do
  let top ← Toml.read? text
  match top.lookup "generator" with
  | none => return .empty
  | some (.table _ es) => ofEntries? es
  | some (.inline es) => ofEntries? es
  | some _ => none

/-- The directory that settings name for the output. -/
def output? (settings : Settings) : Option Path := (settings.get? "output").bind Setting.path?

/-- What a new settings file holds. -/
def template : String := "\n".intercalate [
  "# nestbase configuration file",
  "#",
  "# Options set here override the generator block of the schema;",
  "# command-line flags override this file.",
  "",
  "[generator]",
  "# Output directory; replaces the generator block's output",
  "# output = \"./base\"",
  "",
  "# Compute everything but write nothing",
  "dryRun = false",
  "",
  "# Emit an aggregating index.ts",
  "makeIndexFile = true",
  "",
  "# Split every model into a <Model>Relations class and a plain class",
  "separateRelationFields = false",
  "",
  "# Attach @nestjs/swagger decorators",
  "useSwagger = true",
  ""]

end Settings

/-! ## The layers -/

/-- The settings that flags of the command line make. -/
structure Flags where
  output : Option Path := none
  dryRun : Option Bool := none

/-- The flags as settings. -/
def Flags.toSettings (flags : Flags) : Settings :=
  .ofList <|
    (flags.dryRun.map fun b => ("dryRun", Setting.flag b)).toList
      ++ (flags.output.map fun p => ("output", Setting.text p.text)).toList

/-- The settings of a document under those of a file and of flags. -/
def Settings.layered (document file : Settings) (flags : Flags) : Settings :=
  (document.overlay file).overlay flags.toSettings

/-- The directory that the flags or else the file ask for, over the head of the document. -/
def requestedOutput (file : Settings) (flags : Flags) : Option Path := flags.output.or file.output?

end SchemaClasses
