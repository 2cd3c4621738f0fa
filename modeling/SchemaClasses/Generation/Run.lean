import SchemaClasses.Conversion.Model
import SchemaClasses.FileSystem
import SchemaClasses.Generation.Formatter
import SchemaClasses.Layout.Index
import SchemaClasses.Settings.Layers

/-!
# Runs

A run takes a **context**: a schema, the options, where the output goes and what is known of the client module. It
**plans** the modules (`Context.plan`), **prepares** the text of each file (`Context.prepare`) and, unless it is dry,
writes the files (`Context.run`). What a dry run reports is what the other would write.
-/

namespace SchemaClasses

/-- What a run depends on. -/
structure Context where
  schema : Schema
  config : Configuration
  /-- The directory for output, as an absolute path. -/
  output : Path
  client : Client

/-- A file of a run. -/
structure OutputFile where
  path : Path
  content : String
  formatted : Bool
  written : Bool
deriving DecidableEq

/-- The size of a file in bytes. -/
def OutputFile.bytes (f : OutputFile) : Nat := f.content.utf8ByteSize

/-- What a run made. -/
structure Generated where
  files : List OutputFile
  index : Option OutputFile
deriving DecidableEq

namespace Generated

/-- The files of a run, the index last. -/
def all (g : Generated) : List OutputFile := g.files ++ g.index.toList

/-- How many files were written. -/
def written (g : Generated) : Nat := g.all.countP OutputFile.written

end Generated

namespace Context

/-! ## Contexts -/

/-- The context of a document under a configuration. The output of the generator block goes before the option. -/
def withConfiguration (env : Environment) (cwd : Path) (d : Document) (config : Configuration) : Context where
  schema := d.schema
  config
  output :=
    Path.anchored (((d.block.output.bind (EnvText.resolve env)).map Path.mk).getD config.output) cwd
  client := d.client env

/-- The context with another directory for output. -/
def withOutput (cwd : Path) (output : Path) (c : Context) : Context := { c with output := output.anchored cwd }

/-- The error about settings of the wrong kind. -/
def invalid (e : InvalidSetting) : GenerationError := .settings (.invalid e)

/-- The context of a document under its own settings. -/
def ofDocument (env : Environment) (cwd : Path) (d : Document) : Except GenerationError Context :=
  ((Configuration.ofSettings d.block.settings).map (withConfiguration env cwd d)).mapError invalid

/-- The context of a document under its own settings, those of a file and those of flags. -/
def ofLayers (env : Environment) (cwd : Path) (d : Document) (file : Settings) (flags : Flags) :
    Except GenerationError Context := do
  let config ← (Configuration.ofSettings (d.block.settings.layered file flags)).mapError invalid
  let context := withConfiguration env cwd d config
  return (requestedOutput file flags).elim context fun output => context.withOutput cwd output

/-! ## Planning -/

/-- The classes of a run; in split mode those without properties drop out. -/
def classes (c : Context) : List TypeScript.ClassDecl :=
  (c.schema.toClasses c.config.swagger c.config.split).filter fun d =>
    !(d.properties.isEmpty && c.config.split)

/-- The drafts of a run. -/
def drafts (c : Context) : Except GenerationError (List Draft) := c.classes.mapM (Draft.ofClass c.client c.output)

/-- The modules of a run, each with the places of all others. -/
def plan (c : Context) : Except GenerationError (List SourceModule) := do
  let drafts ← c.drafts
  drafts.mapM (Draft.place (Draft.places drafts))

/-! ## Preparing -/

/-- A file with the code that a formatter makes of some code. -/
def outputFile (c : Context) (fmt : Formatter) (path : Path) (source : String) : OutputFile where
  path
  content := (fmt.orKeep path source).text
  formatted := (fmt.orKeep path source).formatted
  written := !c.config.dryRun

/-- The files of modules up to the first one without code, and why that has none. -/
def prepareModules (c : Context) (fmt : Formatter) : List SourceModule → List OutputFile × Option GenerationError
  | [] => ([], none)
  | m :: ms =>
    match m.render with
    | .error e => ([], some e)
    | .ok source =>
      let (files, failure) := c.prepareModules fmt ms
      (c.outputFile fmt m.path source :: files, failure)

/-- The index file of modules. -/
def indexFile (c : Context) (fmt : Formatter) (ms : List SourceModule) : OutputFile :=
  let path := indexLocation c.output
  c.outputFile fmt path (indexCode path ms)

/-- The files of a run that fails before the index, or all that it makes. -/
structure Prepared where
  files : List OutputFile
  outcome : Except GenerationError Generated

/-- The files of modules, and of their index if it is wanted. -/
def prepare (c : Context) (fmt : Formatter) (ms : List SourceModule) : Prepared :=
  match c.prepareModules fmt ms with
  | (files, some e) => ⟨files, .error e⟩
  | (files, none) =>
    let made : Generated := ⟨files, if c.config.makeIndex then some (c.indexFile fmt ms) else none⟩
    ⟨made.all, .ok made⟩

/-! ## Running -/

/-- The file system after a run, and what the run made or why it failed. Files written before a failure stay. -/
def run (c : Context) (fmt : Formatter) (fs : FileSystem) : FileSystem × Except GenerationError Generated :=
  match c.plan with
  | .error e => (fs, .error e)
  | .ok ms =>
    let prepared := c.prepare fmt ms
    if c.config.dryRun then (fs, prepared.outcome)
    else
      match fs.writeAll (prepared.files.map fun f => (f.path, f.content)) with
      | (fs, some e) => (fs, .error e)
      | (fs, none) => (fs, prepared.outcome)

end Context

/-- The text of each module without formatting. -/
def codeByPath (ms : List SourceModule) : Except GenerationError (List (Path × String)) :=
  ms.mapM fun m => do
    let source ← m.render
    return (m.path, source)

end SchemaClasses
