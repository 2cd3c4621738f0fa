import SchemaClasses.Command.Line
import SchemaClasses.Command.Manifest
import SchemaClasses.Generation.Run
import SchemaClasses.Schema.Read

/-!
# What commands do

A command becomes a **script** (`Command.script`): lines to print, files to write, and how it ends once they are
written. The script is made from what can be read beforehand; `Script.run` carries it out on a file system and gives
the **transcript** of the program.
-/

namespace SchemaClasses

/-- What a command can look at. -/
structure Surroundings where
  env : Environment
  /-- The working directory, as an absolute path. -/
  cwd : Path
  formatter : Formatter
  read : Path → Except IoError String
  has : Path → Bool

/-- Files to write. -/
inductive Writes where
  /-- One file, into a directory that is there. -/
  | single (path : Path) (text : String)
  /-- Files with the directories they lie in. -/
  | tree (files : List (Path × String))

/-- What a command does. -/
structure Script where
  /-- The lines printed before anything is written. -/
  opening : List String
  writes : Writes
  /-- The lines printed at the end, or why the command fails. -/
  ending : Except CommandError (List String)

/-- What a program printed, and the code it ended with. -/
structure Transcript where
  code : Nat
  stdout : String
  stderr : String
deriving DecidableEq

namespace Command

/-! ## Generation -/

/-- The line about a file. -/
def fileLine (f : OutputFile) : String :=
  if f.written then "✓ Written " ++ toString f.bytes ++ " bytes to " ++ f.path.text
  else "[dry-run] Would write " ++ f.path.text

/-- The lines about a file. -/
def fileLines (f : OutputFile) : List String :=
  fileLine f :: if f.formatted then [] else ["  warning: left unformatted"]

/-- The lines about a run. -/
def summary (g : Generated) : List String :=
  g.all.flatMap fileLines
    ++ ["  Generated " ++ toString g.all.length ++ " file(s), " ++ toString g.written ++ " written"]

/-- The document in a file. -/
def loadDocument (s : Surroundings) (file : Path) : Except GenerationError Document := do
  let text ← (s.read file).mapError (.unreadable file)
  (Json.decode Document.read text).mapError (.undecodable file)

/-- The settings in the settings file, if there is one. -/
def loadSettings (s : Surroundings) (file : Path) : Except SettingsError Settings :=
  if s.has file then do
    let text ← (s.read file).mapError (.unreadable file)
    match Settings.ofToml? text with
    | some settings => return settings
    | none => .error (.notToml file)
  else .ok .empty

/-- The line about a document. -/
def documentLine (d : Document) : String :=
  "  Found " ++ toString d.schema.models.length ++ " model(s), " ++ toString d.schema.enums.length ++ " enum(s)"

/-- The context of a generation. -/
def contextOf (s : Surroundings) (args : GenerateArgs) (d : Document) : Except CommandError Context := do
  let file ← (loadSettings s (args.config.getD ⟨settingsFile⟩)).mapError .settings
  (Context.ofLayers s.env s.cwd d file args.flags).mapError .generation

/-- A script that only fails. -/
def fails (opening : List String) (e : CommandError) : Script := ⟨opening, .tree [], .error e⟩

/-- The script of a generation. -/
def generateScript (s : Surroundings) (args : GenerateArgs) : Script :=
  let opening := ["Reading generator options..."]
  match loadDocument s args.input with
  | .error e => fails opening (.generation e)
  | .ok d =>
    let opening := opening ++ [documentLine d]
    match contextOf s args d with
    | .error e => fails opening e
    | .ok context =>
      let opening := opening ++ ["Generating classes..."]
      match context.plan with
      | .error e => fails opening (.generation e)
      | .ok modules =>
        let prepared := context.prepare (if args.format then s.formatter else .passThrough) modules
        { opening
          writes := .tree <|
            if context.config.dryRun then [] else prepared.files.map fun f => (f.path, f.content)
          ending := (prepared.outcome.map summary).mapError .generation }

/-! ## Other commands -/

/-- The script that makes a settings file. -/
def initScript (s : Surroundings) (output : Path) (force : Bool) : Script :=
  if s.has output && !force then
    fails ["Error: Configuration file already exists: " ++ output.text, "  Use --force to overwrite"]
      (.refused "Configuration file already exists")
  else
    { opening := []
      writes := .single output Settings.template
      ending := .ok ["✓ Created configuration file: " ++ output.text] }

/-- A script that only prints. -/
def prints (lines : List String) : Script := ⟨lines, .tree [], .ok []⟩

/-- The lines that help with the command line. -/
def helpLines : List String := [
  "Usage: nestbase [-v] generate -i FILE [-o DIR] [--dry-run | --no-dry-run] [-c FILE] [--no-format]",
  "       nestbase [-v] init [-o FILE] [--force]",
  "       nestbase [-v] manifest"]

/-- The script of a command. -/
def script (s : Surroundings) : Command → Script
  | .generate args => generateScript s args
  | .init output force => initScript s output force
  | .manifest => prints [manifestText]
  | .version => prints [versionLine]
  | .help => prints helpLines

end Command

/-- The files that a command looks at. -/
def Command.looksAt : Command → List Path
  | .generate args => [args.input, args.config.getD ⟨settingsFile⟩]
  | .init output _ => [output]
  | _ => []

namespace Script

/-- Lines as text. -/
def textOf (lines : List String) : String := String.join (lines.map (· ++ "\n"))

/-- The text of an error for a reader at a terminal. -/
def errorText (e : CommandError) : String :=
  match (Notice.of e).lines with
  | [] => ""
  | headline :: more => textOf (("Error: " ++ headline) :: more)

/-- The transcript of a script whose writes failed or went well. -/
def transcript (script : Script) (failure : Option CommandError) : Transcript :=
  match failure, script.ending with
  | some e, _ => ⟨1, textOf script.opening, errorText e⟩
  | none, .error e => ⟨1, textOf script.opening, errorText e⟩
  | none, .ok lines => ⟨0, textOf (script.opening ++ lines), ""⟩

/-- The file system after the writes of a script, and why they fail if they do. -/
def perform (fs : FileSystem) : Writes → FileSystem × Option CommandError
  | .tree files =>
    let (fs, failure) := fs.writeAll files
    (fs, failure.map .generation)
  | .single path text =>
    match fs.write path text with
    | .ok fs => (fs, none)
    | .error e => (fs, some (.io e))

/-- The file system after a script, and the transcript. -/
def run (script : Script) (fs : FileSystem) : FileSystem × Transcript :=
  let (fs, failure) := perform fs script.writes
  (fs, script.transcript failure)

end Script

/-- What a command sees of a file system. -/
def FileSystem.surroundings (fs : FileSystem) (env : Environment) (fmt : Formatter) : Surroundings where
  env
  cwd := ⟨"/" ++ "/".intercalate fs.cwd⟩
  formatter := fmt
  read := fs.read
  has := fs.has

/-- The transcript of arguments that are no command line. -/
def notUnderstood : Transcript := ⟨2, "", Script.textOf Command.helpLines⟩

/-- The program: the file system after a command line, and the transcript. -/
def runProgram (env : Environment) (fmt : Formatter) (args : List String) (fs : FileSystem) :
    FileSystem × Transcript :=
  match Command.parse args with
  | none => (fs, notUnderstood)
  | some command => ((Command.script (fs.surroundings env fmt) command).run fs)

end SchemaClasses
