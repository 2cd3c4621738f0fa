import SchemaClasses.Settings.Configuration

/-!
# Errors

Why a run fails, from the operating system up to the command line, with the message of each cause.
-/

namespace SchemaClasses

/-- Why the operating system refuses. -/
inductive IoError where
  | missing
  | occupied
  | notDirectory
  | isDirectory
  | notText
  | other (message : String)
deriving DecidableEq

/-- The message of the operating system. -/
def IoError.message : IoError → String
  | .missing => "No such file or directory (os error 2)"
  | .occupied => "File exists (os error 17)"
  | .notDirectory => "Not a directory (os error 20)"
  | .isDirectory => "Is a directory (os error 21)"
  | .notText => "stream did not contain valid UTF-8"
  | .other message => message

/-- Why settings cannot be had. -/
inductive SettingsError where
  | invalid (e : InvalidSetting)
  | notToml (file : Path)
  | unreadable (file : Path) (cause : IoError)

/-- The message about settings. -/
def SettingsError.message : SettingsError → String
  | .invalid e => e.message
  | .notToml file => "Invalid TOML in " ++ file.text ++ ": not a table of settings"
  | .unreadable file cause => "Failed to read config " ++ file.text ++ ": " ++ cause.message

/-- Why classes cannot be generated. -/
inductive GenerationError where
  | unreadable (file : Path) (cause : IoError)
  | undecodable (file : Path) (cause : Json.Error)
  | settings (e : SettingsError)
  | clientUnknown (reason : String)
  | noProperties (className : String)
  | unknownModel (file : Path) (model : String)
  | noDirectory (directory : Path) (cause : IoError)
  | unwritable (file : Path) (cause : IoError)

namespace GenerationError

/-- The message about a client module that is not known. -/
def clientMessage (reason : String) : String := "Cannot determine the client module location: " ++ reason

/-- The message about classes that cannot be generated. -/
def message : GenerationError → String
  | .unreadable file cause => "Failed to read input: Failed to read " ++ file.text ++ ": " ++ cause.message
  | .undecodable file cause => "Failed to read input: Invalid DMMF document " ++ file.text ++ ": " ++ cause.message
  | .settings e => "Invalid generator configuration: " ++ e.message
  | .clientUnknown reason => "Path resolution failed: " ++ clientMessage reason
  | .noProperties className => "Failed to render model: Model '" ++ className ++ "' has no fields"
  | .unknownModel file model =>
    "Failed to resolve imports: " ++ file.text ++ " imports unknown model '" ++ model ++ "'"
  | .noDirectory directory cause =>
    "Failed to write output: Failed to create directory " ++ directory.text ++ ": " ++ cause.message
  | .unwritable file cause =>
    "Failed to write output: Failed to write file " ++ file.text ++ ": " ++ cause.message

end GenerationError

/-- Why a command fails. -/
inductive CommandError where
  | generation (e : GenerationError)
  /-- The settings file cannot be loaded. -/
  | settings (e : SettingsError)
  | refused (reason : String)
  | io (cause : IoError)

/-- The message about a command. -/
def CommandError.message : CommandError → String
  | .generation e => e.message
  | .settings e => "Failed to load configuration: " ++ e.message
  | .refused reason => "Validation failed: " ++ reason
  | .io cause => "IO error: " ++ cause.message

/-- How an error is shown: settings of the wrong kind with the usage text and the settings, a client module that is
not known with a short text, anything else as unexpected. -/
inductive Notice where
  | misconfigured (message usage input : String)
  | invalidPath (detail : String)
  | unexpected (detail : String)

namespace Notice

/-- The notice of an error. -/
def of (e : CommandError) : Notice :=
  match e with
  | .settings (.invalid s) | .generation (.settings (.invalid s)) => .misconfigured e.message usage s.input.json
  | .generation (.clientUnknown reason) => .invalidPath (GenerationError.clientMessage reason)
  | e => .unexpected e.message

/-- The lines of a notice; a line may hold line breaks. -/
def lines : Notice → List String
  | .misconfigured message usage input => [message, usage, "Your Input : " ++ input]
  | .invalidPath detail => ["path not valid in generator", detail]
  | .unexpected detail => ["unexpected error occurred", detail]

end Notice
end SchemaClasses
