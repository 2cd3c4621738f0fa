import SchemaClasses.Json.Value
import SchemaClasses.Layout.Client

/-!
# The manifest

What the generator tells the toolchain that runs it: its version and name, where its output goes by default, and which
generators have to run beside it.
-/

namespace SchemaClasses

/-- The version of the generator. -/
def version : String := "0.1.0"

/-- The name under which the generator shows itself. -/
def generatorName : String := "nestbase"

/-- The line that names the generator and its version. -/
def versionLine : String := generatorName ++ " " ++ version

/-- The entries of the manifest. -/
def manifest : List (String × Json.Value) := [
  ("version", .string version),
  ("defaultOutput", .string "../generated/base"),
  ("prettyName", .string generatorName),
  ("requiresGenerators", .array [.string clientProvider])]

/-- The lines of a value in a text with a line for each entry, at some depth. -/
def Json.Value.linesAt (depth : Nat) : Json.Value → String
  | .array (v :: vs) =>
    let indent := String.ofList (List.replicate (2 * depth + 2) ' ')
    let close := String.ofList (List.replicate (2 * depth) ' ')
    "[\n" ++ ",\n".intercalate ((v :: vs).map fun v => indent ++ v.compact) ++ "\n" ++ close ++ "]"
  | v => v.compact

/-- The text of the manifest. -/
def manifestText : String :=
  "\x7b\n"
    ++ ",\n".intercalate (manifest.map fun e => "  " ++ Json.quote e.1 ++ ": " ++ e.2.linesAt 1) ++ "\n\x7d"

end SchemaClasses
