import SchemaClasses.Command.Script

/-!
# The program

Reads the arguments, looks at the files that the command names, and carries out its script. No formatter is at hand,
so generated code stays as it is.
-/

open SchemaClasses

/-- The error of the operating system that an exception reports; some calls give its number negated. -/
def ioErrorOf : IO.Error → IoError
  | .noFileOrDirectory _ _ _ => .missing
  | .alreadyExists _ _ _ => .occupied
  | .inappropriateType _ code details =>
    let code := if code < 0x80000000 then code else 0 - code
    if code = 20 then .notDirectory else if code = 21 then .isDirectory else .other details
  | e => .other (toString e)

/-- Runs an action and keeps the error it throws. -/
def attempt {α : Type} (action : IO α) : IO (Except IoError α) := do
  try
    return .ok (← action)
  catch e =>
    return .error (ioErrorOf e)

/-- The text of a file. -/
def readText (path : Path) : IO (Except IoError String) := do
  match ← attempt (IO.FS.readBinFile path.text) with
  | .error e => return .error e
  | .ok bytes => return (String.fromUTF8? bytes).elim (.error .notText) .ok

/-- Whether there is anything at a path. -/
def isThere (path : Path) : IO Bool := do
  return (← attempt (IO.FS.realPath path.text)).isOk

/-- The variables of the environment that a document in one of the texts names. -/
def variablesOf (texts : List (Path × Except IoError String)) : IO (List (String × Option String)) := do
  let names := texts.flatMap fun (_, text) =>
    match text with
    | .ok text => (Json.decode Document.read text).toOption.elim [] Document.variableNames
    | .error _ => []
  names.mapM fun name => do return (name, ← IO.getEnv name)

/-- What a command sees. -/
def look (command : Command) : IO Surroundings := do
  let texts ← command.looksAt.mapM fun p => do return (p, ← readText p)
  let there ← command.looksAt.mapM fun p => do return (p, ← isThere p)
  let bindings ← variablesOf texts
  let cwd ← IO.currentDir
  return {
    env := fun name => (bindings.lookup name).bind id
    cwd := ⟨toString cwd⟩
    formatter := Formatter.ofProgram "prettier" fun _ _ => .notRun .missing
    read := fun p => ((texts.find? (·.1 = p)).map Prod.snd).getD (.error .missing)
    has := fun p => ((there.find? (·.1 = p)).map Prod.snd).getD false }

/-- Writes files up to the first that cannot be written. -/
def writeTree : List (Path × String) → IO (Option CommandError)
  | [] => return none
  | (path, text) :: files => do
    let parent := path.parent?.getD ⟨""⟩
    match ← attempt (IO.FS.createDirAll parent.text) with
    | .error e => return some (.generation (.noDirectory parent e))
    | .ok () =>
      match ← attempt (IO.FS.writeFile path.text text) with
      | .error e => return some (.generation (.unwritable path e))
      | .ok () => writeTree files

/-- Carries out the writes of a script. -/
def performWrites : Writes → IO (Option CommandError)
  | .tree files => writeTree files
  | .single path text => do
    match ← attempt (IO.FS.writeFile path.text text) with
    | .error e => return some (.io e)
    | .ok () => return none

/-- Prints a transcript and gives its code. -/
def showTranscript (t : Transcript) : IO UInt32 := do
  IO.print t.stdout
  IO.eprint t.stderr
  return t.code.toUInt32

/-- Runs the command that the arguments ask for. -/
def main (args : List String) : IO UInt32 := do
  match Command.parse args with
  | none => showTranscript notUnderstood
  | some command =>
    let script := Command.script (← look command) command
    let failure ← performWrites script.writes
    showTranscript (script.transcript failure)
