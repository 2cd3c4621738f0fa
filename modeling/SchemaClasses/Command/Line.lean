import SchemaClasses.Settings.Layers

/-!
# Command lines

`Command.parse` reads the arguments of the program. Options have a long name and perhaps a short letter; an option with
a value takes it from behind `=`, from the rest of a group of letters or from the next argument, and no value is
empty. No option may be repeated. The options for help and for the version answer at once, whatever follows them.
Anything else is no command line.
-/

namespace SchemaClasses

/-- An option of a command. -/
structure Switch where
  name : String
  letter : Option Char := none
  hasValue : Bool := false
  /-- Nothing behind the option is looked at. -/
  isFinal : Bool := false

/-- An option that was given, with its value if it takes one. -/
abbrev Given := String × Option String

/-- What is left of a command line behind its options. -/
inductive Leftover where
  /-- An argument that is no option, and the arguments behind it. -/
  | word (arg : String) (rest : List String)
  /-- Two dashes, and the arguments behind them. -/
  | dashes (rest : List String)
  | nothing

namespace Switch

/-- Puts an option to those given before, once. -/
def give (given : List Given) (g : Given) : Option (List Given) :=
  if given.any (·.1 == g.1) then none else some (given ++ [g])

/-- The value that the next argument gives: it is not empty and looks like no option. -/
def nextValue? : List String → Option (String × List String)
  | [] => none
  | arg :: rest => if arg.isEmpty ∨ (arg.toList.head? = some '-' ∧ arg ≠ "-") then none else some (arg, rest)

/-- The options of a group of letters, and the arguments left. -/
def letters (switches : List Switch) (given : List Given) (rest : List String) :
    List Char → Option (List Given × List String)
  | [] => some (given, rest)
  | c :: cs =>
    match switches.find? (·.letter == some c) with
    | none => none
    | some s =>
      if s.hasValue then
        match cs with
        | [] => do
          let (value, rest) ← nextValue? rest
          let given ← give given (s.name, some value)
          return (given, rest)
        | '=' :: [] => none
        | '=' :: value => (give given (s.name, some (String.ofList value))).map (·, rest)
        | value => (give given (s.name, some (String.ofList value))).map (·, rest)
      else do
        let given ← give given (s.name, none)
        if s.isFinal then return (given, rest) else letters switches given rest cs

/-- The option of a long name, and the arguments left. -/
def long (switches : List Switch) (given : List Given) (rest : List String) (arg : List Char) :
    Option (List Given × List String) := do
  let name := arg.takeWhile (· != '=')
  let s ← switches.find? (·.name.toList == name)
  match arg.dropWhile (· != '='), s.hasValue with
  | [], false => (give given (s.name, none)).map (·, rest)
  | [], true =>
    let (value, rest) ← nextValue? rest
    let given ← give given (s.name, some value)
    return (given, rest)
  | _ :: c :: cs, true => (give given (s.name, some (String.ofList (c :: cs)))).map (·, rest)
  | _, _ => none

/-- Whether a final option was given. -/
def isOver (switches : List Switch) (given : List Given) : Bool :=
  switches.any fun s => s.isFinal && given.any (·.1 == s.name)

/-- The options at the start of a command line, up to a word, to two dashes or to a final option. Each step takes an
argument. -/
def scan (switches : List Switch) (steps : Nat) (given : List Given) (args : List String) :
    Option (List Given × Leftover) :=
  match steps, args with
  | steps + 1, arg :: rest =>
    let more (r : List Given × List String) : Option (List Given × Leftover) :=
      if isOver switches r.1 then some (r.1, .nothing) else scan switches steps r.1 r.2
    match arg.toList with
    | ['-', '-'] => some (given, .dashes rest)
    | '-' :: '-' :: name => (long switches given rest name).bind more
    | '-' :: c :: cs => (letters switches given rest (c :: cs)).bind more
    | _ => some (given, .word arg rest)
  | _, _ => some (given, .nothing)

end Switch

/-! ## Commands -/

/-- The arguments of a generation. -/
structure GenerateArgs where
  input : Path
  flags : Flags
  /-- The settings file. -/
  config : Option Path
  /-- Whether a formatter lays out the code. -/
  format : Bool

/-- What a command line asks for. -/
inductive Command where
  | generate (args : GenerateArgs)
  | init (output : Path) (force : Bool)
  | manifest
  | version
  | help

namespace Command

/-- The option for more messages, which every command takes. -/
def verbose : Switch where
  name := "verbose"
  letter := some 'v'

/-- The option that asks for help. -/
def helpSwitch : Switch where
  name := "help"
  letter := some 'h'
  isFinal := true

/-- The option that asks for the version. -/
def versionSwitch : Switch where
  name := "version"
  letter := some 'V'
  isFinal := true

/-- An option with a value and a letter. -/
def valued (name : String) (letter : Char) : Switch where
  name
  letter := some letter
  hasValue := true

/-- An option without value and letter. -/
def plain (name : String) : Switch where
  name

/-- The name of the settings file. -/
def settingsFile : String := "nestbase.toml"

/-- The value of an option. -/
def value? (given : List Given) (name : String) : Option String := (given.lookup name).bind id

/-- Whether an option was given. -/
def isGiven (given : List Given) (name : String) : Bool := given.any (·.1 == name)

/-- The options of a command that takes nothing else. -/
def options? (switches : List Switch) (args : List String) : Option (List Given) :=
  match Switch.scan (verbose :: helpSwitch :: switches) args.length [] args with
  | some (given, .nothing) => some given
  | some (given, .dashes []) => some given
  | _ => none

/-- A generation. -/
def generate? (given : List Given) : Option Command := do
  let input ← value? given "input"
  let dry := isGiven given "dry-run"
  let wet := isGiven given "no-dry-run"
  if dry && wet then none
  else
    return .generate {
      input := ⟨input⟩
      flags :=
        { output := (value? given "output").map Path.mk
          dryRun := if dry then some true else if wet then some false else none }
      config := (value? given "config").map Path.mk
      format := !isGiven given "no-format" }

/-- What to make of the options of a command: help if they ask for it. -/
def orHelp (given : List Given) (command : Option Command) : Option Command :=
  if isGiven given "help" then some .help else command

/-- A command by its name and its arguments. -/
def named? (name : String) (args : List String) : Option Command :=
  match name with
  | "generate" => do
    let given ← options? [valued "input" 'i', valued "output" 'o', plain "dry-run", plain "no-dry-run",
      valued "config" 'c', plain "no-format"] args
    orHelp given (generate? given)
  | "init" => do
    let given ← options? [valued "output" 'o', plain "force"] args
    orHelp given (some (.init ⟨(value? given "output").getD settingsFile⟩ (isGiven given "force")))
  | "manifest" => do
    let given ← options? [] args
    orHelp given (some .manifest)
  | "help" =>
    if args.all (["generate", "init", "manifest", "help"].contains ·) && args.length ≤ 1 then some .help else none
  | _ => none

/-- The command that arguments ask for; nothing if they are no command line. -/
def parse (args : List String) : Option Command := do
  let (given, leftover) ← Switch.scan [verbose, helpSwitch, versionSwitch] args.length [] args
  if isGiven given "version" then return .version
  else if isGiven given "help" then return .help
  else
    match leftover with
    | .word name args => named? name args
    | _ => none

end Command
end SchemaClasses
