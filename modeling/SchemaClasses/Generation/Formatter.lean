import SchemaClasses.Error
import SchemaClasses.Text.Blank
import SchemaClasses.Text.Utf8

/-!
# Formatters

A formatter lays out the code of a file anew, or refuses. A refusal is no failure: the code stays as it is
(`Formatter.orKeep`). `Formatter.ofProgram` is the formatter that runs a program on the code.
-/

namespace SchemaClasses

/-- How a program ended. -/
inductive ExitStatus where
  | code (n : Nat)
  | signal (n : Nat)
deriving DecidableEq

/-- The names of the signals, from the first on. -/
def signalNames : List String := [
  "SIGHUP", "SIGINT", "SIGQUIT", "SIGILL", "SIGTRAP", "SIGABRT", "SIGBUS", "SIGFPE", "SIGKILL", "SIGUSR1", "SIGSEGV",
  "SIGUSR2", "SIGPIPE", "SIGALRM", "SIGTERM", "SIGSTKFLT", "SIGCHLD", "SIGCONT", "SIGSTOP", "SIGTSTP", "SIGTTIN",
  "SIGTTOU", "SIGURG", "SIGXCPU", "SIGXFSZ", "SIGVTALRM", "SIGPROF", "SIGWINCH", "SIGIO", "SIGPWR", "SIGSYS"]

/-- How a message names the end of a program. -/
def ExitStatus.text : ExitStatus → String
  | .code n => "exit status: " ++ toString n
  | .signal n =>
    match n with
    | 0 => "signal: 0"
    | k + 1 => "signal: " ++ toString n ++ (signalNames[k]?.elim "" fun name => " (" ++ name ++ ")")

/-- Why a formatter refuses. -/
inductive FormatError where
  | notRun (program : String) (cause : IoError)
  | failed (status : ExitStatus) (stderr : String)
  | notText (fault : Text.Utf8.Fault)

/-- The message of a refusal. -/
def FormatError.message : FormatError → String
  | .notRun program cause => "Failed to run formatter '" ++ program ++ "': " ++ cause.message
  | .failed status stderr => "Formatter exited with " ++ status.text ++ ": " ++ stderr
  | .notText fault => "Formatter produced invalid UTF-8: " ++ fault.message

/-- Lays out the code of the file that will lie at a path. -/
abbrev Formatter := Path → String → Except FormatError String

/-- Code, and whether a formatter laid it out. -/
structure Formatted where
  text : String
  formatted : Bool
deriving DecidableEq

namespace Formatter

/-- Leaves code as it is. -/
def passThrough : Formatter := fun _ source => .ok source

/-- The code that a formatter gives, or the code as it was if the formatter refuses. -/
def orKeep (fmt : Formatter) (path : Path) (source : String) : Formatted :=
  match fmt path source with
  | .ok text => ⟨text, true⟩
  | .error _ => ⟨source, false⟩

/-- What came of running a program: it could not be run, or it ended and wrote bytes to its two outputs. -/
inductive Outcome where
  | notRun (cause : IoError)
  | ended (status : ExitStatus) (stdout stderr : List UInt8)

/-- The formatter that gives a program the code as input and takes its output, if it ends well and writes text. `run`
gets the arguments and the input. -/
def ofProgram (program : String) (run : List String → String → Outcome) : Formatter := fun path source =>
  match run ["--stdin-filepath", path.text] source with
  | .notRun cause => .error (.notRun program cause)
  | .ended status stdout stderr =>
    if status = .code 0 then
      match Text.Utf8.fault? stdout with
      | some fault => .error (.notText fault)
      | none => .ok (Text.Utf8.lossy stdout)
    else .error (.failed status (Text.trim (Text.Utf8.lossy stderr)))

end Formatter
end SchemaClasses
