import PeerTracker.Log
import PeerTracker.Settings.Boot

/-!
# The command line

`--config PATH` names the settings file, `--create-config` allows to write a
default one. Options are looked at from left to right: the first mistake, or the
first demand for help or the version, decides.
-/

namespace PeerTracker.CommandLine

def programName : String := "swarm-tracker"
def version : String := "1.0.0"
def versionText : String := programName ++ " " ++ version

structure Options where
  config : Option String := none
  createConfig : Bool := false
deriving DecidableEq, Repr

/-- What an operator asks for. -/
inductive Demand where
  | start (o : Options)
  | help
  | version
  /-- Arguments that make no sense. -/
  | mistake
deriving DecidableEq, Repr

/-- What stands before and after the first equals sign of an option. -/
def cutOption (arg : String) : String × Option String :=
  let name := arg.toList.takeWhile (· ≠ '=')
  let rest := arg.toList.drop name.length
  (String.ofList name, if rest = [] then none else some (String.ofList (rest.drop 1)))

/-- Whether an argument looks like an option, so that it is nobody's value. -/
def isOption (arg : String) : Bool := arg.startsWith "-" && arg ≠ "-"

/-- What a cluster of short options asks for: its first letter decides. -/
def short (arg : String) : Demand :=
  match arg.toList with
  | '-' :: 'h' :: _ => .help
  | '-' :: 'V' :: _ => .version
  | _ => .mistake

def parseFrom (o : Options) : List String → Demand
  | [] => .start o
  | arg :: rest =>
    if arg = "--" then if rest = [] then .start o else .mistake
    else if arg.startsWith "--" then
      match cutOption arg, rest with
      | ("--create-config", none), rest =>
        if o.createConfig then .mistake else parseFrom { o with createConfig := true } rest
      | ("--help", none), _ => .help
      | ("--version", none), _ => .version
      | ("--config", some value), rest =>
        if o.config.isSome then .mistake else parseFrom { o with config := some value } rest
      | ("--config", none), value :: rest =>
        if o.config.isSome || isOption value then .mistake
        else parseFrom { o with config := some value } rest
      | _, _ => .mistake
    else short arg

def parse (args : List String) : Demand := parseFrom {} args

def helpText : String :=
  "Usage: " ++ programName ++ " [OPTIONS]\n\nOptions:\n"
    ++ "      --config <CONFIG>  Path of the configuration file, defaults to "
    ++ "$SWARM_TRACKER_CONFIG or config.toml\n"
    ++ "      --create-config    Create the config file if it does not exist or is broken\n"
    ++ "  -h, --help             Print help\n  -V, --version          Print version\n"

/-- The variable of the environment that names the settings file. -/
def environmentName : String := "SWARM_TRACKER_CONFIG"

/-! ## Starting -/

/-- What becomes of a start: it serves with these settings, or ends. -/
inductive Outcome where
  | serve (s : Settings) (threshold : Log.Threshold)
  | exit (code : UInt32)

/-- A start with its lines. -/
structure Start where
  outcome : Outcome
  out : List String := []
  err : List String := []

/-- Exit code of a start that found no usable settings. -/
def failedStart : UInt32 := 101

/-- Exit code of a listener that could not be opened. -/
def failedListener : UInt32 := 1

/-- Exit code of a senseless command line. -/
def misuse : UInt32 := 2

/-- Goes on after the settings were looked for, by setting up logging. -/
def proceed (b : Settings.Boot) : Start :=
  match b.result with
  | .error _ => ⟨.exit failedStart, b.out, b.err⟩
  | .ok s =>
    match Log.setUp none s.logLevel with
    | .error e => ⟨.exit failedStart, b.out, b.err ++ ["[BOOT] " ++ e.message]⟩
    | .ok t => ⟨.serve s t, b.out, b.err⟩

/-- Starts on a disk. -/
def start (defaults : Settings) (o : Options) (environment : Option String) (d : Disk) :
    Start × Disk :=
  let (b, d) := Settings.boot defaults (Settings.chosenPath o.config environment) o.createConfig d
  (proceed b, d)

/-- Answers a demand that needs no settings. -/
def settle : Demand → Start
  | .help => ⟨.exit 0, [helpText], []⟩
  | .version => ⟨.exit 0, [versionText], []⟩
  | _ => ⟨.exit misuse, [], ["error: invalid arguments"]⟩

/-- Runs a whole command line on a disk, up to the point where it serves. -/
def run (defaults : Settings) (args : List String) (environment : Option String) (d : Disk) :
    Start × Disk :=
  match parse args with
  | .start o => start defaults o environment d
  | demand => (settle demand, d)

end PeerTracker.CommandLine
