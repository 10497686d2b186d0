import PeerTracker.Serving

/-!
# The program

Answers the command line, or finds the settings and serves.
-/

namespace PeerTracker.Program

/-- How many threads a machine is taken to run at once. -/
def usualThreads : UInt64 := 4

/-- Runs an action on a file; a failure is told in words. -/
def attempt (action : IO α) : IO (Except String α) := do
  try return .ok (← action)
  catch e => return .error (describe e)

def boot (path : String) (creating : Bool) : IO Settings.Boot := do
  let reading ← attempt (do return toBytes (← IO.FS.readBinFile path))
  match Settings.ofReading reading with
  | .ok s => return Settings.accept s
  | .error cause =>
    if creating then
      let text := (Settings.initial usualThreads).toText
      return Settings.afterWriting path cause (← attempt (IO.FS.writeFile path text))
    else return Settings.decline path cause

def start (o : CommandLine.Options) : IO CommandLine.Start := do
  let environment ← IO.getEnv CommandLine.environmentName
  return CommandLine.proceed
    (← boot (Settings.chosenPath o.config environment) o.createConfig)

end PeerTracker.Program

open PeerTracker in
def main (args : List String) : IO UInt32 := do
  let s ← match CommandLine.parse args with
    | .start o => Program.start o
    | demand => pure (CommandLine.settle demand)
  for line in s.out do IO.println line
  for line in s.err do IO.eprintln line
  match s.outcome with
  | .exit code => return code
  | .serve settings threshold => Program.serve settings threshold
