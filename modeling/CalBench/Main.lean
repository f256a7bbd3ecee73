/-
The command line program.

Reads the arguments, the files that the job names and the environment, and prints what the job has to
say. Interfaces other than emulated ones are not connected to anything here.
-/
import CalBench.CommandLine.Program

open CalBench

def readText (path : String) : IO (Option String) :=
  try
    return some (← IO.FS.readFile path)
  catch _ => return none

/-- the files that are there -/
def readFiles (paths : List String) : IO (Table String) := do
  let found ← paths.filterMapM fun path => do return (← readText path).map fun text => (path, text)
  return .ofList found

/-- the environment of this process; where it cannot be listed, the settings in it -/
def readEnvironment : IO (List (String × String)) := do
  try
    return variablesOf (← IO.FS.readBinFile "/proc/self/environ").toList
  catch _ =>
    EngineConfig.variableNames.filterMapM fun name => do return (← IO.getEnv name).map fun text => (name, text)

def main (args : List String) : IO UInt32 := do
  let invocation := Invocation.ofArguments args
  let files ← readFiles (match invocation with | .job j => j.files | _ => [])
  let bytes ← IO.getRandomBytes 16
  let printout := invocation.printout {
    file? := files.get?
    environment := ← readEnvironment
    freshId := runIdOf bytes.toList
    reach := unplugged }
  for line in printout.output do IO.println line
  for line in printout.errors do IO.eprintln line
  return printout.code.toUInt32
