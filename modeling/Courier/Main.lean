import Courier.Program

/-! # Command line

Reads the environment and the configuration files of the working directory,
runs the program, and prints its records.
-/

namespace Courier.Main

/-- Where the system keeps the variables of the process. -/
def variablesPath : String := "/proc/self/environ"

def readFile? (path : String) : IO (Option String) := do
  try
    return some (← IO.FS.readFile path)
  catch _ =>
    return none

/-- Reads the files that exist, and gives them by their paths. -/
def readFiles (paths : List String) : IO (String → Option String) := do
  let files ← paths.mapM fun path => return (path, ← readFile? path)
  return fun path => (files.find? (·.1 = path)).bind Prod.snd

def readSources : IO Config.Sources := do
  let environment := Config.Environment.ofBlock ((← readFile? variablesPath).getD "")
  let known : Config.Sources :=
    { environment, file? := ← readFiles [Config.Sources.variablesFile] }
  let mode := match known.fullEnvironment with
    | .ok env => [Config.modeName env]
    | .error _ => []
  let names := Config.defaultsName :: mode
  let paths := names.flatMap fun name => (Config.candidates known.formats name).map Prod.fst
  return { known with file? := ← readFiles (Config.Sources.variablesFile :: paths) }

end Courier.Main

def main : IO UInt32 := do
  let sources ← Courier.Main.readSources
  let seed ← IO.rand 0 2147483647
  let execution := Courier.Program.execute sources seed ⟨0, .newYear2024⟩
  for record in execution.records do
    IO.println (record.text execution.format)
  match execution.error with
  | some e => IO.eprintln ("Error: " ++ e.message)
  | none => pure ()
  return execution.exitCode.toUInt32
