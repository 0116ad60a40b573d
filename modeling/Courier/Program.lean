import Courier.Config.Layers
import Courier.Simulation.Run

/-! # The program

Loads the settings and runs a simulation with them. It fails if there are no
settings, and breaks off where it cannot go on: at a variable that cannot be
set, at a log filter that would be cut within a character, and at a queue that
would be too large. Its output are the log records that the filter lets
through.
-/

namespace Courier

/-- Why the program did not come to its end. -/
inductive ProgramError where
  | settings (e : Config.Error)
  /-- A part of a log filter would be cut within a character. -/
  | filter
  /-- A queue would have too many places. -/
  | queue

namespace ProgramError

def exitCode : ProgramError → UInt8
  | .settings .badVariable => 101
  | .settings _ => 1
  | .filter => 101
  | .queue => 101

def message : ProgramError → String
  | .settings e => e.message
  | .filter => "the log filter cannot be split within a character"
  | .queue => "a queue cannot have so many places"

end ProgramError

/-- What the program leaves behind. -/
structure Execution where
  format : LogFormat
  records : List Log.Record
  error : Option ProgramError

namespace Execution

def exitCode (e : Execution) : UInt8 :=
  (e.error.map ProgramError.exitCode).getD 0

end Execution

namespace Program

/-- The variable that takes the place of the configured level, if all its
directives can be read. -/
def filterVariable : String := "RUST_LOG"

def logFilter (env : Config.Environment) (s : LoggingSettings) :
    Except Log.DirectiveError Log.Filter :=
  match (env.get? filterVariable).map Log.Filter.read with
  | some (.ok f) => .ok f
  | some (.error .splitCharacter) => .error .splitCharacter
  | some (.error .malformed) => Log.Filter.readLossy s.level
  | none => Log.Filter.readLossy s.level

/-- The records of a run with these settings, and why it broke off. -/
def run (settings : Settings) (seed : Nat) (moment : Moment) :
    List Log.Record × Option ProgramError :=
  if Simulation.isFeasible settings then ((Simulation.run settings seed moment).records, none)
  else ([Simulation.Report.configuration settings.pipeline], some .queue)

def execute (sources : Config.Sources) (seed : Nat) (moment : Moment) : Execution :=
  match Config.load sources with
  | .error e => ⟨.pretty, [], some (.settings e)⟩
  | .ok (env, settings) =>
      let format := settings.logging.format
      match logFilter env settings.logging with
      | .error _ => ⟨format, [], some .filter⟩
      | .ok filter =>
          let (records, error) := run settings seed moment
          ⟨format, filter.apply records, error⟩

end Program

end Courier
