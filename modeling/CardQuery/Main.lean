import CardQuery.CommandLine.Run

/-!
# The program

The program runs the command on its command line in its environment, prints what
comes of it and ends with its status.
-/

namespace CardQuery

/-- The variables of the environment that are settings, with their names in
small letters or not. -/
def settingVariables : IO (List (Text × Text)) := do
  let names := Settings.names.map Text.lower ++ Settings.names
  let entries ← names.mapM fun name => do
    let value ← IO.getEnv name.string
    return value.map fun value => (name, value.toList)
  return entries.filterMap id

/-- Prints what running a line of arguments comes to, and gives the status of
the program. -/
def report : Except RunError Outcome → IO UInt32
  | .ok outcome => do
      if let some text := outcome.result? then IO.println text.string
      if let some text := outcome.complaint? then IO.eprintln text.string
      return outcome.status.toUInt32
  | .error error => do
      IO.eprintln error.message.string
      return 1

end CardQuery

def main (arguments : List String) : IO UInt32 := do
  let environment ← CardQuery.settingVariables
  CardQuery.report
    (CardQuery.Command.runLine environment (arguments.map String.toList))
