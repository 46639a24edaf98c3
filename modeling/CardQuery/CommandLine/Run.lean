import CardQuery.CommandLine.Command
import CardQuery.Document.Report
import CardQuery.Document.Settings
import CardQuery.Operator.Standard
import CardQuery.Session

/-!
# Running a command

A command is run with the settings of an environment.  A validated query is
printed with what is known about it, and the status tells whether it is valid; a
built query is printed likewise.  If no query can be built, the reason is
reported instead.
-/

namespace CardQuery

/-- What running a line of arguments comes to. -/
inductive Outcome where
  /-- No command is run. -/
  | usage (usage : Usage)
  | printed (status : Nat) (document : Document)
  | refused (refusal : Refusal)
deriving Repr

/-- Why a command is not run to its end. -/
inductive RunError where
  /-- The environment has settings that are not read. -/
  | settings (problems : List Problem)
  /-- The environment asks for a level of logging that is not known. -/
  | logLevel (level : Text)
  | session (error : SessionError)
deriving Repr

namespace Outcome

def status : Outcome → Nat
  | usage .help => 0
  | usage .mistake => 2
  | printed status _ => status
  | refused _ => 2

/-- How the program is called. -/
def usageLine : Text :=
  "usage: validate QUERY [--result-count COUNT]" ++
    " | build TEXT [--optimize-for PURPOSE] [--format FORMAT]"

/-- What is printed as the result. -/
def result? : Outcome → Option Text
  | usage .help => some usageLine
  | printed _ document => some document.written
  | _ => none

/-- What is printed beside the result. -/
def complaint? : Outcome → Option Text
  | usage .mistake => some usageLine
  | refused refusal =>
      some (['\x7b'] ++ "\"error\": " ++ Document.asciiText refusal.message ++
        ['\x7d'])
  | _ => none

end Outcome

def RunError.message : RunError → Text
  | settings problems =>
      "Invalid environment configuration: " ++
        Text.join ", " (problems.map fun problem => Text.join "." problem.path)
  | logLevel level => "Unknown level: " ++ Text.quoted level
  | session error => error.message

namespace Command

def logLevels : List Text :=
  ["CRITICAL", "FATAL", "ERROR", "WARN", "WARNING", "INFO", "DEBUG", "NOTSET"]

/-- The level of logging that is asked for: that of the settings or else that of
the environment or else the standard one. -/
def logLevel (environment : List (Text × Text)) (settings : Settings) : Text :=
  let asked :=
    [settings.logLevel,
     ((environment.reverse.lookup "LOG_LEVEL".toList).getD [])]
  Text.upper ((asked.find? (!·.isEmpty)).getD Settings.standard.logLevel)

def run (session : Session) : Command → Except SessionError Outcome
  | validate query resultCount =>
      let validation := session.validate query (resultCount.map .number)
      .ok (.printed (if validation.isValid then 0 else 1)
        (validation.document printedConfidence))
  | build text strategy format =>
      match session.build text strategy format with
      | .ok built => .ok (.printed 0 (built.document printedConfidence))
      | .error (.build (.refused refusal)) => .ok (.refused refusal)
      | .error error => .error error

def runLine (environment : List (Text × Text)) (arguments : List Text) :
    Except RunError Outcome :=
  match read arguments with
  | .error usage => .ok (.usage usage)
  | .ok command => do
      let settings ← (Settings.ofEnvironment environment).mapError .settings
      let level := logLevel environment settings
      if !logLevels.contains level then throw (.logLevel level)
      (command.run (Session.make settings Registry.standard)).mapError .session

end Command

end CardQuery
