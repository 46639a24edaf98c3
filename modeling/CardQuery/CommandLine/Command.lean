import CardQuery.Build.Options
import CardQuery.CommandLine.Argument
import CardQuery.Number.Whole

/-!
# Commands

A line of arguments names one of two commands: `validate` checks a query, whose
number of results may be given; `build` makes a query of a text, for a purpose
and perhaps in a format.
-/

namespace CardQuery

inductive Command where
  | validate (query : Text) (resultCount : Option Int)
  | build (text : Text) (strategy : Text) (format : Option Text)
deriving DecidableEq, Repr

namespace Command

def resultCountOption : Text := "--result-count"

def strategyOption : Text := "--optimize-for"

def formatOption : Text := "--format"

def readValidate (arguments : List Text) : Except Usage Command := do
  let accepts (_ value : Text) := (readArgument? value).isSome
  let line ← Arguments.read [resultCountOption] accepts arguments
  return validate line.word ((line.value? resultCountOption).bind readArgument?)

def readBuild (arguments : List Text) : Except Usage Command := do
  let accepts (name value : Text) :=
    name != strategyOption || (Strategy.ofName? value).isSome
  let line ← Arguments.read [strategyOption, formatOption] accepts arguments
  return build line.word
    ((line.value? strategyOption).getD Strategy.precision.name)
    (line.value? formatOption)

def readNamed (name : Text) (arguments : List Text) : Except Usage Command :=
  if name = "validate".toList then readValidate arguments
  else if name = "build".toList then readBuild arguments
  else .error .mistake

/-- Reads a line of arguments.  Options before the name of the command are
refused, but only after the rest has been read. -/
def read : List Text → Except Usage Command
  | [] => .error .mistake
  | first :: rest =>
      match Argument.classify [] first with
      | .word name => readNamed name rest
      | .help => .error .help
      | .unknown =>
          match read rest with
          | .error .help => .error .help
          | _ => .error .mistake
      | _ => .error .mistake

end Command

end CardQuery
