import CardQuery.Text.Digit

/-!
# Arguments

A command takes one word and options.  An option has a long name and takes a
value, which stands in the next argument or behind an equals sign; a name may be
cut short as long as it fits one option only.  Every command has the option of
help.  Behind two hyphens everything is a word.

`Arguments.read` goes from left to right and stops at the first argument that
asks for help or cannot be right.  Surplus words and options that are not known
are refused only at the end, so help that is asked for behind them is given.
-/

namespace CardQuery

/-- What an argument stands for. -/
inductive Argument where
  | word (text : Text)
  /-- Only words follow. -/
  | divider
  | help
  /-- An option with its full name, and its value if it stands behind an equals
  sign. -/
  | option (name : Text) (value : Option Text)
  /-- An option that is not known. -/
  | unknown
  /-- Help that is given a value. -/
  | misused
  /-- A name that fits several options. -/
  | ambiguous
deriving DecidableEq, Repr

/-- Why arguments are no command. -/
inductive Usage where
  /-- Help is asked for. -/
  | help
  | mistake
deriving DecidableEq, Repr

namespace Argument

/-- Whether an argument is a number below zero in decimal digits; a line may end
behind it. -/
def isNegativeNumber (argument : Text) : Bool :=
  let line :=
    if argument.getLast? == some '\n' then argument.dropLast else argument
  match line with
  | '-' :: body =>
      match body.dropWhile Text.isDigit with
      | [] => !body.isEmpty
      | '.' :: places => !places.isEmpty && places.all Text.isDigit
      | _ => false
  | _ => false

def helpNames : List Text := ["-h", "--help"]

/-- What an option with its full name stands for. -/
def named (name : Text) (value : Option Text) : Argument :=
  if helpNames.contains name then
    if value.isSome then misused else help
  else option name value

/-- What an argument that may be an option stands for if no option fits it. -/
def unmatched (argument : Text) : Argument :=
  if isNegativeNumber argument || argument.contains ' ' then word argument
  else unknown

/-- An argument as a name and perhaps a value behind an equals sign. -/
def splitValue (argument : Text) : Text × Option Text :=
  match argument.dropWhile (· != '=') with
  | _ :: value => (argument.takeWhile (· != '='), some value)
  | [] => (argument, none)

/-- What an argument with two hyphens stands for, given the names of the
options. -/
def ofLong (options : List Text) (argument : Text) : Argument :=
  let (name, value) := splitValue argument
  if options.contains name || helpNames.contains name then named name value
  else
    match (helpNames ++ options).filter name.isPrefixOf with
    | [] => unmatched argument
    | [fitting] => named fitting value
    | _ => ambiguous

/-- What an argument with one hyphen stands for.  Help may be asked for several
times in one. -/
def ofShort (argument : Text) : Argument :=
  match argument with
  | '-' :: 'h' :: more =>
      let repeated := if more.head? == some '=' then more.drop 1 else more
      if more == ['='] || !repeated.all (· == 'h') then misused else help
  | _ => unmatched argument

/-- What an argument stands for before the divider, given the names of the
options. -/
def classify (options : List Text) (argument : Text) : Argument :=
  match argument with
  | ['-', '-'] => divider
  | '-' :: '-' :: _ => ofLong options argument
  | '-' :: _ :: _ => ofShort argument
  | _ => word argument

def classifyAll (options : List Text) : List Text → List Argument
  | [] => []
  | first :: rest =>
      match classify options first with
      | divider => divider :: rest.map word
      | argument => argument :: classifyAll options rest

end Argument

structure Arguments where
  word : Text
  options : List (Text × Text)
deriving DecidableEq, Repr

namespace Arguments

/-- Reads arguments behind those whose word, if any, and whose options are
given; `surplus` tells whether there was one too many. -/
def readFrom (accepts : Text → Text → Bool) (known : Option Text)
    (options : List (Text × Text)) (surplus : Bool) :
    List Argument → Except Usage Arguments
  | [] =>
      match known, surplus with
      | some word, false => .ok ⟨word, options⟩
      | _, _ => .error .mistake
  | .word text :: .divider :: rest =>
      if known.isSome then readFrom accepts known options true rest
      else readFrom accepts (some text) options surplus rest
  | .divider :: .word text :: rest =>
      if known.isSome then readFrom accepts known options true rest
      else readFrom accepts (some text) options surplus rest
  | .word text :: rest =>
      if known.isSome then readFrom accepts known options true rest
      else readFrom accepts (some text) options surplus rest
  | .divider :: rest | .unknown :: rest =>
      readFrom accepts known options true rest
  | .option name (some value) :: rest
  | .option name none :: .word value :: rest =>
      if accepts name value then
        readFrom accepts known ((name, value) :: options) surplus rest
      else .error .mistake
  | .help :: _ => .error .help
  | .option _ none :: _ | .misused :: _ | .ambiguous :: _ => .error .mistake

/-- Reads the arguments of a command, given the names of its options and which
values they take. -/
def read (names : List Text) (accepts : Text → Text → Bool)
    (arguments : List Text) : Except Usage Arguments :=
  let classified := Argument.classifyAll names arguments
  if classified.contains .ambiguous then .error .mistake
  else readFrom accepts none [] false classified

/-- The value of an option; the last one if it is given several times. -/
def value? (arguments : Arguments) (name : Text) : Option Text :=
  arguments.options.lookup name

end Arguments

end CardQuery
