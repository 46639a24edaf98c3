import CardQuery.Document.Reader
import CardQuery.Settings
import CardQuery.Text.Casing

/-!
# Settings from an environment

Settings are read from a record with a field for each setting, or from the
variables of an environment.  Names are read in any case, and of several that
differ only by case the last one counts.  Limits are positive, and a penalty is
less than one, which would take all confidence away.  What is not known is
passed over.
-/

namespace CardQuery.Settings

open Reader

/-- A limit, which is a positive number. -/
def limit : Reader Nat := fun document =>
  (satisfying (fun value => decide (0 < value)) whole document).map Int.toNat

/-- A penalty, which does not add to the confidence and leaves some of it. -/
def penalty : Reader Binary64 :=
  satisfying
    (fun value => decide (.finite 0 ≤ value) && decide (value < .ofInt 1))
    number

def names : List Text :=
  ["LOG_LEVEL", "QUERY_MAX_OPERATORS", "QUERY_MAX_LENGTH",
   "QUERY_MAX_NESTING_DEPTH", "WARNING_CONFIDENCE_PENALTY",
   "REFINEMENT_RESULT_THRESHOLD", "SUGGESTION_MAX_DISTANCE"]

/-- What is given for a name in any case; the last of several. -/
def given? {α : Type} (entries : List (Text × α)) (name : Text) : Option α :=
  (entries.reverse.find? fun entry =>
    Text.lower entry.1 == Text.lower name).map (·.2)

/-- What is given for the settings, under their names. -/
def known {α : Type} (entries : List (Text × α)) : List (Text × α) :=
  names.filterMap fun name => (given? entries name).map (name, ·)

def readKnown : Reader Settings := fun document =>
  (Checked.ofFunction Settings.mk)
    |>.apply (field document "LOG_LEVEL" standard.logLevel fun value =>
      (text value).map Text.upper)
    |>.apply (field document "QUERY_MAX_OPERATORS" standard.maxOperators limit)
    |>.apply (field document "QUERY_MAX_LENGTH" standard.maxQueryLength limit)
    |>.apply (field document "QUERY_MAX_NESTING_DEPTH"
      standard.maxNestingDepth limit)
    |>.apply (field document "WARNING_CONFIDENCE_PENALTY"
      standard.warningPenalty penalty)
    |>.apply (field document "REFINEMENT_RESULT_THRESHOLD"
      standard.refinementThreshold limit)
    |>.apply (field document "SUGGESTION_MAX_DISTANCE"
      standard.suggestionDistance limit)

def read : Reader Settings
  | .record fields => readKnown (.record (known fields))
  | document => readKnown document

/-- The settings of an environment. -/
def ofEnvironment (environment : List (Text × Text)) : Checked Settings :=
  read (.record (environment.map fun (name, value) => (name, .text value)))

def document (settings : Settings) : Document :=
  .record
    [("log_level", .text settings.logLevel),
     ("max_operators", .whole settings.maxOperators),
     ("max_query_length", .whole settings.maxQueryLength),
     ("max_nesting_depth", .whole settings.maxNestingDepth),
     ("warning_confidence_penalty", .number settings.warningPenalty),
     ("refinement_result_threshold", .whole settings.refinementThreshold),
     ("suggestion_max_distance", .whole settings.suggestionDistance)]

end CardQuery.Settings
