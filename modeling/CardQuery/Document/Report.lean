import CardQuery.Build.Basic
import CardQuery.Document.Mapping

/-!
# Documents of reports

How findings, suggestions, validations and built queries are shown as documents.
-/

namespace CardQuery

namespace Finding

/-- The fields of an error; an error without a span has no position. -/
def errorDocument (finding : Finding) : Document :=
  .record
    [("message", .text finding.message),
     ("position", .optional (fun span => .whole span.position) finding.span),
     ("length", .whole (finding.span.elim 0 (·.length))),
     ("code", .text finding.code.name),
     ("severity", .text "error"),
     ("suggestions", .texts finding.corrections)]

def warningDocument (finding : Finding) : Document :=
  .record
    [("message", .text finding.message),
     ("code", .text finding.code.name),
     ("position", .optional (fun span => .whole span.position) finding.span),
     ("length", .whole (finding.span.elim 0 (·.length))),
     ("suggestions", .texts finding.corrections)]

end Finding

def Suggestion.document (suggestion : Suggestion) : Document :=
  .record
    [("type", .text suggestion.change.name),
     ("description", .text suggestion.description),
     ("suggested_query", .text suggestion.query),
     ("confidence", .text suggestion.certainty.name),
     ("impact", .text suggestion.impact.name)]

/-- The fields of a validation; its confidence is rounded in the given way. -/
def Validation.document (round : Binary64 → Binary64)
    (validation : Validation) : Document :=
  .record
    [("is_valid", .truth validation.isValid),
     ("errors", .list (validation.errors.map Finding.errorDocument)),
     ("warnings", .list (validation.warnings.map Finding.warningDocument)),
     ("suggestions", .list (validation.suggestions.map Suggestion.document)),
     ("confidence", .number (round validation.confidence)),
     ("query_complexity", .number validation.complexity)]

def Alternative.document (alternative : Alternative) : Document :=
  .record
    [("query", .text alternative.query),
     ("description", .text alternative.description),
     ("type", .text alternative.kind.name),
     ("confidence", .number alternative.confidence)]

def Optimization.document (optimization : Optimization) : Document :=
  .record
    [("type", .text optimization.kind.name),
     ("reason", .text optimization.reason),
     ("change", .text optimization.change)]

/-- The fields of a built query; the confidence in it and in its validation is
rounded in the given way. -/
def Built.document (round : Binary64 → Binary64) (built : Built) : Document :=
  .record
    [("query", .text built.query), ("explanation", .text built.explanation),
     ("confidence", .number (round built.confidence)),
     ("alternatives", .list (built.alternatives.map Alternative.document)),
     ("optimizations", .list (built.optimizations.map Optimization.document)),
     ("mappings", .list (built.mappings.map Mapping.document)),
     ("validation", built.validation.document round)]

/-- Rounds the confidence in a report that is printed. -/
def printedConfidence (confidence : Binary64) : Binary64 := confidence.roundTo 4

end CardQuery
