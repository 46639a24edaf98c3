import CardQuery.Repair.Edit
import CardQuery.Repair.Suggestion
import CardQuery.Search.Finding
import CardQuery.Text.Digit

/-!
# Fixes

A fix is the query without one fault.  It is computed from the span of the
finding in the query, and its first correction is used where one is needed.
Each fix stands for one finding; only the missing closing brackets are added all
at once.  A span may lie outside the query or count from its end: a fix then
works on the part that lies within.
-/

namespace CardQuery.Fix

/-- What is known about a finding when it is fixed. -/
structure Setting where
  query : Text
  span : Span
  corrections : List Text
  /-- How many brackets the query leaves open, by all its findings. -/
  openings : Nat

/-- A fix of which there is no doubt. -/
def sure (change : Change) (description query : Text) : Suggestion :=
  ⟨change, description, query, .high, .fixesError⟩

/-- A fix that may miss what was meant. -/
def likely (description query : Text) : Suggestion :=
  ⟨.replacement, description, query, .medium, .fixesError⟩

namespace Setting

/-- The number of characters before a position; a position below zero counts
from the end. -/
def offset (setting : Setting) (position : Int) : Nat :=
  Text.offset setting.query.length position

def marked (setting : Setting) : Text :=
  Text.slice setting.query setting.span.position setting.span.stop

/-- The query without the characters from one position up to another. -/
def without (setting : Setting) (start stop : Int) : Text :=
  Edit.removeSpan setting.query (setting.offset start) (setting.offset stop)

/-- Where a head is read: at the finding, or at the start for a position below
zero. -/
def headStart (setting : Setting) : Nat := setting.span.position.toNat

def head? (setting : Setting) : Option Head :=
  (Head.read? (setting.query.drop setting.headStart)).map (·.1)

def nameStart (setting : Setting) (head : Head) : Nat :=
  setting.headStart + if head.negated then 1 else 0

def valueStart (setting : Setting) (head : Head) : Nat :=
  setting.headStart + head.text.length

end Setting

def closeBrackets (setting : Setting) : Suggestion :=
  let noun : Text :=
    if setting.openings = 1 then "parenthesis" else "parentheses"
  sure .addition ("Add " ++ Text.ofNat setting.openings ++
    " missing closing " ++ noun)
    (Text.stripEnd setting.query ++ List.replicate setting.openings ')')

def dropBracket (description : Text) (setting : Setting) : Suggestion :=
  sure .removal description
    (setting.without setting.span.position (setting.span.position + 1))

def dropBrackets (setting : Setting) : Suggestion :=
  sure .removal "Remove the empty parentheses"
    (setting.without setting.span.position setting.span.stop)

/-- The character at the position of the finding, which may count from the
end. -/
def characterAt? (setting : Setting) : Option Char :=
  let position := setting.span.position
  if position + setting.query.length < 0 then none
  else setting.query[setting.offset position]?

/-- Closes the phrase at the finding by the quote that opens it. -/
def closeQuote (setting : Setting) : Except Fault Suggestion :=
  match characterAt? setting with
  | none => .error .positionOutside
  | some quote =>
      .ok (sure .addition ("Add the missing closing quote " ++ [quote])
        (Text.stripEnd setting.query ++ [quote]))

def dropConnective (setting : Setting) : Suggestion :=
  sure .removal ("Remove the misplaced '" ++ setting.marked ++ "'")
    (setting.without setting.span.position setting.span.stop)

def dropSecond (setting : Setting) : Except Fault Suggestion :=
  match (Text.words setting.marked).getLast? with
  | none => .error .noWord
  | some second =>
      let start := setting.span.position + setting.marked.length - second.length
      .ok (sure .removal ("Remove the redundant '" ++ second ++ "'")
        (setting.without start (start + second.length)))

def renameOperator (setting : Setting) : Option Suggestion := do
  let correction ← setting.corrections.head?
  let head ← setting.head?
  let start := setting.nameStart head
  let certainty :=
    if setting.corrections.length = 1 then Certainty.high else .medium
  return ⟨.replacement,
    "Replace unknown operator '" ++ head.name ++ "' with '" ++
      correction ++ "'",
    Edit.replaceSpan setting.query start (start + head.name.length) correction,
    certainty, .fixesError⟩

def useColon (setting : Setting) : Option Suggestion := do
  let head ← setting.head?
  let separator := Comparison.separator head.comparison
  let stop := setting.valueStart head
  return likely
    ("Operator '" ++ head.name ++ "' does not support '" ++ separator ++
      "'; use ':'")
    (Edit.replaceSpan setting.query (stop - separator.length) stop ":")

/-- Replaces the comparison by a colon, and an inequality by a negation more or
less. -/
def useNegation (setting : Setting) : Option Suggestion := do
  let head ← setting.head?
  let plain := head.name ++ ":"
  let replace :=
    Edit.replaceSpan setting.query setting.headStart (setting.valueStart head)
  if head.comparison = some .ne then
    if head.negated then
      return likely
        ("Drop the double negation and use '" ++ plain ++ "'") (replace plain)
    else
      return likely ("Negate with '-" ++ plain ++ "' instead of '!='")
        (replace ('-' :: plain))
  else
    return likely
      ("Use ':' instead of '" ++ Comparison.separator head.comparison ++ "'")
      (replace (if head.negated then '-' :: plain else plain))

def replaceValue (setting : Setting) : Option Suggestion := do
  let correction ← setting.corrections.head?
  let head ← setting.head?
  let start := setting.valueStart head
  return likely
    ("Replace '" ++ Text.slice setting.query start setting.span.stop ++
      "' with '" ++ correction ++ "'")
    (Edit.replaceSpan setting.query start (setting.offset setting.span.stop)
      (Edit.quoteValue correction))

/-- The connective that a symbol stands for. -/
def symbolName? (symbol : Text) : Option Text :=
  if symbol = "&&".toList then some "AND"
  else if symbol = "||".toList then some "OR"
  else none

/-- Spells the symbol out, with a blank on each side where it touches
something. -/
def spellConnective (setting : Setting) : Option Suggestion := do
  let name ← symbolName? setting.marked
  let start := setting.offset setting.span.position
  let stop := setting.offset setting.span.stop
  let touchesBefore := 0 < setting.span.position &&
    (setting.query.take start).getLast?.any (!Text.isBlank ·)
  let touchesAfter := (setting.query.drop stop).head?.any (!Text.isBlank ·)
  let spelled := (if touchesBefore then [' '] else []) ++ name ++
    if touchesAfter then [' '] else []
  return ⟨.replacement,
    "Use '" ++ name ++ "' instead of '" ++ setting.marked ++ "'",
    Edit.replaceSpan setting.query start stop spelled, .high, .improvesStyle⟩

/-- The fix for a finding with the given code, if there is one. -/
def fix? (code : Code) (setting : Setting) : Except Fault (Option Suggestion) :=
  match code with
  | .unmatchedOpeningBracket => .ok (closeBrackets setting)
  | .unmatchedClosingBracket =>
      .ok (dropBracket "Remove the extra closing parenthesis" setting)
  | .unknownOperator => .ok (renameOperator setting)
  | .unclosedQuote => (closeQuote setting).map some
  | .consecutiveConnectives => (dropSecond setting).map some
  | .emptyBrackets => .ok (dropBrackets setting)
  | .trailingOpening =>
      .ok (dropBracket "Remove the trailing opening parenthesis" setting)
  | .comparisonNotSupported => .ok (useColon setting)
  | .comparisonNotAllowed => .ok (useNegation setting)
  | .symbolicConnective => .ok (spellConnective setting)
  | .connectiveAtStart | .connectiveAtEnd | .orphanedConnective =>
      .ok (dropConnective setting)
  | code => .ok (if code.blamesValue then replaceValue setting else none)

/-- The fix for a finding among others, if there is one. -/
def ofFinding? (query : Text) (openings : Nat) (finding : Finding) :
    Except Fault (Option Suggestion) :=
  match finding.span with
  | none => .ok none
  | some span => fix? finding.code ⟨query, span, finding.corrections, openings⟩

/-- The suggestions whose query is none of those seen and none of an earlier
suggestion. -/
def fresh (seen : List Text) : List Suggestion → List Suggestion
  | [] => []
  | first :: rest =>
      if seen.contains first.query then fresh seen rest
      else first :: fresh (first.query :: seen) rest

/-- One query for each finding that can be fixed, without repetition and without
the query itself. -/
def suggestions (query : Text) (findings : List Finding) :
    Except Fault (List Suggestion) := do
  let openings := findings.countP (·.code == .unmatchedOpeningBracket)
  let fixes ← findings.mapM (ofFinding? query openings)
  return fresh [query] (fixes.filterMap id)

end CardQuery.Fix
