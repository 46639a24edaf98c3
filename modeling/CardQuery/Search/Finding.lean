import CardQuery.Search.Token

/-!
# Findings

A finding names what is wrong or doubtful about a query, where it is, and which
spellings may have been meant.  Errors and warnings are findings alike; a report
keeps them apart.
-/

namespace CardQuery

inductive Code where
  -- The structure of the query.
  | unmatchedOpeningBracket
  | unmatchedClosingBracket
  | unclosedQuote
  | connectiveAtStart
  | connectiveAtEnd
  | consecutiveConnectives
  | orphanedConnective
  | connectiveAfterOpening
  | emptyBrackets
  | emptyQuery
  | trailingOpening
  -- The conditions of the query.
  | unknownOperator
  | comparisonNotSupported
  | comparisonNotAllowed
  | missingValue
  | invalidColor
  | invalidNumber
  | invalidSetCode
  | invalidRarity
  | invalidFormat
  | invalidChoice
  | invalidPowerToughness
  | invalidLoyalty
  | invalidManaCost
  | invalidYear
  | internalError
  -- Advice.
  | conflictingColors
  | duplicateOperator
  | duplicateColor
  | multipleFormats
  | powerWithoutToughness
  | toughnessWithoutPower
  | overlySpecific
  | longValue
  | unusualRange
  | symbolicConnective
  | costly
deriving DecidableEq, Repr, Inhabited

namespace Code

def name : Code → Text
  | unmatchedOpeningBracket => "UNMATCHED_OPENING_PAREN"
  | unmatchedClosingBracket => "UNMATCHED_CLOSING_PAREN"
  | unclosedQuote => "UNCLOSED_QUOTE"
  | connectiveAtStart => "BOOLEAN_AT_START"
  | connectiveAtEnd => "BOOLEAN_AT_END"
  | consecutiveConnectives => "CONSECUTIVE_BOOLEAN"
  | orphanedConnective => "ORPHANED_BOOLEAN"
  | connectiveAfterOpening => "BOOLEAN_AFTER_OPEN_PAREN"
  | emptyBrackets => "EMPTY_PARENTHESES"
  | emptyQuery => "EMPTY_QUERY"
  | trailingOpening => "TRAILING_OPEN_PAREN"
  | unknownOperator => "UNKNOWN_OPERATOR"
  | comparisonNotSupported => "COMPARISON_NOT_SUPPORTED"
  | comparisonNotAllowed => "COMPARISON_NOT_ALLOWED"
  | missingValue => "MISSING_OPERATOR_VALUE"
  | invalidColor => "INVALID_COLOR"
  | invalidNumber => "INVALID_NUMBER"
  | invalidSetCode => "INVALID_SET_CODE"
  | invalidRarity => "INVALID_RARITY"
  | invalidFormat => "INVALID_FORMAT"
  | invalidChoice => "INVALID_ENUM_VALUE"
  | invalidPowerToughness => "INVALID_POWER_TOUGHNESS"
  | invalidLoyalty => "INVALID_LOYALTY"
  | invalidManaCost => "INVALID_MANA_COST"
  | invalidYear => "INVALID_YEAR"
  | internalError => "INTERNAL_ERROR"
  | conflictingColors => "CONFLICTING_COLORS"
  | duplicateOperator => "DUPLICATE_OPERATOR"
  | duplicateColor => "DUPLICATE_COLOR"
  | multipleFormats => "MULTIPLE_FORMATS"
  | powerWithoutToughness => "POWER_WITHOUT_TOUGHNESS"
  | toughnessWithoutPower => "TOUGHNESS_WITHOUT_POWER"
  | overlySpecific => "OVERLY_SPECIFIC"
  | longValue => "LONG_VALUE"
  | unusualRange => "UNUSUAL_RANGE"
  | symbolicConnective => "SYMBOLIC_BOOLEAN"
  | costly => "PERFORMANCE_WARNING"

def all : List Code :=
  [unmatchedOpeningBracket, unmatchedClosingBracket, unclosedQuote,
   connectiveAtStart, connectiveAtEnd, consecutiveConnectives,
   orphanedConnective, connectiveAfterOpening, emptyBrackets, emptyQuery,
   trailingOpening, unknownOperator, comparisonNotSupported,
   comparisonNotAllowed, missingValue, invalidColor, invalidNumber,
   invalidSetCode, invalidRarity, invalidFormat, invalidChoice,
   invalidPowerToughness, invalidLoyalty, invalidManaCost, invalidYear,
   internalError, conflictingColors, duplicateOperator, duplicateColor,
   multipleFormats, powerWithoutToughness, toughnessWithoutPower,
   overlySpecific, longValue, unusualRange, symbolicConnective, costly]

def ofName? (name : Text) : Option Code := all.find? (·.name == name)

def blamesValue : Code → Bool
  | invalidColor | invalidNumber | invalidSetCode | invalidRarity
  | invalidFormat | invalidChoice | invalidPowerToughness | invalidLoyalty
  | invalidManaCost | invalidYear => true
  | _ => false

end Code

/-- A run of characters of the query.  The spans of the checks lie within the
query; a position below zero, as a finding from elsewhere may have, counts from
the end of the query. -/
structure Span where
  position : Int
  length : Int
deriving DecidableEq, Repr, Inhabited

namespace Span

def stop (span : Span) : Int := span.position + span.length

end Span

def Token.span (token : Token) : Span := ⟨token.position, token.length⟩

/-- What is wrong or doubtful about a query, and where.  A finding about the
whole query has no span. -/
structure Finding where
  code : Code
  message : Text
  span : Option Span
  corrections : List Text
deriving DecidableEq, Repr, Inhabited

namespace Finding

/-- A finding about one token. -/
def onToken (token : Token) (code : Code) (message : Text)
    (corrections : List Text) : Finding :=
  ⟨code, message, some token.span, corrections⟩

end Finding

/-- Why a query, a finding or a result count cannot be worked on. -/
inductive Fault where
  /-- The finding starts outside the query. -/
  | positionOutside
  /-- The span of the finding holds no word. -/
  | noWord
  /-- The result count is no number. -/
  | incomparable
  /-- Spellings are to be compared at a distance beyond the largest one. -/
  | distanceTooLarge
deriving DecidableEq, Repr, Inhabited

/-- The outcome of one check of a query. -/
structure CheckResult where
  errors : List Finding
  warnings : List Finding
deriving DecidableEq, Repr, Inhabited

namespace CheckResult

def isValid (result : CheckResult) : Bool := result.errors.isEmpty

end CheckResult

end CardQuery
