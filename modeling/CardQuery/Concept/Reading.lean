import CardQuery.Concept.Archetype
import CardQuery.Concept.CardType
import CardQuery.Concept.Color
import CardQuery.Concept.Format
import CardQuery.Concept.Price
import CardQuery.Concept.Trait

/-!
# Reading an English text

A text is normalized and then looked through for concepts of every kind, each
kind on its own.  The confidence in the whole favors concepts that are certain
by themselves.
-/

namespace CardQuery

/-- The mean of confidences, each weighted by its power of one and a half, but
at most one. -/
def overallConfidence (confidences : List Binary64) : Binary64 :=
  if confidences.isEmpty then .finite 0
  else
    let weighted := confidences.foldl
      (fun sum confidence => sum + confidence * confidence.powerOneAndHalf)
      (.finite 0)
    (Binary64.ofInt 1).smaller (weighted.divideBy confidences.length)

/-- Why numbers that are no confidences have no mean confidence. -/
inductive ConfidenceError where
  /-- The power of a number is beyond all finite numbers. -/
  | tooLarge
  /-- The size of the power of a number below zero is beyond all finite
  numbers. -/
  | tooFarBelowZero
  | notReal
deriving DecidableEq, Repr

def Binary64.isBelowZero : Binary64 → Bool
  | .finite units => units < 0
  | _ => false

/-- Why the power of a finite number cannot be told. -/
def powerError? (number : Binary64) : Option ConfidenceError :=
  match number, number.powerOneAndHalf with
  | .finite units, .infinite _ =>
      some (if units < 0 then .tooFarBelowZero else .tooLarge)
  | _, _ => none

/-- The mean confidence of any numbers. -/
def tryConfidence (numbers : List Binary64) : Except ConfidenceError Binary64 :=
  match numbers.findSome? powerError? with
  | some error => .error error
  | none =>
      if numbers.any Binary64.isBelowZero then .error .notReal
      else .ok (overallConfidence numbers)

namespace Reading

def ambiguitiesOf (colors : List ColorConcept) (formats : List FormatConcept) :
    List Text :=
  (if 1 < colors.length then ["multiple color interpretations".toList]
    else []) ++
    (if 1 < formats.length then ["multiple formats mentioned".toList] else [])

def confidences (reading : Reading) : List Binary64 :=
  reading.colors.map (·.confidence) ++ reading.types.map (·.confidence) ++
    reading.subtypes.map (·.confidence) ++
    reading.archetypes.map (·.confidence) ++
    reading.prices.map (·.confidence) ++ reading.formats.map (·.confidence) ++
    reading.keywords.map (·.confidence) ++ reading.stats.map (·.confidence)

def ofText (text : Text) : Except NumberError Reading := do
  let normalized := Wording.normalize text
  if normalized.isEmpty then return empty text
  let colors := ColorConcept.extract ColorPhrase.table normalized
  let formats := FormatConcept.extract FormatPhrase.table normalized
  let stats ← StatConcept.extract normalized
  let reading : Reading :=
    { passage := text
      colors
      types := TypeConcept.extract TypePhrase.table normalized
      subtypes := SubtypeConcept.extract SubtypePhrase.table normalized
      archetypes := ArchetypeConcept.extract Archetype.table normalized
      prices := PriceConcept.extract PriceRule.table normalized
      formats
      keywords := KeywordConcept.extract KeywordConcept.table normalized
      stats
      confidence := .finite 0
      ambiguities := ambiguitiesOf colors formats }
  return { reading with confidence := overallConfidence reading.confidences }

end Reading

end CardQuery
