import CardQuery.Concept.Basic
import CardQuery.Text.Casing
import CardQuery.Text.Pattern

/-!
# Formats of play in a text

A phrase of one word counts between word boundaries, a longer phrase wherever it
occurs.  Of the phrases for one format the most certain one gives the
confidence.
-/

namespace CardQuery

theorem percent_inUnitInterval : ∀ hundredths : Fin 101,
    .finite 0 ≤ percent hundredths ∧ percent hundredths ≤ .ofInt 1 := by
  decide +kernel

/-- A phrase that names a format, and how certain the format is if the phrase
occurs.  No format has a confidence below zero or above one. -/
structure FormatPhrase where
  phrase : Text
  name : Text
  confidence : Binary64
  inUnitInterval : .finite 0 ≤ confidence ∧ confidence ≤ .ofInt 1
deriving DecidableEq, Repr

namespace FormatPhrase

def ofPercent (phrase name : Text) (hundredths : Fin 101) : FormatPhrase :=
  ⟨phrase, name, percent hundredths, percent_inUnitInterval hundredths⟩

def names : List Text :=
  ["standard", "modern", "legacy", "vintage", "pioneer", "commander", "brawl",
   "pauper", "penny", "historic", "alchemy", "explorer", "timeless"]

/-- A phrase around the name of each format. -/
def around (before after : Text) (hundredths : Fin 101) : List FormatPhrase :=
  names.map fun name => ofPercent (before ++ name ++ after) name hundredths

def table : List FormatPhrase :=
  around "" "" 95 ++ [ofPercent "edh" "commander" 98] ++
    around "" " legal" 90 ++ [ofPercent "edh legal" "commander" 92] ++
    around "in " "" 88 ++ [ofPercent "in edh" "commander" 90] ++
    around "for " "" 85 ++ [ofPercent "for edh" "commander" 87] ++
    [ -- Play at home.
      ofPercent "casual" "casual" 75, ofPercent "kitchen table" "casual" 80,
      ofPercent "multiplayer" "commander" 70,
      -- Play on a computer.
      ofPercent "arena" "standard" 70, ofPercent "mtg arena" "standard" 72,
      ofPercent "mtga" "standard" 72, ofPercent "mtgo" "legacy" 60,
      ofPercent "magic online" "legacy" 60,
      -- Play in competitions.
      ofPercent "competitive" "modern" 60, ofPercent "tournament" "standard" 65,
      ofPercent "fnm" "standard" 70,
      ofPercent "friday night magic" "standard" 70,
      -- Construction of decks.
      ofPercent "100 card" "commander" 85, ofPercent "100-card" "commander" 85,
      ofPercent "singleton" "commander" 75,
      ofPercent "highlander" "commander" 80,
      -- Strength of decks.
      ofPercent "high power" "vintage" 60, ofPercent "powered" "vintage" 70,
      ofPercent "unpowered" "legacy" 65, ofPercent "budget" "pauper" 60]

def occursIn (text : Text) (phrase : FormatPhrase) : Bool :=
  if phrase.phrase.contains ' ' then Text.includes text phrase.phrase
  else Text.containsWord text phrase.phrase

/-- Adds a phrase, or puts it in the place of the one of the same name if that
is less certain. -/
def raise (phrase : FormatPhrase) : List FormatPhrase → List FormatPhrase
  | [] => [phrase]
  | first :: rest =>
      if first.name = phrase.name then
        (if first.confidence < phrase.confidence then phrase else first) :: rest
      else first :: raise phrase rest

/-- The most certain phrase of each name, in the order in which the names
occur. -/
def mostCertain (phrases : List FormatPhrase) : List FormatPhrase :=
  phrases.foldl (fun kept phrase => raise phrase kept) []

/-- The format that the phrase names, without white space around its name. -/
def concept (phrase : FormatPhrase) : FormatConcept :=
  ⟨Text.trim phrase.name, phrase.confidence⟩

end FormatPhrase

namespace FormatConcept

def extract (table : List FormatPhrase) (text : Text) : List FormatConcept :=
  (FormatPhrase.mostCertain
    (table.filter (FormatPhrase.occursIn (Text.lower text)))).map
      FormatPhrase.concept

def best? : List FormatConcept → Option FormatConcept
  | [] => none
  | first :: rest =>
      some (rest.foldl
        (fun best concept =>
          if best.confidence < concept.confidence then concept else best) first)

/-- How certain a format must be to count as named. -/
def explicitThreshold : Binary64 := percent 85

/-- Whether some format is at least as certain as a threshold. -/
def hasExplicit (threshold : Binary64) (concepts : List FormatConcept) : Bool :=
  concepts.any fun concept => threshold ≤ concept.confidence

end FormatConcept

end CardQuery
