import CardQuery.Concept.Basic
import CardQuery.Number.Whole
import CardQuery.Text.Casing
import CardQuery.Text.Pattern

/-!
# Abilities and numbers in a text

Keyword abilities count between word boundaries.  Numbers are bounds such as
`cmc 3 or less`, or a power and a toughness such as `2/2`; of several mentions
of one number the first rule that finds one counts.  A run of digits that is too
long to be read as a number stops the reading of the text.
-/

namespace CardQuery

namespace KeywordConcept

def table : List Text :=
  ["flying", "trample", "haste", "vigilance", "lifelink", "deathtouch",
   "first strike", "double strike", "flash", "menace", "reach", "hexproof",
   "indestructible"]

/-- The keyword abilities of a text, by a table of them.  White space around an
entry of the table counts where it is looked for, but does not belong to the
ability. -/
def extract (table : List Text) (text : Text) : List KeywordConcept :=
  (table.filter (Text.containsWord (Text.lower text))).map fun keyword =>
    ⟨Text.trim keyword, percent 85⟩

end KeywordConcept

/-- A rule that recognises a bound of a number. -/
structure StatRule where
  stat : Stat
  pattern : Pattern
  hundredths : Nat

namespace StatRule

open Pattern

/-- The words that turn a number into a bound. -/
def bounds : List (Text × Comparison) :=
  [("less", .le), ("fewer", .le), ("lower", .le), ("more", .ge),
   ("greater", .ge), ("higher", .ge)]

/-- The word `or` and a word that makes a bound, which is kept. -/
def bound : Pattern :=
  optional (all [someBlanks, exactly "or", someBlanks,
    group (anyOf (bounds.map fun entry => exactly entry.1))])

/-- A name, the number after it and perhaps a bound; the number and the bound
are kept. -/
def named (name : Pattern) : Pattern :=
  all [boundary, name, blanks, optional (sequence (exactly "of") someBlanks),
    group digits, bound]

def table : List StatRule :=
  [⟨.manaValue,
      named (anyOf [exactly "cmc", exactly "mv",
        all [exactly "mana", someBlanks, exactly "value"],
        all [exactly "converted", someBlanks, exactly "mana", someBlanks,
          exactly "cost"]]), 80⟩,
   ⟨.manaValue, all [boundary, group digits, someBlanks, exactly "mana",
      boundary, bound], 80⟩,
   ⟨.power, named (exactly "power"), 85⟩,
   ⟨.toughness, named (exactly "toughness"), 85⟩]

def powerAndToughness : Pattern :=
  all [boundary, group digits, exactly "/", group digits, boundary]

end StatRule

namespace StatConcept

/-- The comparison that a word makes of a number. -/
def comparisonOf (word : Option Text) : Comparison :=
  (word.bind fun word => StatRule.bounds.lookup word).getD .eq

def ofRule? (text : Text) (rule : StatRule) :
    Except NumberError (Option StatConcept) :=
  match (rule.pattern.find? text).map (·.groups) with
  | some (digits :: more) => do
      let number ← readNumber digits
      return some
        ⟨rule.stat, number, comparisonOf more.head?, percent rule.hundredths⟩
  | _ => .ok none

def has (concepts : List StatConcept) (stat : Stat) : Bool :=
  concepts.any (·.stat == stat)

/-- Adds what rules find about numbers that are not known yet. -/
def addRules (text : Text) (known : List StatConcept) :
    List StatRule → Except NumberError (List StatConcept)
  | [] => .ok known
  | rule :: rest => do
      if has known rule.stat then addRules text known rest
      else
        let found ← ofRule? text rule
        addRules text (known ++ found.toList) rest

/-- Adds a power and a toughness, each if it is not known yet. -/
def addPair (text : Text) (known : List StatConcept) :
    Except NumberError (List StatConcept) :=
  match (StatRule.powerAndToughness.find? text).map (·.groups) with
  | some [power, toughness] => do
      let power ← readNumber power
      let toughness ← readNumber toughness
      let pair : List StatConcept :=
        [⟨.power, power, .eq, percent 85⟩,
         ⟨.toughness, toughness, .eq, percent 85⟩]
      return known ++ pair.filter fun concept => !has known concept.stat
  | _ => .ok known

def extract (text : Text) : Except NumberError (List StatConcept) := do
  let lowered := Text.lower text
  addPair lowered (← addRules lowered [] StatRule.table)

end StatConcept

end CardQuery
