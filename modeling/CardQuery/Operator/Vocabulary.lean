import CardQuery.Text.Basic

/-!
# Words with a meaning in values

The words that the values of operators are chosen from, and the range that the
numbers of an operator usually lie in.
-/

namespace CardQuery.Vocabulary

def colorLetters : Text := "wubrg"

/-- Names of colors, of pairs and of triples of colors. -/
def colorNames : List Text :=
  ["white", "blue", "black", "red", "green", "colorless", "multicolor",
   "azorius", "dimir", "rakdos", "gruul", "selesnya", "orzhov", "izzet",
   "golgari", "boros", "simic", "bant", "esper", "grixis", "jund", "naya",
   "abzan", "jeskai", "sultai", "mardu", "temur"]

def rarities : List Text :=
  ["common", "uncommon", "rare", "mythic", "special", "bonus"]

def rarityLetters : List Text := ["c", "u", "r", "m", "s"]

def formats : List Text :=
  ["standard", "future", "historic", "timeless", "gladiator", "pioneer",
   "explorer", "modern", "legacy", "pauper", "vintage", "penny", "commander",
   "oathbreaker", "standardbrawl", "brawl", "alchemy", "paupercommander",
   "duel", "oldschool", "premodern", "predh"]

/-- Properties of a card or of its printing. -/
def cardProperties : List Text :=
  ["foil", "nonfoil", "promo", "reprint", "unique", "digital", "reserved",
   "funny", "booster", "timeshifted", "colorshifted", "futureshifted",
   "commander", "spell", "permanent", "historic", "vanilla", "french_vanilla",
   "dfc", "mdfc", "split", "transform", "fullart", "full", "textless"]

def games : List Text := ["paper", "arena", "mtgo"]

/-- Names of numeric properties, which may stand where a number is compared
with. -/
def statNames : List Text :=
  ["pow", "power", "tou", "toughness", "loy", "loyalty", "mv", "cmc",
   "manavalue"]

/-- The numbers that an operator usually has, from the first bound to the
second. -/
def usualRanges : List (Text × Int × Int) :=
  [("manavalue", 0, 20), ("power", -1, 20), ("toughness", -1, 20),
   ("loyalty", 0, 20), ("usd", 0, 100000), ("eur", 0, 100000),
   ("tix", 0, 10000)]

end CardQuery.Vocabulary
