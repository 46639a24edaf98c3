import CardQuery.Concept.Basic
import CardQuery.Text.Casing

/-!
# Kinds of decks in a text

A kind of deck is found by its name or by a word that describes it.  Each kind
asks something of its cards.  A deck of one tribe takes the creature subtypes of
the text as its own.
-/

namespace CardQuery

structure Archetype where
  name : Text
  constraints : ArchetypeConstraints
  hundredths : Nat
  synonyms : List Text

namespace Archetype

def table : List Archetype :=
  [⟨"aggressive",
      ⟨some (1, 4), some 2,
        ["haste", "trample", "first strike", "double strike"],
        ["burn", "direct damage"], ["creature", "instant", "sorcery"], []⟩, 90,
      ["aggro", "fast", "beatdown", "rush", "tempo"]⟩,
   ⟨"aggro",
      ⟨some (1, 3), some 2, ["haste", "prowess", "menace"], ["burn"],
        ["creature"], []⟩, 92, []⟩,
   ⟨"control",
      ⟨some (2, 8), none, ["flash", "vigilance"],
        ["counterspell", "removal", "draw", "wipe"],
        ["instant", "sorcery", "enchantment", "planeswalker"], []⟩, 88,
      ["controlling", "defensive", "reactive", "late game"]⟩,
   ⟨"midrange",
      ⟨some (3, 6), some 2, [], ["removal", "value"],
        ["creature", "planeswalker"], []⟩, 85,
      ["midgame", "value", "grindy", "fair"]⟩,
   ⟨"combo",
      ⟨none, none, ["flash", "storm", "cascade"], ["tutor", "draw", "ritual"],
        ["instant", "sorcery", "artifact", "enchantment"], []⟩, 80,
      ["synergy", "engine", "infinite", "lock"]⟩,
   ⟨"ramp",
      ⟨none, none, ["vigilance"], ["ramp", "mana acceleration"],
        ["land", "artifact", "creature", "sorcery"], []⟩, 93,
      ["acceleration", "big mana", "ramping", "fast mana"]⟩,
   ⟨"tribal", ⟨none, none, [], [], ["creature"], []⟩, 85,
      ["creature type", "synergy", "lord effects"]⟩,
   ⟨"tempo",
      ⟨some (1, 4), none, ["flash", "prowess", "flying"],
        ["bounce", "counterspell"], ["creature", "instant"], []⟩, 87,
      ["pressure", "clock", "efficient"]⟩,
   ⟨"burn",
      ⟨some (1, 4), none, [], ["burn", "direct damage"],
        ["instant", "sorcery", "creature"], []⟩, 90,
      ["direct damage", "face damage", "lightning"]⟩,
   ⟨"reanimator",
      ⟨none, none, ["flashback"], ["reanimation", "graveyard"],
        ["sorcery", "instant", "creature"], []⟩, 88,
      ["graveyard", "resurrection", "cheat"]⟩,
   ⟨"prison",
      ⟨none, none, ["static"], ["lock", "stax"],
        ["artifact", "enchantment"], []⟩, 82,
      ["stax", "lock", "denial"]⟩,
   ⟨"storm",
      ⟨none, none, ["storm"], ["ritual", "draw"], ["instant", "sorcery"], []⟩,
      95, ["spell velocity", "ritual"]⟩,
   ⟨"voltron",
      ⟨none, none, ["hexproof", "shroud", "indestructible"],
        ["protection", "pump"], ["equipment", "aura", "creature"], []⟩, 85,
      ["equipment", "aura", "pump"]⟩,
   ⟨"tokens",
      ⟨none, none, ["convoke"], ["token generation"],
        ["sorcery", "instant", "creature", "enchantment"], []⟩, 88,
      ["go wide", "swarm", "army"]⟩,
   ⟨"aristocrats",
      ⟨none, none, ["sacrifice"], ["sacrifice", "death triggers"],
        ["creature", "enchantment"], []⟩,
      86, ["sacrifice", "death", "blood artist"]⟩]

def occursIn (text : Text) (archetype : Archetype) : Bool :=
  Text.includes text archetype.name ||
    archetype.synonyms.any (Text.includes text)

end Archetype

namespace ArchetypeConcept

def extract (table : List Archetype) (text : Text) : List ArchetypeConcept :=
  (table.filter (Archetype.occursIn (Text.lower text))).map fun archetype =>
    ⟨archetype.name, archetype.constraints, percent archetype.hundredths⟩

/-- A deck of one tribe with the given subtypes and a higher confidence, which
may exceed one.  Other decks, and any deck without subtypes, stay as they
are. -/
def withSubtypes (concept : ArchetypeConcept) (subtypes : List Text) :
    ArchetypeConcept :=
  if concept.name == "tribal".toList && !subtypes.isEmpty then
    { concept with
      constraints := { concept.constraints with subtypes }
      confidence := concept.confidence + percent 10 }
  else concept

end ArchetypeConcept

end CardQuery
