import CardQuery.Text.Blank
import CardQuery.Text.Digit
import CardQuery.Text.Letter
import CardQuery.Text.Word

/-!
# Patterns

A pattern describes runs of characters.  At a place of a text it has a list of
successes in order of preference, and the preferred one is used; `find?` takes
the first place of the text where there is any.  Groups keep the characters that
a part of the pattern has taken, from left to right.
-/

namespace CardQuery

/-- A description of runs of characters. -/
inductive Pattern where
  /-- No character. -/
  | nothing
  /-- One character of a class. -/
  | one (holds : Char → Bool)
  /-- Any number of characters of a class; as few as possible or else as many as
  possible. -/
  | many (fewest : Bool) (holds : Char → Bool)
  /-- No character, at a word boundary. -/
  | boundary
  /-- No character, where no character of a class stands before. -/
  | notAfter (holds : Char → Bool)
  /-- One pattern after another. -/
  | sequence (first second : Pattern)
  /-- One of two patterns, preferably the first. -/
  | either (first second : Pattern)
  /-- A pattern whose characters are kept. -/
  | group (inner : Pattern)

namespace Pattern

/-- A place in a text: its position, the character before it and the text after
it, with the spans of the groups kept so far. -/
structure Place where
  position : Nat
  before : Option Char
  rest : Text
  groups : List (Nat × Nat)

def Place.advance (place : Place) (character : Char) (rest : Text) : Place :=
  ⟨place.position + 1, some character, rest, place.groups⟩

/-- The place with one more group: the span up to a later place. -/
def Place.keep (start stop : Place) : Place :=
  { stop with groups := stop.groups ++ [(start.position, stop.position)] }

/-- The places behind any number of characters of a class, the farthest one
first, and then some places that are nearer; `rest` follows the place. -/
def repetitions (holds : Char → Bool) (nearer : List Place) (place : Place) :
    Text → List Place
  | [] => place :: nearer
  | first :: rest =>
      if holds first then
        repetitions holds (place :: nearer) (place.advance first rest) rest
      else place :: nearer

/-- The places where the pattern can end when it starts at a place, the
preferred one first. -/
def successes : Pattern → Place → List Place
  | nothing, place => [place]
  | one holds, place =>
      match place.rest with
      | first :: rest => if holds first then [place.advance first rest] else []
      | [] => []
  | many fewest holds, place =>
      let places := repetitions holds [] place place.rest
      if fewest then places.reverse else places
  | boundary, place =>
      if Text.isBoundary place.before place.rest.head? then [place] else []
  | notAfter holds, place => if place.before.any holds then [] else [place]
  | sequence first second, place =>
      (first.successes place).flatMap second.successes
  | either first second, place =>
      first.successes place ++ second.successes place
  | group inner, place => (inner.successes place).map place.keep

/-- What a pattern found: where it starts and the groups that it kept. -/
structure Found where
  position : Nat
  groups : List Text

/-- The first place at or after a place where the pattern succeeds, and the
place where it ends. -/
def findFrom (pattern : Pattern) (position : Nat) (before : Option Char) :
    Text → Option (Nat × Place)
  | [] => (pattern.successes ⟨position, before, [], []⟩).head?.map (position, ·)
  | first :: rest =>
      match pattern.successes ⟨position, before, first :: rest, []⟩ with
      | stop :: _ => some (position, stop)
      | [] => pattern.findFrom (position + 1) (some first) rest

def find? (pattern : Pattern) (text : Text) : Option Found :=
  (pattern.findFrom 0 none text).map fun (position, stop) =>
    ⟨position, stop.groups.map fun (start, stop) => (text.take stop).drop start⟩

/-- Patterns one after another. -/
def all (patterns : List Pattern) : Pattern := patterns.foldr sequence nothing

/-- One of some patterns, preferably an earlier one. -/
def anyOf : List Pattern → Pattern
  | [] => one fun _ => false
  | [last] => last
  | first :: rest => either first (anyOf rest)

def optional (pattern : Pattern) : Pattern := either pattern nothing

def exactly (text : Text) : Pattern :=
  all (text.map fun character => one (· == character))

/-- The letters of a text, in either case. -/
def letters (text : Text) : Pattern :=
  all (text.map fun character => one (Text.sameLetter character))

/-- As many blanks as possible. -/
def blanks : Pattern := many false Text.isBlank

/-- At least one blank, and as many as possible. -/
def someBlanks : Pattern := sequence (one Text.isBlank) blanks

/-- At least one decimal digit, and as many as possible. -/
def digits : Pattern := sequence (one Text.isDigit) (many false Text.isDigit)

def digit : Pattern := one Text.isDigit

/-- Any character of the same line. -/
def isInLine (character : Char) : Bool := character != '\n'

end Pattern

/-- Whether a word occurs in a text between word boundaries, in letters of
either case. -/
def Text.containsWord (text word : Text) : Bool :=
  (Pattern.find? (.all [.boundary, .letters word, .boundary]) text).isSome

end CardQuery
