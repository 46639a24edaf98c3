import CardQuery.Text.Basic

/-!
# Tokens of the search language

A query is made of conditions such as `c:red` or `-mv>=3`, bare words, quoted
phrases, brackets and the connectives `AND`, `OR` and `NOT`.  A lexeme is a
piece of the query with what it says; a token is a lexeme at its position.  A
token list ends with one token of the form `finish`, which has no text and
stands where the query ends.
-/

namespace CardQuery

inductive Connective where
  | and
  | or
  | not
deriving DecidableEq, Repr, Inhabited

namespace Connective

/-- The connective in capitals. -/
def name : Connective → Text
  | .and => "AND"
  | .or => "OR"
  | .not => "NOT"

def ofWord? (word : Text) : Option Connective :=
  [.and, .or, .not].find? fun connective =>
    connective.name == word.map Char.toUpper

end Connective

/-- A comparison between a property and a value. -/
inductive Comparison where
  | lt
  | le
  | gt
  | ge
  | eq
  | ne
deriving DecidableEq, Repr, Inhabited

namespace Comparison

def symbol : Comparison → Text
  | .lt => "<"
  | .le => "<="
  | .gt => ">"
  | .ge => ">="
  | .eq => "="
  | .ne => "!="

def isOrdering : Comparison → Bool
  | .lt | .le | .gt | .ge => true
  | .eq | .ne => false

def ofSymbol? (symbol : Text) : Option Comparison :=
  [Comparison.lt, .le, .gt, .ge, .eq, .ne].find? (·.symbol == symbol)

/-- Reads what separates a name from its value: a colon, which compares nothing,
or the longest sign at the start of the text. -/
def read? : Text → Option (Option Comparison × Text)
  | '>' :: '=' :: rest => some (some .ge, rest)
  | '<' :: '=' :: rest => some (some .le, rest)
  | '!' :: '=' :: rest => some (some .ne, rest)
  | ':' :: rest => some (none, rest)
  | '=' :: rest => some (some .eq, rest)
  | '<' :: rest => some (some .lt, rest)
  | '>' :: rest => some (some .gt, rest)
  | _ => none

/-- What stands between a name and its value. -/
def separator (comparison : Option Comparison) : Text :=
  match comparison with
  | none => ":"
  | some comparison => comparison.symbol

end Comparison

/-- What a condition says before its value. -/
structure Head where
  negated : Bool
  name : Text
  comparison : Option Comparison
deriving DecidableEq, Repr, Inhabited

namespace Head

/-- Whether the character can begin a name: an ASCII letter or the
underscore. -/
def isNameStart (character : Char) : Bool :=
  character.isAlpha || character == '_'

/-- Whether the character can continue a name: an ASCII letter or digit or the
underscore. -/
def isNamePart (character : Char) : Bool :=
  character.isAlphanum || character == '_'

def text (head : Head) : Text :=
  (if head.negated then ['-'] else []) ++ head.name ++
    Comparison.separator head.comparison

/-- Reads a name and the separator after it. -/
def readName? (negated : Bool) : Text → Option (Head × Text)
  | [] => none
  | first :: rest =>
      if isNameStart first then
        (Comparison.read? (rest.dropWhile isNamePart)).map
          fun (comparison, value) =>
            (⟨negated, first :: rest.takeWhile isNamePart, comparison⟩, value)
      else none

/-- Reads a head at the start of a text and gives the text after it. -/
def read? : Text → Option (Head × Text)
  | '-' :: rest => readName? true rest
  | text => readName? false text

end Head

/-- A property of cards that a query asks for, such as `c:red`. -/
structure Condition extends Head where
  value : Text
  quoted : Bool
deriving DecidableEq, Repr, Inhabited

/-- The sign before the value, if it is not the colon. -/
def Condition.sign? (condition : Condition) : Option Text :=
  condition.comparison.map Comparison.symbol

/-- What a piece of a query says. -/
inductive Form where
  | blank
  | bracket (isOpen : Bool)
  | phrase (value : Text) (closed : Bool)
  | connective (joining : Connective)
  | condition (asked : Condition)
  | word
  | finish
deriving DecidableEq, Repr, Inhabited

/-- A piece of a query with what it says. -/
structure Lexeme where
  form : Form
  text : Text
deriving DecidableEq, Repr, Inhabited

/-- A lexeme at its position in the query. -/
structure Token extends Lexeme where
  position : Nat
deriving DecidableEq, Repr, Inhabited

namespace Form

/-- Whether the form counts for the structure of a query. -/
def isMeaningful : Form → Bool
  | .blank | .finish => false
  | _ => true

def condition? : Form → Option Condition
  | .condition asked => some asked
  | _ => none

def connective? : Form → Option Connective
  | .connective joining => some joining
  | _ => none

end Form

namespace Token

def length (token : Token) : Nat := token.text.length

/-- The position after the token's last character. -/
def stop (token : Token) : Nat := token.position + token.length

def isMeaningful (token : Token) : Bool := token.form.isMeaningful

def isOpening (token : Token) : Bool := token.form == .bracket true

def isClosing (token : Token) : Bool := token.form == .bracket false

def meaningful (tokens : List Token) : List Token := tokens.filter isMeaningful

/-- The tokens that are conditions, each with its condition. -/
def conditions (tokens : List Token) : List (Token × Condition) :=
  tokens.filterMap fun token => token.form.condition?.map (token, ·)

end Token

end CardQuery
