import CardQuery.Number.Decimal
import CardQuery.Text.Quoted

/-!
# Documents

A document is a value of a data format: nothing, a truth value, a number, a
text, a list or a record of named fields.  Whole numbers are kept apart from
numbers with a point.  `written` lays a document out over lines, each level two
columns further in.
-/

namespace CardQuery

/-- A value of a data format. -/
inductive Document where
  | absent
  | truth (holds : Bool)
  | whole (value : Int)
  | number (value : Binary64)
  | text (characters : Text)
  | list (items : List Document)
  | record (fields : List (Text × Document))
deriving Repr, Inhabited

namespace Document

/-- The document of an optional value, which is absent without the value. -/
def optional {α : Type} (write : α → Document) : Option α → Document
  | none => absent
  | some value => write value

def texts (items : List Text) : Document := list (items.map text)

/-- The field of a record with a given name; the last one if there are
several. -/
def field? (document : Document) (name : Text) : Option Document :=
  match document with
  | record fields => fields.reverse.lookup name
  | _ => none

def writtenCharacter (character : Char) : Text :=
  if character == '"' || character == '\\' then ['\\', character]
  else if character == '\n' then "\\n"
  else if character == '\r' then "\\r"
  else if character == '\t' then "\\t"
  else if character == '\x08' then "\\b"
  else if character == '\x0C' then "\\f"
  else if character.toNat < 0x20 then "\\u" ++ Text.hexDigits 4 character.toNat
  else [character]

def writtenText (characters : Text) : Text :=
  '"' :: characters.flatMap writtenCharacter ++ ['"']

/-- The units of sixteen bits of a character. -/
def units (character : Char) : List Nat :=
  if character.toNat < 0x10000 then [character.toNat]
  else
    [0xD800 + (character.toNat - 0x10000) / 0x400,
     0xDC00 + (character.toNat - 0x10000) % 0x400]

def asciiCharacter (character : Char) : Text :=
  if character.toNat < 0x7F then writtenCharacter character
  else (units character).flatMap fun unit => "\\u" ++ Text.hexDigits 4 unit

def asciiText (characters : Text) : Text :=
  '"' :: characters.flatMap asciiCharacter ++ ['"']

/-- A number with a point, or a name where it has no digits. -/
def writtenNumber (number : Binary64) : Text :=
  match number with
  | .undefined => "NaN"
  | .infinite negative => if negative then "-Infinity" else "Infinity"
  | _ => number.shortest

/-- A new line at the given level. -/
def newLine (level : Nat) : Text := '\n' :: List.replicate (2 * level) ' '

/-- Pieces between two brackets, each on a line of its own. -/
def enclosed (opening closing : Char) (level : Nat) (pieces : List Text) :
    Text :=
  if pieces.isEmpty then [opening, closing]
  else
    [opening] ++ newLine (level + 1) ++
      Text.join (',' :: newLine (level + 1)) pieces ++
      newLine level ++ [closing]

mutual

/-- The document laid out at a level. -/
def writtenAt (level : Nat) : Document → Text
  | absent => "null"
  | truth holds => if holds then "true" else "false"
  | whole value => Text.ofInt value
  | number value => writtenNumber value
  | text characters => writtenText characters
  | list items => enclosed '[' ']' level (writtenItems (level + 1) items)
  | record fields => enclosed '{' '}' level (writtenFields (level + 1) fields)

def writtenItems (level : Nat) : List Document → List Text
  | [] => []
  | first :: rest => writtenAt level first :: writtenItems level rest

def writtenFields (level : Nat) : List (Text × Document) → List Text
  | [] => []
  | (name, value) :: rest =>
      (writtenText name ++ ": " ++ writtenAt level value) ::
        writtenFields level rest

end

/-- The document laid out over lines. -/
def written (document : Document) : Text := writtenAt 0 document

end Document

end CardQuery
