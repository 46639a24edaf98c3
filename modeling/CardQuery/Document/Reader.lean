import CardQuery.Document.Basic
import CardQuery.Number.Lenient

/-!
# Reading documents

A document is read field by field, and reading reports every problem that it
meets with the path to it.  The problems of fields come in the order in which
the fields are declared, then come fields that are not known.  A condition on a
whole record is checked only when its fields have no problem.
-/

namespace CardQuery

/-- The shapes of values that readers ask for. -/
inductive Shape where
  | text
  | whole
  | number
  | truth
  /-- A list to which items may be added. -/
  | list
  /-- A list whose items stay as they are. -/
  | row
  | record
  /-- A record that names its kind. -/
  | variant
deriving DecidableEq, Repr, Inhabited

/-- What is wrong with a part of a document. -/
inductive ProblemKind where
  /-- The value has another shape. -/
  | otherShape (wanted : Shape)
  /-- The value breaks a rule. -/
  | invalid
  | missing
  | unexpected
  /-- The value is none of the names that are allowed. -/
  | notNamed
  /-- The value is none of the words that are allowed. -/
  | notWord
  | tooSmall
  | tooLarge
  | notWhole
  /-- The whole number has too many digits to be read. -/
  | tooLong
  | fractional
  /-- The number is infinite or undefined. -/
  | notFinite
  | notNumber
  /-- The text or number stands for no truth value. -/
  | notTruth
  | tooMany
  | noKind
  | unknownKind
deriving DecidableEq, Repr, Inhabited

/-- A problem with the path to the part of the document that has it. -/
structure Problem where
  path : List Text
  kind : ProblemKind
deriving DecidableEq, Repr, Inhabited

/-- What is read from a document, or the problems that it has. -/
abbrev Checked (α : Type) := Except (List Problem) α

namespace Checked

/-- A problem at the place that is being read. -/
def fail {α : Type} (kind : ProblemKind) : Checked α := .error [⟨[], kind⟩]

/-- What is read at a place below the one that is being read. -/
def under {α : Type} (name : Text) (checked : Checked α) : Checked α :=
  checked.mapError fun problems => problems.map fun problem =>
    { problem with path := name :: problem.path }

/-- A function whose arguments are to be read. -/
def ofFunction {α : Type} (function : α) : Checked α := .ok function

/-- A function and its argument, with the problems of both. -/
def apply {α β : Type} (function : Checked (α → β)) (argument : Checked α) :
    Checked β :=
  match function, argument with
  | .ok function, .ok argument => .ok (function argument)
  | .error problems, .ok _ => .error problems
  | .ok _, .error problems => .error problems
  | .error first, .error second => .error (first ++ second)

/-- A value, and another reading that only adds its problems. -/
def also {α : Type} (checked : Checked α) (other : Checked Unit) : Checked α :=
  apply (checked.map fun value _ => value) other

/-- What is read, if it keeps a rule. -/
def require {α : Type} (rule : α → Bool) (checked : Checked α) : Checked α :=
  match checked with
  | .ok value => if rule value then .ok value else fail .invalid
  | .error problems => .error problems

/-- All items from a number on, each read under its number. -/
def each {α β : Type} (read : α → Checked β) (number : Nat) :
    List α → Checked (List β)
  | [] => .ok []
  | first :: rest =>
      apply
        ((under (Text.ofNat number) (read first)).map
          fun value items => value :: items)
        (each read (number + 1) rest)

end Checked

/-- A way to read a document. -/
abbrev Reader (α : Type) := Document → Checked α

namespace Reader

def text : Reader Text
  | .text characters => .ok characters
  | _ => .fail (.otherShape .text)

/-- A text without white space around it. -/
def trimmed : Reader Text := fun document => (text document).map Text.trim

/-- Nothing, or what a reader reads. -/
def nullable {α : Type} (read : Reader α) : Reader (Option α)
  | .absent => .ok none
  | document => (read document).map some

/-- A number; a text may write one, and the truth values are one and zero.  A
whole number must not be too large. -/
def number : Reader Binary64
  | .whole value =>
      match Binary64.ofInt value with
      | .infinite _ => .fail (.otherShape .number)
      | nearest => .ok nearest
  | .number value => .ok value
  | .truth holds => .ok (.ofInt (if holds then 1 else 0))
  | .text characters =>
      (Lenient.readNumber? characters).elim (.fail .notNumber) .ok
  | _ => .fail (.otherShape .number)

/-- The whole numbers below this size, and those above its negative, may stand
as other numbers. -/
def wholeLimit : Binary64 := .ofInt 9223372036854775808

/-- A number that is whole. -/
def wholeOf (value : Binary64) : Checked Int :=
  match value with
  | .undefined | .infinite _ => .fail .notFinite
  | value =>
      match value.toInt? with
      | none => .fail .fractional
      | some whole =>
          if -wholeLimit < value ∧ value < wholeLimit then .ok whole
          else .fail .tooLong

/-- A whole number; a text may write one, and the truth values are one and
zero. -/
def whole : Reader Int
  | .whole value => .ok value
  | .number value => wholeOf value
  | .truth holds => .ok (if holds then 1 else 0)
  | .text characters =>
      match Lenient.readInt characters with
      | .ok value => .ok value
      | .error .malformed => .fail .notWhole
      | .error .tooLong => .fail .tooLong
  | _ => .fail (.otherShape .whole)

/-- The truth value that a number stands for; numbers that are not whole, or too
large, have not even the shape of one. -/
def truthOf (value : Binary64) : Checked Bool :=
  match wholeOf value with
  | .ok value =>
      if value = 1 then .ok true
      else if value = 0 then .ok false
      else .fail .notTruth
  | .error _ => .fail (.otherShape .truth)

/-- A truth value; one, zero and some words stand for it. -/
def truth : Reader Bool
  | .truth holds => .ok holds
  | .whole value => truthOf (.ofInt value)
  | .number value => truthOf value
  | .text characters =>
      let word := characters.map Char.toLower
      if ["1".toList, "t", "true", "y", "yes", "on"].contains word then .ok true
      else if ["0".toList, "f", "false", "n", "no", "off"].contains word then
        .ok false
      else .fail .notTruth
  | _ => .fail (.otherShape .truth)

/-- A number that lies between bounds, of which the upper one is checked first;
an undefined number lies nowhere. -/
def between (low : Binary64) (high : Option Binary64) :
    Reader Binary64 := fun document =>
  match number document with
  | .ok value =>
      if high.any fun high => ¬ value ≤ high then .fail .tooLarge
      else if ¬ low ≤ value then .fail .tooSmall
      else .ok value
  | .error problems => .error problems

def atLeast (low : Int) : Reader Int := fun document =>
  match whole document with
  | .ok value => if value < low then .fail .tooSmall else .ok value
  | .error problems => .error problems

/-- A number from zero to one, as a confidence is. -/
def unitInterval : Reader Binary64 := between (.finite 0) (some (.ofInt 1))

/-- One of the values that have a name. -/
def named {α : Type} (ofName? : Text → Option α) : Reader α
  | .text name => (ofName? name).elim (.fail .notNamed) .ok
  | _ => .fail .notNamed

/-- One of the values that have a word. -/
def worded {α : Type} (ofWord? : Text → Option α) : Reader α
  | .text word => (ofWord? word).elim (.fail .notWord) .ok
  | _ => .fail .notWord

def kind (name : Text) : Reader Unit :=
  worded fun word => if word = name then some () else none

/-- Items that are read in one way, where a list of the given shape is asked
for. -/
def items {α : Type} (shape : Shape) (read : Reader α) : Reader (List α)
  | .list items => Checked.each read 0 items
  | _ => .fail (.otherShape shape)

def list {α : Type} : Reader α → Reader (List α) := items .list

def row {α : Type} : Reader α → Reader (List α) := items .row

/-- An item of a list that has to be there. -/
def item {α : Type} (items : List Document) (index : Nat) (read : Reader α) :
    Checked α :=
  match items[index]? with
  | some document => (read document).under (Text.ofNat index)
  | none => (Checked.fail .missing).under (Text.ofNat index)

/-- A row of two items. -/
def pair {α β : Type} (first : Reader α) (second : Reader β) : Reader (α × β)
  | .list items =>
      if 2 < items.length then .fail .tooMany
      else
        (Checked.ofFunction Prod.mk)
          |>.apply (item items 0 first) |>.apply (item items 1 second)
  | _ => .fail (.otherShape .row)

/-- A field that has to be there. -/
def required {α : Type} (document : Document) (name : Text) (read : Reader α) :
    Checked α :=
  match document.field? name with
  | some value => (read value).under name
  | none => (Checked.fail .missing).under name

/-- A field with a value that stands for its absence. -/
def field {α : Type} (document : Document) (name : Text) (usual : α)
    (read : Reader α) : Checked α :=
  match document.field? name with
  | some value => (read value).under name
  | none => .ok usual

/-- Finds fault with fields that have none of the given names. -/
def only (names : List Text) (fields : List (Text × Document)) : Checked Unit :=
  let unknown := fields.filter fun entry => !names.contains entry.1
  if unknown.isEmpty then .ok ()
  else .error (unknown.map fun entry => ⟨[entry.1], .unexpected⟩)

/-- What a reader reads, if it keeps a rule. -/
def satisfying {α : Type} (rule : α → Bool) (read : Reader α) : Reader α :=
  fun document => Checked.require rule (read document)

/-- A record that has no fields but those with the given names. -/
def record {α : Type} (names : List Text) (read : Reader α) : Reader α
  | .record fields => Checked.also (read (.record fields)) (only names fields)
  | _ => .fail (.otherShape .record)

end Reader

end CardQuery
