import CardQuery.Text.Blank

/-!
# Edits of a query

A span of a query can be removed or replaced.  Removal joins what is left by one
blank, but by none at the ends of the query and on the inner side of a bracket.
A value that would not be read as one value is put between quotes.
-/

namespace CardQuery.Edit

/-- The text without the characters from `start` up to `stop`. -/
def removeSpan (text : Text) (start stop : Nat) : Text :=
  let before := Text.stripEnd (text.take start)
  let after := Text.stripStart (text.drop stop)
  if before.isEmpty || after.isEmpty || before.getLast? == some '(' ||
      after.head? == some ')' then
    before ++ after
  else before ++ ' ' :: after

def replaceSpan (text : Text) (start stop : Nat) (replacement : Text) : Text :=
  text.take start ++ replacement ++ text.drop stop

/-- A character as it stands in a quoted phrase. -/
def escape (character : Char) : Text :=
  if character == '"' || character == '\\' then ['\\', character]
  else [character]

/-- The quoted phrase that has the value. -/
def phrase (value : Text) : Text := '"' :: value.flatMap escape ++ ['"']

/-- The value, between quotes if it holds a blank, a bracket or a quote. -/
def quoteValue (value : Text) : Text :=
  if value.any fun character =>
      Text.isBlank character || "()\"'".toList.contains character then
    phrase value
  else value

end CardQuery.Edit
