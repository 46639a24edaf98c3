import CardQuery.Search.Finding

/-!
# Quotes of a query

A double quote opens a phrase and the next one closes it; inside a phrase a
backslash hides the character after it.  The check works on the characters of
the query alone, and at most one quote can be left open: the last one.
-/

namespace CardQuery.Quotation

/-- The position of the quote that is left open in a text which starts at
`position`, when the quote at `opened` is open before it. -/
def openQuoteFrom : (position : Nat) → (opened : Option Nat) → Text → Option Nat
  | _, opened, [] => opened
  | position, none, first :: rest =>
      openQuoteFrom (position + 1)
        (if first = '"' then some position else none) rest
  | _, some start, ['\\'] => some start
  | position, some start, '\\' :: _ :: rest =>
      openQuoteFrom (position + 2) (some start) rest
  | position, some start, first :: rest =>
      openQuoteFrom (position + 1)
        (if first = '"' then none else some start) rest

def openQuote? (text : Text) : Option Nat := openQuoteFrom 0 none text

/-- The fault of a quote that is left open, from the quote to the end of the
query. -/
def findings (text : Text) : List Finding :=
  match openQuote? text with
  | some position =>
      [⟨.unclosedQuote, "Unclosed quote \" (missing closing \")",
        some ⟨position, text.length - position⟩, []⟩]
  | none => []

end CardQuery.Quotation
