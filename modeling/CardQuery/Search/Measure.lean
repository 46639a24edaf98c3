import CardQuery.Search.Token

/-!
# Measures of a query

The nesting depth of tokens is the deepest level that brackets reach, where a
closing bracket without an opening one changes nothing.  The complexity counts
one for every token, one and a half for every connective and two for every
level; it is kept as a number of halves.
-/

namespace CardQuery.Token

/-- The deepest level reached by tokens that start at a level, together with an
earlier deepest level. -/
def deepest (level reached : Nat) : List Token → Nat
  | [] => reached
  | token :: rest =>
      if token.isOpening then deepest (level + 1) (max reached (level + 1)) rest
      else if token.isClosing then deepest (level - 1) reached rest
      else deepest level reached rest

def nestingDepth (tokens : List Token) : Nat := deepest 0 0 tokens

/-- Twice the complexity of the tokens. -/
def complexityHalves (tokens : List Token) : Nat :=
  2 * tokens.length + 3 * tokens.countP (·.form.connective?.isSome) +
    4 * nestingDepth tokens

end CardQuery.Token
