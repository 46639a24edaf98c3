import CardQuery.Search.Finding

/-!
# The structure of a query

Brackets must match and hold something, and every connective must stand between
the things that it joins or before the thing that it negates.  The checks look
at tokens alone and report every fault; blank tokens do not count, so brackets
around blanks are empty.

Brackets are matched by a stack.  A closing bracket that meets an empty stack is
unmatched, and so is every opening bracket that is left on the stack at the end.
-/

namespace CardQuery.Structure

/-- Finds fault with an opening bracket that the next token closes. -/
def emptyBrackets (opening : Token) : List Token → List Finding
  | next :: _ =>
      if next.isClosing then
        [⟨.emptyBrackets, "Empty parentheses '()' are not allowed",
          some ⟨opening.position, next.stop - opening.position⟩, []⟩]
      else []
  | [] => []

def unmatchedClosing (token : Token) : Finding :=
  .onToken token .unmatchedClosingBracket "Unmatched closing parenthesis ')'" []

def unmatchedOpening (token : Token) : Finding :=
  .onToken token .unmatchedOpeningBracket
    "Unmatched opening parenthesis '(' (missing ')')" []

/-- The faults of brackets in the tokens that follow the `pending` opening
brackets, of which the innermost comes first. -/
def bracketFindings (pending : List Token) : List Token → List Finding
  | [] => pending.reverse.map unmatchedOpening
  | token :: rest =>
      if token.isOpening then
        emptyBrackets token rest ++ bracketFindings (token :: pending) rest
      else if token.isClosing then
        match pending with
        | [] => unmatchedClosing token :: bracketFindings [] rest
        | _ :: outer => bracketFindings outer rest
      else bracketFindings pending rest

def atStart (tokens : List Token) : List Finding :=
  match tokens with
  | first :: _ =>
      match first.form.connective? with
      | none | some .not => []
      | some connective =>
          [.onToken first .connectiveAtStart
            ("Query cannot start with boolean operator '" ++ connective.name ++
              "'") []]
  | [] => []

def atEnd (tokens : List Token) : List Finding :=
  match tokens.getLast? with
  | some last =>
      match last.form.connective? with
      | none => []
      | some connective =>
          [.onToken last .connectiveAtEnd
            ("Query cannot end with boolean operator '" ++ connective.name ++
              "'") []]
  | none => []

/-- Whether one connective may directly follow another: only `NOT` may, after
`AND` or `OR`. -/
def mayFollow (first second : Connective) : Bool :=
  first != .not && second == .not

/-- Finds fault with a connective that another one follows. -/
def consecutive (token : Token) (connective : Connective)
    (next : Option Token) : List Finding :=
  match next with
  | some following =>
      match following.form.connective? with
      | some second =>
          if mayFollow connective second then []
          else
            [⟨.consecutiveConnectives,
              "Consecutive boolean operators '" ++ connective.name ++ " " ++
                second.name ++ "'",
              some ⟨token.position, following.stop - token.position⟩, []⟩]
      | none => []
  | none => []

/-- Finds fault with a connective that nothing follows before its brackets
close. -/
def orphaned (token : Token) (connective : Connective) (next : Option Token) :
    List Finding :=
  if next.all Token.isClosing then
    [.onToken token .orphanedConnective
      ("Boolean operator '" ++ connective.name ++
        "' has nothing to apply to") []]
  else []

/-- Finds fault with a connective other than `NOT` after an opening bracket. -/
def afterOpening (before : Option Token) (token : Token)
    (connective : Connective) : List Finding :=
  if before.any Token.isOpening && connective != .not then
    [.onToken token .connectiveAfterOpening
      ("Boolean operator '" ++ connective.name ++ "' cannot follow '('") []]
  else []

/-- The faults of connectives with their neighbours, in tokens that follow the
token `before`. -/
def neighbourFindings (before : Option Token) : List Token → List Finding
  | [] => []
  | token :: rest =>
      (match token.form.connective? with
        | some connective =>
            consecutive token connective rest.head? ++
              orphaned token connective rest.head? ++
              afterOpening before token connective
        | none => []) ++ neighbourFindings (some token) rest

def connectiveFindings (tokens : List Token) : List Finding :=
  atStart tokens ++ atEnd tokens ++ neighbourFindings none tokens

def trailingOpening (tokens : List Token) : List Finding :=
  match tokens.getLast? with
  | some last =>
      if last.isOpening then
        [.onToken last .trailingOpening
          "Query cannot end with an opening parenthesis" []]
      else []
  | none => []

/-- The fault of a query without a meaningful token.  Its span ends where the
last token starts. -/
def emptyQuery (tokens : List Token) : Finding :=
  ⟨.emptyQuery, "Query is empty", some ⟨0, tokens.getLast?.elim 0 (·.position)⟩,
    []⟩

def findings (tokens : List Token) : List Finding :=
  let meaningful := Token.meaningful tokens
  if meaningful.isEmpty then [emptyQuery tokens]
  else bracketFindings [] meaningful ++ connectiveFindings meaningful ++
    trailingOpening meaningful

def check (tokens : List Token) : CheckResult := ⟨findings tokens, []⟩

end CardQuery.Structure
