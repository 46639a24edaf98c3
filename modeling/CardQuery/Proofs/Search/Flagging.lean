import CardQuery.Proofs.Origin
import CardQuery.Proofs.Search.Partition

/-!
# What the findings about the structure flag

Seven kinds of findings about the structure of a query say that tokens are too
much.  Five are about one bracket or one connective, and their span is the span
of that token.  The other two are about neighbours among the tokens that count,
so that only blanks can stand between them, and the span reaches from the start
of the first to the end of the second: of two connectives the second one is too
much, and of two brackets with nothing in them both are.
-/

namespace CardQuery

/-- The finding says of tokens that they are too much behind the tokens in front
of them. -/
inductive Finding.Flags (finding : Finding) :
    (before flagged : List Token) → Prop where
  | closing {before : List Token} {token : Token} :
      finding.code = .unmatchedClosingBracket → token.isClosing = true →
      finding.span = some token.span → Flags finding before [token]
  | opening {before : List Token} {token : Token} :
      finding.code = .trailingOpening → token.isOpening = true →
      finding.span = some token.span → Flags finding before [token]
  | connective {before : List Token} {token : Token} :
      finding.code = .connectiveAtStart ∨ finding.code = .connectiveAtEnd ∨
        finding.code = .orphanedConnective →
      token.form.connective?.isSome = true →
      finding.span = some token.span → Flags finding before [token]
  | second {before : List Token} {first second : Token} :
      finding.code = .consecutiveConnectives →
      first.form.connective?.isSome = true →
      second.form.connective?.isSome = true →
      finding.span = some ⟨first.position, second.stop - first.position⟩ →
      Flags finding (before ++ [first]) [second]
  | pair {before : List Token} {opening closing : Token} :
      finding.code = .emptyBrackets → opening.isOpening = true →
      closing.isClosing = true →
      finding.span = some
        ⟨opening.position, closing.stop - opening.position⟩ →
      Flags finding before [opening, closing]

/-- The codes of findings about tokens that are too much. -/
def Code.flagging : List Code :=
  [.unmatchedClosingBracket, .trailingOpening, .connectiveAtStart,
   .connectiveAtEnd, .orphanedConnective, .consecutiveConnectives,
   .emptyBrackets]

/-- The finding flags some of the tokens. -/
def Finding.FlagsAmong (finding : Finding) (tokens : List Token) : Prop :=
  ∃ before flagged after, tokens = before ++ (flagged ++ after) ∧
    finding.Flags before flagged

namespace Structure

variable {tokens : List Token} {finding : Finding}

private theorem BracketFault.flagsAmong (fault : BracketFault tokens finding)
    (other : finding.code ≠ .unmatchedOpeningBracket) :
    finding.FlagsAmong tokens := by
  cases fault with
  | leftOpen => contradiction
  | @stray token member closing =>
      obtain ⟨before, after, rfl⟩ := List.append_of_mem member
      exact ⟨before, [token], after, rfl, .closing rfl closing rfl⟩
  | @hollow first second _ neighbours opening closing =>
      obtain ⟨before, after, rfl⟩ := neighbours
      exact ⟨before, [first, second], after, List.append_assoc _ _ _,
        .pair rfl opening closing rfl⟩

private theorem ConnectiveFault.flagsAmong
    (fault : ConnectiveFault tokens finding)
    (other : finding.code ≠ .connectiveAfterOpening) :
    finding.FlagsAmong tokens := by
  cases fault with
  | @alone token code _ member joining isAlone =>
      obtain ⟨before, after, rfl⟩ := List.append_of_mem member
      have tooMuch : ∀ code ∈ Code.ofOneConnective,
          code ≠ .connectiveAfterOpening →
            code = .connectiveAtStart ∨ code = .connectiveAtEnd ∨
              code = .orphanedConnective := by
        decide
      exact ⟨before, [token], after, rfl,
        .connective (tooMuch code isAlone other) joining rfl⟩
  | @consecutive first second _ neighbours isFirst isSecond =>
      obtain ⟨before, after, rfl⟩ := neighbours
      exact ⟨before ++ [first], [second], after, by simp,
        .second rfl isFirst isSecond rfl⟩

private theorem flagsAmong_of_mem_extentFindings
    (member : finding ∈ extentFindings tokens)
    (other : finding.code ≠ .emptyQuery) :
    finding.FlagsAmong (Token.meaningful tokens) := by
  rcases cases_of_mem_extentFindings member with
    rfl | ⟨last, isLast, opening, code, span⟩
  · contradiction
  · obtain ⟨front, split⟩ := List.getLast?_eq_some_iff.mp isLast
    exact ⟨front, [last], [], by rw [split, List.append_nil],
      .opening code opening span⟩

end Structure

/-- Whatever is found to be too much in a query is among its tokens that
count. -/
theorem Validator.flagsAmong_of_mem {validator : Validator} {query : Text}
    {finding : Finding}
    (member : finding ∈ validator.errors query ++ validator.warnings query)
    (flagging : finding.code ∈ Code.flagging) :
    finding.FlagsAmong (Token.meaningful (Token.read query)) := by
  have known : finding.code ≠ .unknownOperator := by
    intro unknown
    simp [unknown, Code.flagging] at flagging
  have found {origin : Origin} (isFrom : finding.code.origin = origin) :=
    mem_findingsOf_of_mem member isFrom known
  have ofBrackets (isFrom : finding.code.origin = .brackets) :=
    (Structure.bracketFault_of_mem (found isFrom (by decide))).flagsAmong
  have ofConnectives (isFrom : finding.code.origin = .connectives) :=
    (Structure.connectiveFault_of_mem (found isFrom (by decide))).flagsAmong
  have ofExtent (isFrom : finding.code.origin = .extent) :=
    @Structure.flagsAmong_of_mem_extentFindings _ _ (found isFrom (by decide))
  cases code : finding.code with
  | unmatchedClosingBracket | emptyBrackets =>
      simpa [code] using ofBrackets (by rw [code]; rfl)
  | connectiveAtStart | connectiveAtEnd | orphanedConnective
  | consecutiveConnectives =>
      simpa [code] using ofConnectives (by rw [code]; rfl)
  | trailingOpening => simpa [code] using ofExtent (by rw [code]; rfl)
  | _ => simp [code, Code.flagging] at flagging

end CardQuery
