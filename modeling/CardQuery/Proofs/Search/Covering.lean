import CardQuery.Proofs.Search.Faults
import CardQuery.Proofs.Search.Partition

/-!
# Spans that cover tokens

A finding about the structure of a query is about one token or about two in
their order, so its span starts where a token starts and ends where the same or
a later one ends.  Tokens follow one another without a gap: with those in
between such a span covers a row of tokens, and what it cuts out of the query is
the text of that row and nothing of its neighbours.
-/

namespace CardQuery

/-- The span reaches from the start of the first token of a row to the end of
the last one. -/
def Span.Covers (span : Span) (row : List Token) : Prop :=
  ∃ first ∈ row.head?, ∃ last ∈ row.getLast?,
    span.position = first.position ∧ span.stop = last.stop

/-- The finding has a span, and the span covers some of the tokens, taken in
their order. -/
def Finding.CoversAmong (finding : Finding) (tokens : List Token) : Prop :=
  ∃ span, finding.span = some span ∧
    ∃ row : List Token, row.Sublist tokens ∧ span.Covers row

private theorem exists_infix_of_sublist {α : Type} {row items : List α}
    (among : row.Sublist items) (nonempty : row ≠ []) :
    ∃ whole, whole <:+: items ∧ whole.head? = row.head? ∧
      whole.getLast? = row.getLast? := by
  induction among with
  | slnil => contradiction
  | @cons row items item _ ih =>
      obtain ⟨whole, isRow, ends⟩ := ih nonempty
      exact ⟨whole, isRow.trans (List.suffix_cons item items).isInfix, ends⟩
  | @cons_cons row items item _ ih =>
      cases row with
      | nil => exact ⟨[item], ⟨[], items, rfl⟩, rfl, rfl⟩
      | cons second row =>
          obtain ⟨whole, ⟨before, after, rfl⟩, first, last⟩ := ih (by simp)
          refine ⟨item :: (before ++ whole), ⟨[], after, by simp⟩, rfl, ?_⟩
          have some : whole ≠ [] := by
            rintro rfl
            cases first
          rw [List.getLast?_cons_of_ne_nil (by simp [some]),
            List.getLast?_append_of_ne_nil _ some, last, List.getLast?_cons_cons]

private theorem Token.read_eq_placed (text : Text) :
    read text = Lexeme.placed 0 (Lexeme.scan text ++ [⟨.finish, []⟩]) := by
  rw [read, Lexeme.place_eq, Lexeme.placed_append]
  rfl

theorem Token.span_eq (token : Token) :
    token.span = ⟨token.position, token.stop - token.position⟩ := by
  simp only [span, stop, Span.mk.injEq, true_and]
  omega

private theorem Lexeme.flatMap_text_placed (start : Nat)
    (lexemes : List Lexeme) :
    (placed start lexemes).flatMap (·.text) = joined lexemes := by
  rw [joined, ← map_toLexeme_placed start lexemes, List.flatMap_map,
    map_toLexeme_placed]

namespace Span

variable {span : Span} {row : List Token} {query : Text}

theorem covers_singleton (token : Token) : token.span.Covers [token] :=
  ⟨token, rfl, token, rfl, rfl, by simp [stop, Token.span, Token.stop]⟩

private theorem covers_pair (first second : Token) :
    Covers ⟨first.position, second.stop - first.position⟩ [first, second] :=
  ⟨first, rfl, second, rfl, rfl, by simp only [stop]; omega⟩

theorem Covers.exists_row {tokens : List Token} (covers : span.Covers row)
    (among : row.Sublist tokens) :
    ∃ whole, whole <:+: tokens ∧ span.Covers whole := by
  obtain ⟨first, isFirst, ends⟩ := covers
  have nonempty : row ≠ [] := by
    rintro rfl
    cases isFirst
  obtain ⟨whole, isRow, sameFirst, sameLast⟩ :=
    exists_infix_of_sublist among nonempty
  refine ⟨whole, isRow, first, ?_, ?_⟩
  · rwa [sameFirst]
  · rwa [sameLast]

private theorem Covers.exists_cut (covers : span.Covers row)
    (isRow : row <:+: Token.read query) :
    ∃ before after, query = before ++ (row.flatMap (·.text) ++ after) ∧
      span = ⟨before.length, (row.flatMap (·.text)).length⟩ := by
  obtain ⟨first, isFirst, last, isLast, start, stop⟩ := covers
  obtain ⟨left, right, split⟩ := isRow
  rw [Token.read_eq_placed] at split
  obtain ⟨front, after, scanned, isFront, _⟩ :=
    Lexeme.placed_eq_append split.symm
  obtain ⟨before, middle, rfl, _, rfl⟩ := Lexeme.placed_eq_append isFront.symm
  have whole : query = Lexeme.joined ((before ++ middle) ++ after) := by
    rw [← scanned]
    simp [Lexeme.joined_scan]
  rw [Lexeme.position_of_first_placed isFirst] at start
  rw [Lexeme.stop_of_last_placed isLast] at stop
  rw [Lexeme.flatMap_text_placed]
  refine ⟨Lexeme.joined before, Lexeme.joined after, by simp [whole], ?_⟩
  obtain ⟨position, length⟩ := span
  simp only [Span.stop] at start stop
  simp only [Span.mk.injEq]
  omega

/-- A span that covers a row of tokens lies in the query and cuts their text out
of it. -/
theorem Covers.isInside (covers : span.Covers row)
    (isRow : row <:+: Token.read query) :
    0 ≤ span.position ∧ 0 ≤ span.length ∧ span.stop ≤ query.length ∧
      Text.slice query span.position span.stop = row.flatMap (·.text) := by
  obtain ⟨before, after, rfl, rfl⟩ := covers.exists_cut isRow
  refine ⟨Int.natCast_nonneg _, Int.natCast_nonneg _, ?_, ?_⟩
  · simp only [Span.stop, List.length_append]
    omega
  · exact Text.slice_middle rfl rfl

end Span

namespace Finding

variable {finding : Finding} {tokens : List Token}

theorem coversAmong_of_mem {token : Token} (member : token ∈ tokens)
    (span : finding.span = some token.span) : finding.CoversAmong tokens :=
  ⟨_, span, [token], List.singleton_sublist.mpr member,
    Span.covers_singleton token⟩

private theorem coversAmong_of_sublist {first second : Token}
    (among : [first, second].Sublist tokens)
    (span : finding.span =
      some ⟨first.position, second.stop - first.position⟩) :
    finding.CoversAmong tokens :=
  ⟨_, span, [first, second], among, Span.covers_pair first second⟩

end Finding

namespace Structure

variable {tokens : List Token} {finding : Finding}

theorem BracketFault.coversAmong (fault : BracketFault tokens finding) :
    finding.CoversAmong tokens := by
  cases fault with
  | leftOpen member => exact Finding.coversAmong_of_mem member rfl
  | stray member => exact Finding.coversAmong_of_mem member rfl
  | hollow neighbours =>
      exact Finding.coversAmong_of_sublist neighbours.sublist rfl

theorem ConnectiveFault.coversAmong (fault : ConnectiveFault tokens finding) :
    finding.CoversAmong tokens := by
  cases fault with
  | alone member => exact Finding.coversAmong_of_mem member rfl
  | consecutive neighbours =>
      exact Finding.coversAmong_of_sublist neighbours.sublist rfl

end Structure

end CardQuery
