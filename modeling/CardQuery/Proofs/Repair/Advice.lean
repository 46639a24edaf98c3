import CardQuery.Proofs.Origin
import CardQuery.Proofs.Outcome
import CardQuery.Proofs.Search.Flagging
import CardQuery.Proofs.Search.OpenPhrase
import CardQuery.Proofs.Text.Words

/-!
# Acting on advice

Two fixes read the query at the place of their finding and fail if nothing is
there: the one for an open quote takes the quote from there, and the one for
consecutive connectives takes the last word.  A validation finds an open quote
only where one stands, and the span of two connectives starts with the text of
the first.  What it finds can therefore always be acted on.
-/

namespace CardQuery

namespace Fix

/-- Whether the place of a finding holds what the fix takes from there. -/
def IsInside (code : Code) (setting : Setting) : Prop :=
  match code with
  | .unclosedQuote => (characterAt? setting).isSome = true
  | .consecutiveConnectives => Text.words setting.marked ≠ []
  | _ => True

private theorem fix?_isOk {code : Code} {setting : Setting}
    (inside : IsInside code setting) :
    ∃ fix, fix? code setting = .ok fix := by
  cases code with
  | unclosedQuote =>
      obtain ⟨quote, isQuote⟩ := Option.isSome_iff_exists.mp inside
      exact ⟨_, by rw [fix?, closeQuote, isQuote]; rfl⟩
  | consecutiveConnectives =>
      have isLast := List.getLast?_eq_some_getLast inside
      exact ⟨_, by rw [fix?, dropSecond, isLast]; rfl⟩
  | _ => exact ⟨_, rfl⟩

/-- All findings of a query are at places where they can be acted on. -/
def AllInside (query : Text) (findings : List Finding) : Prop :=
  ∀ finding ∈ findings, ∀ span ∈ finding.span, ∀ openings,
    IsInside finding.code ⟨query, span, finding.corrections, openings⟩

theorem suggestions_isOk {query : Text} {findings : List Finding}
    (inside : AllInside query findings) :
    ∃ suggested, suggestions query findings = .ok suggested := by
  rw [suggestions]
  generalize findings.countP (·.code == .unmatchedOpeningBracket) = openings
  have each : ∀ finding ∈ findings,
      ∃ fix, ofFinding? query openings finding = .ok fix ∧ True := by
    intro finding member
    rw [ofFinding?]
    cases located : finding.span with
    | none => exact ⟨none, rfl, trivial⟩
    | some span =>
        exact (fix?_isOk (inside finding member span located openings)).imp
          fun _ fixed => ⟨fixed, trivial⟩
  obtain ⟨fixes, ofAll, _⟩ := Outcome.exists_mapM_eq_ok each
  exact ⟨fresh [query] (fixes.filterMap id), by rw [ofAll]; rfl⟩

end Fix

theorem Quotation.isInside_of_mem_findings {query : Text} {finding : Finding}
    (member : finding ∈ findings query) {span : Span}
    (located : finding.span = some span) (corrections : List Text)
    (openings : Nat) :
    Fix.characterAt? ⟨query, span, corrections, openings⟩ = some '"' := by
  obtain ⟨quote, isOpen, rfl⟩ := exists_openQuote_of_mem_findings member
  cases located
  have isQuote := getElem?_of_openQuote? isOpen
  have inside : quote < query.length :=
    (List.getElem?_eq_some_iff.mp isQuote).1
  have offset : Text.offset query.length quote = quote := by
    rw [Text.offset_natCast, Nat.min_eq_left (Nat.le_of_lt inside)]
  simp only [Fix.characterAt?, Fix.Setting.offset, offset, isQuote]
  rw [if_neg (by omega)]

namespace Lexeme

theorem not_isBlank_of_connective {text : Text} {lexeme : Lexeme}
    (member : lexeme ∈ scan text)
    (joining : lexeme.form.connective?.isSome = true) :
    ∀ character ∈ lexeme.text, Text.isBlank character = false := by
  obtain ⟨_, _, starts⟩ := exists_startsWith_of_mem_scan member
  cases starts with
  | blank | opening | closing | phrase | quoted => cases joining
  | run isRun apart =>
      intro character inside
      rw [ofRunAlone_text] at inside
      have goesOn := isRun.not_endsRun inside
      simp_all [endsRun]

end Lexeme

namespace Token

theorem toLexeme_mem_scan_of_mem_pieces {text : Text} {token : Token}
    (member : token ∈ pieces text) : token.toLexeme ∈ Lexeme.scan text := by
  rw [← Lexeme.map_toLexeme_placed 0 (Lexeme.scan text)]
  exact List.mem_map_of_mem member

private theorem mem_slice_of_mem_text {text : Text} {token : Token}
    (member : token ∈ pieces text) {stop : Nat} (behind : token.stop ≤ stop)
    {character : Char} (inside : character ∈ token.text) :
    character ∈ Text.slice text token.position stop := by
  rw [← (isPiece_of_mem_pieces member).2.2, Text.slice_natCast] at inside
  rw [Text.slice_natCast]
  exact ((List.take_sublist_take_left behind).drop _).subset inside

end Token

private theorem Structure.isInside_of_mem_connectiveFindings {query : Text}
    {finding : Finding}
    (member : finding ∈
      connectiveFindings (Token.meaningful (Token.read query)))
    (code : finding.code = .consecutiveConnectives) {span : Span}
    (located : finding.span = some span) (corrections : List Text)
    (openings : Nat) :
    Text.words (Fix.Setting.marked ⟨query, span, corrections, openings⟩) ≠
      [] := by
  obtain ⟨first, second, neighbours, joining, isSpan⟩ :=
    (connectiveFault_of_mem member).exists_neighbours code
  rw [Token.meaningful_read] at neighbours
  have inOrder := ((Token.pairwise_pieces query).filter
    Token.isMeaningful).sublist neighbours.sublist
  have ordered : first.stop ≤ second.position := by simpa using inOrder
  have isPiece : first ∈ Token.pieces query :=
    List.mem_of_mem_filter (neighbours.subset List.mem_cons_self)
  have noBlank := Lexeme.not_isBlank_of_connective
    (Token.toLexeme_mem_scan_of_mem_pieces isPiece) joining
  obtain ⟨character, inside⟩ := List.exists_mem_of_ne_nil _
    (Token.isPiece_of_mem_pieces isPiece).2.1
  have stop : span.stop = second.stop := by
    rw [isSpan] at located
    cases located
    simp only [Span.stop]
    omega
  have start : span.position = first.position := by
    rw [isSpan] at located
    cases located
    rfl
  have behind : first.stop ≤ second.stop :=
    Nat.le_trans ordered (Nat.le_add_right _ _)
  apply Text.words_ne_nil _ (noBlank character inside)
  rw [Fix.Setting.marked, start, stop]
  exact Token.mem_slice_of_mem_text isPiece behind inside

/-- Everything that a validation finds can be acted on. -/
theorem Validator.allInside (validator : Validator) (query : Text) :
    Fix.AllInside query
      (validator.errors query ++ validator.warnings query) := by
  intro finding member span located openings
  cases code : finding.code with
  | unclosedQuote =>
      have found := mem_findingsOf_of_mem member (congrArg Code.origin code)
        (by simp [code]) (by decide)
      rw [Fix.IsInside, Quotation.isInside_of_mem_findings found located]
      rfl
  | consecutiveConnectives =>
      have found := mem_findingsOf_of_mem member (congrArg Code.origin code)
        (by simp [code]) (by decide)
      exact Structure.isInside_of_mem_connectiveFindings found code located _ _
  | _ => trivial

end CardQuery
