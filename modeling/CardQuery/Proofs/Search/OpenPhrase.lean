import CardQuery.Proofs.Search.Lexing
import CardQuery.Proofs.Search.Partition

/-!
# The phrase that is left open

The check of quotes walks over the characters of a query and knows no tokens,
and reading knows no open quotes but those of the phrase that it reads.  Both
pass over a lexeme in the same way: behind it no quote is open, unless it is an
unclosed phrase or a condition with one as its value, and then nothing is behind
it.  The quote that the check reports is therefore the one of the last token.
-/

namespace CardQuery

namespace PhraseRead

/-- A closed phrase is read up to its quote, whatever follows it. -/
theorem read_append_of_closed {inside : Text}
    (closed : (read inside).closed = true) (rest : Text) :
    read ((read inside).text ++ rest) = { read inside with rest } := by
  fun_induction read inside with
  | case1 => cases closed
  | case2 escaped later ih =>
      have isRead := ih closed
      simp [extend, read, isRead]
  | case3 => simp [read]
  | case4 first later notEscape noQuote ih =>
      have isRead := ih closed
      by_cases backslash : first = '\\'
      · cases later with
        | nil => cases closed
        | cons second later => exact (notEscape second later backslash rfl).elim
      · simp [extend, read_cons_of_plain noQuote backslash, isRead]

theorem rest_eq_nil_of_open {inside : Text}
    (unclosed : (read inside).closed = false) : (read inside).rest = [] := by
  fun_induction read inside with
  | case1 => rfl
  | case2 escaped later ih => exact ih unclosed
  | case3 => cases unclosed
  | case4 first later notEscape noQuote ih => exact ih unclosed

private theorem closed_read_text (inside : Text) :
    (read (read inside).text).closed = (read inside).closed := by
  cases closed : (read inside).closed with
  | true =>
      have again := read_append_of_closed closed []
      rw [List.append_nil] at again
      rw [again, closed]
  | false =>
      have whole := text_append_rest inside
      rw [rest_eq_nil_of_open closed, List.append_nil] at whole
      rw [whole, closed]

end PhraseRead

private theorem Quotation.openQuoteFrom_inside (position start : Nat)
    (inside : Text) :
    openQuoteFrom position (some start) inside =
      if (PhraseRead.read inside).closed then
        openQuoteFrom (position + (PhraseRead.read inside).text.length) none
          (PhraseRead.read inside).rest
      else some start := by
  fun_induction PhraseRead.read inside generalizing position with
  | case1 => rfl
  | case2 escaped later ih =>
      rw [openQuoteFrom, ih]
      simp [PhraseRead.extend, Nat.add_assoc, Nat.add_comm 2]
  | case3 later => cases later <;> simp [openQuoteFrom]
  | case4 first later notEscape noQuote ih =>
      by_cases backslash : first = '\\'
      · cases later with
        | nil => simp [backslash, openQuoteFrom, PhraseRead.read,
            PhraseRead.extend]
        | cons second later => exact (notEscape second later backslash rfl).elim
      · rw [openQuoteFrom_cons_of_plain noQuote backslash, ih]
        simp [PhraseRead.extend, Nat.add_assoc, Nat.add_comm]

private theorem Quotation.openQuoteFrom_phrase (position : Nat) (inside : Text)
    :
    openQuoteFrom position none ('"' :: inside) =
      if (PhraseRead.read inside).closed then
        openQuoteFrom (position + ('"' :: (PhraseRead.read inside).text).length)
          none (PhraseRead.read inside).rest
      else some position := by
  rw [openQuoteFrom, if_pos rfl, openQuoteFrom_inside, List.length_cons,
    Nat.add_assoc, Nat.add_comm 1]

private theorem Quotation.isBalanced_of_closed {inside : Text}
    (closed : (PhraseRead.read inside).closed = true) :
    IsBalanced ('"' :: (PhraseRead.read inside).text) := by
  intro position rest
  rw [List.cons_append, openQuoteFrom_phrase,
    PhraseRead.read_append_of_closed closed, if_pos closed]

/-- Where in a lexeme the quote stands that opens an unclosed phrase: in front
of a phrase, and behind the head of a condition. -/
def Lexeme.openQuote? (lexeme : Lexeme) : Option Nat :=
  match lexeme.form with
  | .phrase _ closed => if closed then none else some 0
  | .condition asked =>
      let start := asked.toHead.text.length
      if asked.quoted &&
          !(PhraseRead.read (lexeme.text.drop (start + 1))).closed then
        some start
      else none
  | _ => none

/-- The position of the quote that opens an unclosed phrase in a token. -/
def Token.openQuote? (token : Token) : Option Nat :=
  token.toLexeme.openQuote?.map (token.position + ·)

/-- The token is a phrase that is never closed or a condition with one as its
value, and the quote that opens the phrase stands at a position. -/
inductive Token.LeavesOpen : Token → (quote : Nat) → Prop where
  | phrase (value text : Text) (position : Nat) :
      LeavesOpen ⟨⟨.phrase value false, text⟩, position⟩ position
  | condition {asked : Condition} {inside : Text} (position : Nat) :
      asked.quoted = true → (PhraseRead.read inside).closed = false →
      LeavesOpen
        ⟨⟨.condition asked, asked.toHead.text ++ '"' :: inside⟩, position⟩
        (position + asked.toHead.text.length)

namespace Lexeme

theorem openQuote?_ofRunAlone (run : Text) :
    (ofRunAlone run).openQuote? = none := by
  unfold ofRunAlone ofRun
  cases Connective.ofWord? run with
  | some joining => rfl
  | none =>
      cases Head.read? run with
      | none => rfl
      | some found =>
          obtain ⟨head, value⟩ := found
          cases value <;> rfl

theorem openQuote?_quoted (head : Head) (inside : Text) :
    openQuote? ⟨.condition { head with
        value := (PhraseRead.read inside).value, quoted := true },
      head.text ++ '"' :: (PhraseRead.read inside).text⟩ =
      if (PhraseRead.read inside).closed then none
      else some head.text.length := by
  have behind : (head.text ++ '"' :: (PhraseRead.read inside).text).drop
      (head.text.length + 1) = (PhraseRead.read inside).text := by
    simp [List.drop_append]
  simp only [openQuote?, behind, PhraseRead.closed_read_text, Bool.true_and]
  cases (PhraseRead.read inside).closed <;> rfl

namespace StartsWith

variable {text rest : Text} {lexeme : Lexeme}

theorem rest_eq_nil_of_openQuote? (starts : StartsWith text lexeme rest)
    {offset : Nat} (isOpen : lexeme.openQuote? = some offset) : rest = [] := by
  cases starts with
  | blank | opening | closing => cases isOpen
  | phrase inside =>
      cases closed : (PhraseRead.read inside).closed with
      | true => simp [openQuote?, closed] at isOpen
      | false => exact PhraseRead.rest_eq_nil_of_open closed
  | run => simp [openQuote?_ofRunAlone] at isOpen
  | quoted named inside =>
      cases closed : (PhraseRead.read inside).closed with
      | true => simp [openQuote?_quoted, closed] at isOpen
      | false => exact PhraseRead.rest_eq_nil_of_open closed

private theorem leavesOpen (starts : StartsWith text lexeme rest) {offset : Nat}
    (isOpen : lexeme.openQuote? = some offset) (position : Nat) :
    lexeme.text[offset]? = some '"' ∧
      Token.LeavesOpen ⟨lexeme, position⟩ (position + offset) := by
  cases starts with
  | blank | opening | closing => cases isOpen
  | phrase inside =>
      cases closed : (PhraseRead.read inside).closed with
      | true => simp [openQuote?, closed] at isOpen
      | false =>
          simp only [openQuote?, closed] at isOpen
          cases isOpen
          exact ⟨rfl, .phrase _ _ position⟩
  | run => simp [openQuote?_ofRunAlone] at isOpen
  | @quoted head named inside =>
      cases closed : (PhraseRead.read inside).closed with
      | true => simp [openQuote?_quoted, closed] at isOpen
      | false =>
          simp only [openQuote?_quoted, closed] at isOpen
          cases isOpen
          refine ⟨by simp, ?_⟩
          exact @Token.LeavesOpen.condition { head with
            value := (PhraseRead.read inside).value, quoted := true } _ position
              rfl (by rw [PhraseRead.closed_read_text, closed])

theorem isBalanced (starts : StartsWith text lexeme rest)
    (closed : lexeme.openQuote? = none) :
    Quotation.IsBalanced lexeme.text := by
  cases starts with
  | blank nonempty blank stop =>
      apply Quotation.isBalanced_of_noQuote
      intro member
      exact absurd (blank '"' member) (by decide)
  | opening | closing => exact Quotation.isBalanced_singleton (by decide)
  | phrase inside =>
      apply Quotation.isBalanced_of_closed
      simpa [openQuote?] using closed
  | run isRun apart =>
      rw [ofRunAlone_text]
      exact isBalanced_of_inside fun character => isRun.not_endsRun
  | quoted named inside =>
      apply (Head.isBalanced_text named).append
      apply Quotation.isBalanced_of_closed
      simpa [openQuote?_quoted] using closed

/-- The check either passes over a lexeme or stops at the quote that the lexeme
leaves open. -/
theorem openQuoteFrom_eq (starts : StartsWith text lexeme rest)
    (position : Nat) :
    Quotation.openQuoteFrom position none text =
      match lexeme.openQuote? with
      | some offset => some (position + offset)
      | none =>
          Quotation.openQuoteFrom (position + lexeme.text.length) none rest := by
  cases isOpen : lexeme.openQuote? with
  | none =>
      rw [starts.split]
      exact starts.isBalanced isOpen position rest
  | some offset =>
      cases starts with
      | blank | opening | closing => cases isOpen
      | phrase inside =>
          rw [Quotation.openQuoteFrom_phrase]
          cases closed : (PhraseRead.read inside).closed <;>
            simp_all [openQuote?]
      | run => simp [openQuote?_ofRunAlone] at isOpen
      | @quoted head named inside =>
          rw [Head.isBalanced_text named, Quotation.openQuoteFrom_phrase]
          cases closed : (PhraseRead.read inside).closed <;>
            simp_all [openQuote?_quoted]

end StartsWith

theorem exists_startsWith_of_mem_scan {text : Text} {lexeme : Lexeme}
    (member : lexeme ∈ scan text) :
    ∃ here rest, StartsWith here lexeme rest := by
  fun_induction scan text with
  | case1 => cases member
  | case2 first rest ih =>
      rcases List.mem_cons.mp member with rfl | later
      · exact ⟨_, _, startsWith_next first rest⟩
      · exact ih later

private theorem openQuoteFrom_eq_last (position : Nat) (text : Text) :
    Quotation.openQuoteFrom position none text =
      (placed position (scan text)).getLast?.bind Token.openQuote? := by
  fun_induction scan text generalizing position with
  | case1 => rfl
  | case2 first rest ih =>
      have starts := startsWith_next first rest
      rw [starts.openQuoteFrom_eq]
      cases isOpen : (next first rest).1.openQuote? with
      | some offset =>
          simp [starts.rest_eq_nil_of_openQuote? isOpen, scan, placed,
            Token.openQuote?, isOpen]
      | none =>
          rw [ih, placed]
          cases later : scan (next first rest).2 with
          | nil => simp [placed, Token.openQuote?, isOpen]
          | cons second more => simp [placed, List.getLast?_cons_cons]

end Lexeme

namespace Token

theorem LeavesOpen.openQuote?_eq {token : Token} {quote : Nat}
    (leaves : token.LeavesOpen quote) : token.openQuote? = some quote := by
  cases leaves with
  | phrase value text position => simp [openQuote?, Lexeme.openQuote?]
  | @condition asked inside position quoted unclosed =>
      have behind : (asked.toHead.text ++ '"' :: inside).drop
          (asked.toHead.text.length + 1) = inside := by
        simp [List.drop_append]
      simp [openQuote?, Lexeme.openQuote?, behind, quoted, unclosed]

theorem leavesOpen_of_openQuote? {text : Text} {token : Token}
    (member : token ∈ pieces text) {quote : Nat}
    (isOpen : token.openQuote? = some quote) :
    text[quote]? = some '"' ∧ token.LeavesOpen quote := by
  obtain ⟨left, right, split⟩ := List.append_of_mem member
  obtain ⟨before, after, scanned, whole, position, _⟩ :=
    pieces_eq_append_cons split
  have inScan : token.toLexeme ∈ Lexeme.scan text := by simp [scanned]
  obtain ⟨_, _, starts⟩ := Lexeme.exists_startsWith_of_mem_scan inScan
  obtain ⟨offset, isOffset, rfl⟩ := Option.map_eq_some_iff.mp isOpen
  obtain ⟨isQuote, leaves⟩ := starts.leavesOpen isOffset token.position
  refine ⟨?_, leaves⟩
  have inside : offset < token.text.length :=
    (List.getElem?_eq_some_iff.mp isQuote).1
  rw [whole, position, List.getElem?_append_right (Nat.le_add_right _ _),
    Nat.add_sub_cancel_left, List.getElem?_append_left inside, isQuote]

/-- The tokens that are not the end of the query are its pieces. -/
theorem filter_read_eq_pieces (text : Text) :
    (read text).filter (·.form != .finish) = pieces text := by
  rw [read_eq, List.filter_append, List.filter_eq_self.mpr]
  · simp
  · intro token member
    simpa using (isPiece_of_mem_pieces member).1

end Token

namespace Quotation

theorem openQuote?_eq_last (text : Text) :
    openQuote? text = (Token.pieces text).getLast?.bind Token.openQuote? :=
  Lexeme.openQuoteFrom_eq_last 0 text

theorem getElem?_of_openQuote? {text : Text} {quote : Nat}
    (isOpen : openQuote? text = some quote) : text[quote]? = some '"' := by
  rw [openQuote?_eq_last] at isOpen
  obtain ⟨last, isLast, isQuote⟩ := Option.bind_eq_some_iff.mp isOpen
  exact (Token.leavesOpen_of_openQuote? (List.mem_of_getLast? isLast)
    isQuote).1

private theorem findings_eq_of_openQuote? {text : Text} {quote : Nat}
    (isOpen : openQuote? text = some quote) :
    findings text =
      [⟨.unclosedQuote, "Unclosed quote \" (missing closing \")",
        some ⟨quote, text.length - quote⟩, []⟩] := by
  rw [findings, isOpen]

theorem findings_eq_nil_iff {text : Text} :
    findings text = [] ↔ openQuote? text = none := by
  cases isOpen : openQuote? text with
  | none => simp [findings, isOpen]
  | some quote => simp [findings_eq_of_openQuote? isOpen]

theorem exists_openQuote_of_mem_findings {text : Text} {finding : Finding}
    (member : finding ∈ findings text) :
    ∃ quote, openQuote? text = some quote ∧
      finding = ⟨.unclosedQuote, "Unclosed quote \" (missing closing \")",
        some ⟨quote, text.length - quote⟩, []⟩ := by
  cases isOpen : openQuote? text with
  | none =>
      rw [findings_eq_nil_iff.mpr isOpen] at member
      cases member
  | some quote =>
      rw [findings_eq_of_openQuote? isOpen, List.mem_singleton] at member
      exact ⟨quote, rfl, member⟩

/-- The check of quotes agrees with reading: it finds a fault exactly if the
last token before the end of the query leaves a phrase open, and then the one
fault reaches from the quote of that phrase to the end of the query. -/
theorem findings_agree_with_read (text : Text) :
    (findings text ≠ [] ↔
      ∃ last ∈ ((Token.read text).filter (·.form != .finish)).getLast?,
        ∃ quote, last.LeavesOpen quote) ∧
    ∀ last ∈ ((Token.read text).filter (·.form != .finish)).getLast?,
      ∀ quote, last.LeavesOpen quote →
        text[quote]? = some '"' ∧
        findings text =
          [⟨.unclosedQuote, "Unclosed quote \" (missing closing \")",
            some ⟨quote, text.length - quote⟩, []⟩] := by
  rw [Token.filter_read_eq_pieces, Ne, findings_eq_nil_iff, openQuote?_eq_last]
  constructor
  · constructor
    · intro found
      obtain ⟨quote, isOpen⟩ := Option.ne_none_iff_exists'.mp found
      obtain ⟨last, isLast, isQuote⟩ := Option.bind_eq_some_iff.mp isOpen
      exact ⟨last, isLast, quote, (Token.leavesOpen_of_openQuote?
        (List.mem_of_getLast? isLast) isQuote).2⟩
    · rintro ⟨last, isLast, quote, leaves⟩
      rw [isLast, Option.bind_some, leaves.openQuote?_eq]
      simp
  · intro last isLast quote leaves
    have isQuote := leaves.openQuote?_eq
    refine ⟨(Token.leavesOpen_of_openQuote? (List.mem_of_getLast? isLast)
      isQuote).1, findings_eq_of_openQuote? ?_⟩
    rw [openQuote?_eq_last, isLast, Option.bind_some, isQuote]

end Quotation

end CardQuery
