import CardQuery.Proofs.Search.Cutting

/-!
# What counts of a text

Blanks stand between the lexemes of a text and say nothing themselves.  The
other lexemes count, and a text that leaves no quote open has the same ones, at
the same positions, in front of everything that is separated from it.  This is
the second fact on which edits of a query rest, and it leaves `ReadsAs` with
nothing else to ask for.
-/

namespace CardQuery

namespace Token

theorem meaningful_append (left right : List Token) :
    meaningful (left ++ right) = meaningful left ++ meaningful right :=
  List.filter_append left right

theorem map_toLexeme_meaningful (tokens : List Token) :
    (meaningful tokens).map toLexeme =
      (tokens.map toLexeme).filter (·.form.isMeaningful) := by
  rw [List.filter_map]
  rfl

end Token

namespace Lexeme

/-- The lexemes of a text that count. -/
def counted (text : Text) : List Lexeme :=
  (scan text).filter (·.form.isMeaningful)

@[simp] theorem counted_nil : counted [] = [] := by
  simp [counted, scan]

theorem map_form_counted (text : Text) :
    (counted text).map (·.form) = forms text := by
  rw [counted, forms, List.filter_map]
  rfl

theorem StartsWith.counted_eq {text rest : Text} {lexeme : Lexeme}
    (starts : StartsWith text lexeme rest) :
    counted text = [lexeme].filter (·.form.isMeaningful) ++ counted rest := by
  rw [counted, starts.scan_eq, ← List.singleton_append, List.filter_append,
    counted]

theorem StartsWith.forms_eq {text rest : Text} {lexeme : Lexeme}
    (starts : StartsWith text lexeme rest) :
    forms text = [lexeme.form].filter Form.isMeaningful ++ forms rest := by
  rw [forms, starts.scan_eq, List.map_cons, ← List.singleton_append,
    List.filter_append, forms]

/-- The tokens that count of a text that starts at a position. -/
def countedFrom (start : Nat) (text : Text) : List Token :=
  Token.meaningful (placed start (scan text))

@[simp] theorem countedFrom_nil (start : Nat) : countedFrom start [] = [] := by
  simp [countedFrom, scan, placed, Token.meaningful]

theorem map_toLexeme_countedFrom (start : Nat) (text : Text) :
    (countedFrom start text).map Token.toLexeme = counted text := by
  rw [countedFrom, Token.map_toLexeme_meaningful, map_toLexeme_placed, counted]

private theorem StartsWith.countedFrom_eq {text rest : Text} {lexeme : Lexeme}
    (starts : StartsWith text lexeme rest) (start : Nat) :
    countedFrom start text = Token.meaningful [⟨lexeme, start⟩] ++
      countedFrom (start + lexeme.text.length) rest := by
  rw [countedFrom, starts.scan_eq, placed, ← List.singleton_append,
    Token.meaningful_append, countedFrom]

private theorem countedFrom_dropBlanks (start : Nat) (text : Text) :
    countedFrom (start + (text.takeWhile Text.isBlank).length)
        (text.dropWhile Text.isBlank) =
      countedFrom start text := by
  cases text with
  | nil => rfl
  | cons first rest =>
      cases blank : Text.isBlank first with
      | true =>
          simp [countedFrom, scan, next, blank, placed, Token.meaningful,
            Token.isMeaningful, Form.isMeaningful]
      | false => simp [blank]

theorem countedFrom_blanks {blanks : Text}
    (blank : ∀ character ∈ blanks, Text.isBlank character = true)
    (start : Nat) (rest : Text) :
    countedFrom start (blanks ++ rest) =
      countedFrom (start + blanks.length) rest := by
  rw [← countedFrom_dropBlanks start (blanks ++ rest),
    List.dropWhile_append_of_pos blank, List.takeWhile_append_of_pos blank,
    List.length_append, ← Nat.add_assoc, countedFrom_dropBlanks]

theorem counted_dropBlanks (text : Text) :
    counted (text.dropWhile Text.isBlank) = counted text := by
  rw [← map_toLexeme_countedFrom, countedFrom_dropBlanks 0,
    map_toLexeme_countedFrom]

theorem counted_blanks {blanks : Text}
    (blank : ∀ character ∈ blanks, Text.isBlank character = true)
    (rest : Text) : counted (blanks ++ rest) = counted rest := by
  rw [← map_toLexeme_countedFrom 0, countedFrom_blanks blank,
    map_toLexeme_countedFrom]

theorem counted_blank (rest : Text) : counted (' ' :: rest) = counted rest :=
  @counted_blanks [' '] (List.forall_mem_singleton.mpr (by decide)) rest

/-- Lexemes that something follows leave no quote open, and they are read from
their own text. -/
theorem counted_joined_of_followed {text : Text} {before later : List Lexeme}
    (scanned : scan text = before ++ later) (followed : later ≠ []) :
    Quotation.IsBalanced (joined before) ∧
      counted (joined before) = before.filter (·.form.isMeaningful) := by
  have closed := fun lexeme (member : lexeme ∈ before) =>
    openQuote?_eq_none_of_followed scanned followed member
  refine ⟨isBalanced_joined fun lexeme member => ?_, ?_⟩
  · exact isBalanced_of_mem_scan (scanned ▸ List.mem_append_left _ member)
      (closed lexeme member)
  · rw [counted, scan_joined scanned closed]

theorem scan_joined_behind {text : Text} {before after : List Lexeme}
    {lexeme : Lexeme} (scanned : scan text = before ++ lexeme :: after) :
    scan (joined after) = after :=
  (startsWith_of_scan (scan_eq_append scanned)).2

theorem counted_joined_behind {text : Text} {before after : List Lexeme}
    {lexeme : Lexeme} (scanned : scan text = before ++ lexeme :: after) :
    counted (joined after) = after.filter (·.form.isMeaningful) := by
  rw [counted, scan_joined_behind scanned]

end Lexeme

namespace Token

theorem meaningful_read_eq (query : Text) :
    meaningful (read query) = Lexeme.countedFrom 0 query :=
  meaningful_read query

/-- The tokens of a query that count are its lexemes that count. -/
theorem map_toLexeme_meaningful_read (query : Text) :
    (meaningful (read query)).map toLexeme = Lexeme.counted query := by
  rw [meaningful_read, map_toLexeme_meaningful, pieces,
    Lexeme.map_toLexeme_placed, Lexeme.counted]

/-- A token that counts stands between the tokens and the lexemes in front of it
and those behind it. -/
theorem exists_lexemes_of_mem {query : Text} {token : Token}
    (member : token ∈ meaningful (read query)) :
    ∃ before after front back,
      meaningful (read query) = before ++ token :: after ∧
      Lexeme.scan query = front ++ token.toLexeme :: back ∧
      token.position = (Lexeme.joined front).length ∧
      before.map toLexeme = front.filter (·.form.isMeaningful) ∧
      after.map toLexeme = back.filter (·.form.isMeaningful) := by
  rw [meaningful_read] at member ⊢
  obtain ⟨isPiece, counts⟩ := List.mem_filter.mp member
  obtain ⟨left, right, split⟩ := List.append_of_mem isPiece
  obtain ⟨front, back, scanned, position, rfl, rfl⟩ :=
    Lexeme.placed_eq_append_cons split
  refine ⟨meaningful (Lexeme.placed 0 front),
    meaningful (Lexeme.placed token.stop back), front, back, ?_, scanned,
    by simpa using position, ?_, ?_⟩
  · rw [split, meaningful, List.filter_append, List.filter_cons_of_pos counts]
    rfl
  · rw [map_toLexeme_meaningful, Lexeme.map_toLexeme_placed]
  · rw [map_toLexeme_meaningful, Lexeme.map_toLexeme_placed]

end Token

namespace Quotation

/-- No quote is open behind a text, whatever follows it, if none is open at its
end. -/
theorem isBalanced_iff {text : Text} :
    IsBalanced text ↔ openQuote? text = none := by
  constructor
  · exact fun balanced => findings_eq_nil_iff.mp balanced.findings_eq_nil
  · intro closed
    rw [← Lexeme.joined_scan text]
    exact Lexeme.isBalanced_joined fun lexeme member =>
      Lexeme.isBalanced_of_mem_scan member
        (Lexeme.openQuote?_eq_none_of_mem_scan closed member)

private theorem openQuoteFrom_of_noQuote {text : Text} (noQuote : '"' ∉ text)
    (position start : Nat) :
    openQuoteFrom position (some start) text = some start := by
  generalize isOpened : some start = opened
  fun_induction openQuoteFrom position opened text with
  | case1 | case3 => rfl
  | case2 => cases isOpened
  | case4 position other escaped rest ih =>
      exact ih (by simp_all) isOpened
  | case5 position other first rest noEnd noEscape ih =>
      rw [List.mem_cons, not_or] at noQuote
      rw [if_neg (Ne.symm noQuote.1)] at ih ⊢
      exact ih noQuote.2 isOpened

private theorem openQuoteFrom_append_of_open {text after : Text}
    {opened : Option Nat}
    {position quote : Nat}
    (isOpen : openQuoteFrom position opened text = some quote)
    (noQuote : '"' ∉ after) :
    openQuoteFrom position opened (text ++ after) = some quote := by
  fun_induction openQuoteFrom position opened text with
  | case1 position opened =>
      rw [isOpen]
      exact openQuoteFrom_of_noQuote noQuote position quote
  | case2 position first rest ih =>
      rw [List.cons_append, openQuoteFrom]
      exact ih isOpen
  | case3 position start =>
      cases after with
      | nil => exact isOpen
      | cons first after =>
          rw [← isOpen]
          exact openQuoteFrom_of_noQuote
            (fun member => noQuote (List.mem_cons_of_mem first member)) _ start
  | case4 position start escaped rest ih => exact ih isOpen
  | case5 position start first rest noEnd noEscape ih =>
      rw [List.cons_append, openQuoteFrom_cons (ne_backslash noEnd noEscape)]
      exact ih isOpen

theorem IsBalanced.of_append {text after : Text}
    (balanced : IsBalanced (text ++ after)) (noQuote : '"' ∉ after) :
    IsBalanced text := by
  rw [isBalanced_iff] at balanced ⊢
  by_contra unbalanced
  obtain ⟨quote, isOpen⟩ := Option.ne_none_iff_exists'.mp unbalanced
  rw [openQuote?, openQuoteFrom_append_of_open isOpen noQuote] at balanced
  cases balanced

theorem IsBalanced.dropBlanks {text : Text} (balanced : IsBalanced text) :
    IsBalanced (text.dropWhile Text.isBlank) := by
  cases text with
  | nil => exact balanced
  | cons first rest =>
      cases blank : Text.isBlank first with
      | false => simpa [blank] using balanced
      | true =>
          have scanned : Lexeme.scan (first :: rest) =
              ⟨.blank, first :: rest.takeWhile Text.isBlank⟩ ::
                Lexeme.scan (rest.dropWhile Text.isBlank) := by
            rw [Lexeme.scan]
            simp [Lexeme.next, blank]
          have closed := isBalanced_iff.mp balanced
          rw [List.dropWhile_cons_of_pos blank, ← Lexeme.joined_scan
            (rest.dropWhile Text.isBlank)]
          exact Lexeme.isBalanced_joined fun lexeme member =>
            Lexeme.isBalanced_of_mem_scan member
              (Lexeme.openQuote?_eq_none_of_mem_scan closed
                (scanned ▸ List.mem_cons_of_mem _ member))

end Quotation

namespace Lexeme

/-- A text with no quote open behind it has the same tokens in front of
everything that it is separated from, apart from blanks, and what is behind it
has the tokens that it has on its own. -/
theorem countedFrom_append {text after : Text}
    (balanced : Quotation.IsBalanced text) (separates : Separates after)
    (start : Nat) :
    countedFrom start (text ++ after) =
      countedFrom start text ++ countedFrom (start + text.length) after := by
  have closed := Quotation.isBalanced_iff.mp balanced
  clear balanced
  rw [Quotation.openQuote?] at closed
  generalize 0 = position at closed
  fun_induction scan text generalizing position start with
  | case1 => simp
  | case2 first rest ih =>
      have starts := startsWith_next first rest
      have isClosed := openQuote?_eq_none_of_mem_scan closed
        (by rw [scan]; exact List.mem_cons_self)
      have later := ih (start + (next first rest).1.text.length) _ (by
        have passed := starts.openQuoteFrom_eq position
        rwa [isClosed, closed, eq_comm] at passed)
      have whole := congrArg (· ++ after) starts.split
      rw [List.append_assoc] at whole
      have length := congrArg List.length starts.split
      rw [List.length_append] at length
      rw [starts.countedFrom_eq, List.append_assoc, length, ← Nat.add_assoc,
        ← later]
      by_cases blank : (next first rest).1.form = .blank
      · have none : Token.meaningful [⟨(next first rest).1, start⟩] = [] := by
          simp [Token.meaningful, Token.isMeaningful, blank, Form.isMeaningful]
        rw [whole, countedFrom_blanks (starts.of_blank blank).1, none,
          List.nil_append]
      · have goesOn := starts.replace isClosed (replaces_append separates)
          fun isBlank => absurd isBlank blank
        rw [whole, goesOn.countedFrom_eq]

theorem counted_append {text after : Text}
    (balanced : Quotation.IsBalanced text) (separates : Separates after) :
    counted (text ++ after) = counted text ++ counted after := by
  rw [← map_toLexeme_countedFrom 0, countedFrom_append balanced separates,
    List.map_append, map_toLexeme_countedFrom, map_toLexeme_countedFrom]

/-- A text says what it says wherever no quote is open behind it. -/
theorem readsAs_iff {text : Text} {row : List Form} :
    ReadsAs text row ↔ Quotation.IsBalanced text ∧ forms text = row := by
  constructor
  · exact fun reads => ⟨reads.balanced, reads.forms_eq⟩
  · rintro ⟨balanced, rfl⟩
    refine ⟨fun after separates => ?_, balanced⟩
    simp only [← map_form_counted]
    rw [counted_append balanced separates, List.map_append]

/-- Lexemes next to each other say what they say in the text that they are
from. -/
theorem readsAs_joined {text : Text} {lexemes after : List Lexeme}
    (scanned : scan text = lexemes ++ after)
    (closed : ∀ lexeme ∈ lexemes, lexeme.openQuote? = none) :
    ReadsAs (joined lexemes)
      ((lexemes.map (·.form)).filter Form.isMeaningful) := by
  rw [readsAs_iff, forms, scan_joined scanned closed]
  refine ⟨isBalanced_joined fun lexeme member => ?_, rfl⟩
  have inScan : lexeme ∈ scan text :=
    scanned ▸ List.mem_append_left after member
  exact isBalanced_of_mem_scan inScan (closed lexeme member)

end Lexeme

end CardQuery
