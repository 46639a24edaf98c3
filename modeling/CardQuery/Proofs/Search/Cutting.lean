import CardQuery.Proofs.Search.Composition
import CardQuery.Proofs.Search.OpenPhrase

/-!
# Parts of a text on their own

What a lexeme is depends on the text behind it only as far as that text may
continue the lexeme.  A lexeme therefore stays what it is when the text behind
it is cut off in front of a later lexeme, and when something that cannot
continue a run is put there.

From this follows the first of the facts on which edits of a query rest: lexemes
next to each other in a text are read from their own text alone.
-/

namespace CardQuery

private theorem PhraseRead.text_of_closed {inside : Text}
    (closed : (read inside).closed = true) :
    ∃ written, (read inside).text = written ++ ['"'] := by
  fun_induction read inside with
  | case1 => cases closed
  | case2 escaped later ih =>
      obtain ⟨written, split⟩ := ih closed
      exact ⟨'\\' :: escaped :: written, by simp [extend, split]⟩
  | case3 => exact ⟨[], rfl⟩
  | case4 first later notEscape noQuote ih =>
      obtain ⟨written, split⟩ := ih closed
      exact ⟨first :: written, by simp [extend, split]⟩

namespace Lexeme

theorem stops_cons_iff {first : Char} {rest : Text} :
    Stops (first :: rest) ↔
      endsRun first = true ∨ startsSymbol (first :: rest) = true := by
  rw [Stops, spanRun, ← Bool.or_eq_true]
  split <;> simp_all

/-- Another text may stand in the place of the text behind a lexeme: it goes on
in the same way or starts with an end of a run, and a run ends in front of it
as well. -/
structure Replaces (rest other : Text) : Prop where
  heads : ∀ next ∈ other.head?,
    next ∈ rest.head? ∨ endsRun next = true ∧ next ≠ '"'
  stops : Stops rest → Stops other

theorem replaces_append {rest after : Text} (separates : Separates after) :
    Replaces rest (rest ++ after) := by
  cases rest with
  | nil =>
      exact ⟨fun next isNext => Or.inr (separates next isNext),
        fun _ => stops_of_head fun next isNext => (separates next isNext).1⟩
  | cons first rest =>
      refine ⟨fun next isNext => Or.inl isNext, ?_⟩
      rw [List.cons_append, stops_cons_iff, stops_cons_iff]
      refine Or.imp_right fun symbol => ?_
      obtain ⟨part, later, isPart, split⟩ := startsSymbol_iff.mp symbol
      rw [startsSymbol_iff]
      exact ⟨part, later ++ after, isPart, by rw [← List.cons_append, split]; rfl⟩

theorem replaces_nil (rest : Text) : Replaces rest [] where
  heads := by simp
  stops := fun _ => rfl

private theorem Replaces.startsSymbol {rest other text : Text}
    (replaces : Replaces rest other) (nonempty : text ≠ [])
    (symbol : startsSymbol (text ++ other) = true) :
    Lexeme.startsSymbol (text ++ rest) = true := by
  obtain ⟨part, later, isPart, split⟩ := startsSymbol_iff.mp symbol
  rw [startsSymbol_iff]
  cases text with
  | nil => contradiction
  | cons first text =>
      cases text with
      | nil =>
          simp only [List.cons_append, List.nil_append, List.cons.injEq] at split
          have isNext : part ∈ other.head? := by simp [split.2]
          rcases replaces.heads part isNext with same | ⟨ends, _⟩
          · obtain ⟨more, isMore⟩ := List.head?_eq_some_iff.mp same
            exact ⟨part, more, isPart, by simp [split.1, isMore]⟩
          · rw [endsRun_of_isSymbolPart isPart] at ends
            contradiction
      | cons second text =>
          simp only [List.cons_append, List.cons.injEq] at split
          exact ⟨part, text ++ rest, isPart, by simp [split]⟩

private theorem spanRun_replace {run rest other : Text}
    (ends : spanRun (run ++ rest) = (run, rest))
    (replaces : Replaces rest other) :
    spanRun (run ++ other) = (run, other) := by
  induction run with
  | nil =>
      have stops : Stops other := replaces.stops (congrArg Prod.fst ends)
      have whole := spanRun_append other
      rw [stops, List.nil_append] at whole
      exact Prod.ext stops whole
  | cons first run ih =>
      have noSymbol : startsSymbol (first :: run ++ other) = true →
          startsSymbol (first :: run ++ rest) = true :=
        replaces.startsSymbol (by simp)
      rw [List.cons_append] at noSymbol
      rw [List.cons_append, spanRun] at ends ⊢
      split at ends
      next => cases congrArg Prod.fst ends
      next goes =>
        simp only [Prod.mk.injEq, List.cons.injEq, true_and] at ends
        rw [ih (Prod.ext ends.1 ends.2), if_neg]
        simp_all

private theorem IsRun.replace {run rest other : Text} (isRun : IsRun run rest)
    (replaces : Replaces rest other) : IsRun run other where
  nonempty := isRun.nonempty
  ends := by
    have ends := isRun.ends
    by_cases symbol : startsSymbol (run ++ rest) = true
    · obtain ⟨part, isPart, rfl⟩ := isRun.eq_symbol symbol
      have again : startsSymbol ([part, part] ++ other) = true :=
        startsSymbol_iff.mpr ⟨part, other, isPart, rfl⟩
      rw [readRun, if_pos again]
      rfl
    · have noSymbol : ¬ startsSymbol (run ++ other) = true := fun other =>
        symbol (replaces.startsSymbol isRun.nonempty other)
      rw [readRun, if_neg symbol] at ends
      rw [readRun, if_neg noSymbol]
      exact spanRun_replace ends replaces

/-- A lexeme that leaves no quote open is read in front of another text as well
if its blanks or its run end there. -/
theorem StartsWith.exchange {text rest other : Text} {lexeme : Lexeme}
    (starts : StartsWith text lexeme rest) (closed : lexeme.openQuote? = none)
    (noBlank : lexeme.form = .blank →
      ∀ next ∈ other.head?, Text.isBlank next = false)
    (stays : ∀ run, IsRun run rest →
      (∀ head, Head.read? run = some (head, []) → '"' ∉ rest.head?) →
      IsRun run other ∧
        ∀ head, Head.read? run = some (head, []) → '"' ∉ other.head?) :
    StartsWith (lexeme.text ++ other) lexeme other := by
  cases starts with
  | blank nonempty blank => exact .blank nonempty blank (noBlank rfl)
  | opening => exact .opening other
  | closing => exact .closing other
  | phrase inside =>
      have isClosed : (PhraseRead.read inside).closed = true := by
        simpa [openQuote?] using closed
      have rule := StartsWith.phrase ((PhraseRead.read inside).text ++ other)
      rwa [PhraseRead.read_append_of_closed isClosed] at rule
  | run isRun apart =>
      rw [ofRunAlone_text]
      obtain ⟨isRun, apart⟩ := stays _ isRun apart
      exact .run isRun apart
  | quoted named inside =>
      have isClosed : (PhraseRead.read inside).closed = true := by
        simpa [openQuote?_quoted] using closed
      have rule := StartsWith.quoted named
        ((PhraseRead.read inside).text ++ other)
      rw [PhraseRead.read_append_of_closed isClosed] at rule
      simpa using rule

theorem StartsWith.replace {text rest other : Text} {lexeme : Lexeme}
    (starts : StartsWith text lexeme rest) (closed : lexeme.openQuote? = none)
    (replaces : Replaces rest other)
    (noBlank : lexeme.form = .blank →
      ∀ next ∈ other.head?, Text.isBlank next = false) :
    StartsWith (lexeme.text ++ other) lexeme other := by
  refine starts.exchange closed noBlank fun run isRun apart => ?_
  refine ⟨isRun.replace replaces, fun head isHead quote => ?_⟩
  rcases replaces.heads '"' quote with same | ⟨_, noQuote⟩
  · exact apart head isHead same
  · exact noQuote rfl

theorem scan_eq_append {text : Text} {before after : List Lexeme}
    (scanned : scan text = before ++ after) : scan (joined after) = after := by
  induction before generalizing text with
  | nil =>
      rw [List.nil_append] at scanned
      rw [← scanned, joined_scan]
  | cons lexeme before ih =>
      cases text with
      | nil => simp [scan] at scanned
      | cons first rest =>
          rw [scan, List.cons_append, List.cons.injEq] at scanned
          exact ih scanned.2

/-- The first of the lexemes of a text that are not none. -/
theorem startsWith_of_scan {text : Text} {lexeme : Lexeme}
    {later : List Lexeme} (scanned : scan text = lexeme :: later) :
    StartsWith text lexeme (joined later) ∧ scan (joined later) = later := by
  cases text with
  | nil => simp [scan] at scanned
  | cons first rest =>
      have starts := startsWith_next first rest
      rw [scan, List.cons.injEq] at scanned
      obtain ⟨rfl, rfl⟩ := scanned
      rw [joined_scan]
      exact ⟨starts, rfl⟩

private theorem StartsWith.stops {text rest : Text} {lexeme : Lexeme}
    (starts : StartsWith text lexeme rest) (stops : Stops text)
    (other : Text) : Stops (lexeme.text ++ other) := by
  cases starts with
  | @blank blanks rest nonempty blank stop =>
      cases blanks with
      | nil => contradiction
      | cons first blanks =>
          have ends : endsRun first = true := by
            simp [endsRun, blank first List.mem_cons_self]
          exact stops_cons_iff.mpr (Or.inl ends)
  | opening => exact stops_cons_iff.mpr (Or.inl (by decide))
  | closing => exact stops_cons_iff.mpr (Or.inl (by decide))
  | phrase inside => exact stops_cons_iff.mpr (Or.inl (by decide))
  | @run run rest isRun apart =>
      rw [ofRunAlone_text]
      cases run with
      | nil => exact absurd rfl isRun.nonempty
      | cons first run =>
          have goesOn := isRun.not_endsRun List.mem_cons_self
          rw [List.cons_append, stops_cons_iff, goesOn] at stops
          have symbol := stops.resolve_left (by simp)
          obtain ⟨part, isPart, both⟩ := isRun.eq_symbol symbol
          rw [both]
          exact stops_cons_iff.mpr
            (Or.inr (startsSymbol_iff.mpr ⟨part, other, isPart, rfl⟩))
  | quoted named inside =>
      obtain ⟨first, rest, split, goesOn, plain⟩ := Head.text_eq_cons named
      rw [split, List.cons_append, stops_cons_iff, goesOn,
        startsSymbol_cons_of_plain plain] at stops
      simp at stops

/-- Blanks are nothing but blanks, and no blank is behind them. -/
theorem StartsWith.of_blank {text rest : Text} {lexeme : Lexeme}
    (starts : StartsWith text lexeme rest) (blank : lexeme.form = .blank) :
    (∀ character ∈ lexeme.text, Text.isBlank character = true) ∧
      ∀ next ∈ rest.head?, Text.isBlank next = false := by
  cases starts with
  | blank nonempty blanks stop => exact ⟨blanks, stop⟩
  | opening | closing | phrase | quoted => cases blank
  | @run run =>
      have counts := isMeaningful_ofRun run []
      rw [ofRunAlone] at blank
      rw [blank] at counts
      cases counts

theorem StartsWith.text_ne_nil {text rest : Text} {lexeme : Lexeme}
    (starts : StartsWith text lexeme rest) : lexeme.text ≠ [] := by
  have member : lexeme ∈ scan text := by
    rw [starts.scan_eq]
    exact List.mem_cons_self
  exact (isPiece_of_mem_scan member).2

theorem StartsWith.head?_append {text rest : Text} {lexeme : Lexeme}
    (starts : StartsWith text lexeme rest) (other : Text) :
    (lexeme.text ++ other).head? = text.head? := by
  rw [starts.split, List.head?_append_of_ne_nil _ starts.text_ne_nil,
    List.head?_append_of_ne_nil _ starts.text_ne_nil]

private theorem StartsWith.replaces {text rest : Text} {lexeme : Lexeme}
    (starts : StartsWith text lexeme rest) (other : Text) :
    Replaces text (lexeme.text ++ other) where
  heads := fun _ isNext => Or.inl (starts.head?_append other ▸ isNext)
  stops := fun stops => starts.stops stops other

/-- Lexemes that leave no quote open stay what they are in front of another
text, if the last of them does. -/
theorem scan_joined_append {before : List Lexeme} {old other : Text}
    (scanned : scan (joined before ++ old) = before ++ scan old)
    (closed : ∀ lexeme ∈ before, lexeme.openQuote? = none)
    (last : ∀ lexeme ∈ before.getLast?,
      StartsWith (lexeme.text ++ old) lexeme old →
        StartsWith (lexeme.text ++ other) lexeme other) :
    scan (joined before ++ other) = before ++ scan other := by
  induction before with
  | nil => rfl
  | cons lexeme later ih =>
      rw [List.cons_append] at scanned
      obtain ⟨starts, scannedLater⟩ := startsWith_of_scan scanned
      rw [joined_append, joined_scan] at starts scannedLater
      rw [joined_cons, List.append_assoc] at starts ⊢
      have goesOn : StartsWith (lexeme.text ++ (joined later ++ other)) lexeme
          (joined later ++ other) := by
        cases later with
        | nil => exact last lexeme rfl starts
        | cons second more =>
            have isSecond := (startsWith_of_scan scannedLater).1
            rw [joined_cons, List.append_assoc second.text _ other]
            apply starts.replace (closed lexeme List.mem_cons_self)
              (isSecond.replaces (joined more ++ other))
            intro blank next isNext
            rw [isSecond.head?_append] at isNext
            exact (starts.of_blank blank).2 next isNext
      rw [goesOn.scan_eq, List.cons_append, List.cons.injEq]
      refine ⟨rfl, ih scannedLater
        (fun other member => closed other (List.mem_cons_of_mem lexeme member))
        fun final isFinal => ?_⟩
      cases later with
      | nil => cases isFinal
      | cons second more => exact last final isFinal

/-- Lexemes next to each other that leave no quote open are read from their
own text. -/
theorem scan_joined {text : Text} {lexemes after : List Lexeme}
    (scanned : scan text = lexemes ++ after)
    (closed : ∀ lexeme ∈ lexemes, lexeme.openQuote? = none) :
    scan (joined lexemes) = lexemes := by
  have whole : scan (joined lexemes ++ joined after) =
      lexemes ++ scan (joined after) := by
    rw [scan_eq_append scanned, ← joined_append, ← scanned, joined_scan]
  have cut := @scan_joined_append lexemes (joined after) [] whole closed
    fun lexeme isLast starts => starts.replace
      (closed lexeme (List.mem_of_getLast? isLast)) (replaces_nil _) (by simp)
  simpa [scan] using cut

theorem openQuote?_eq_none_of_followed {text : Text}
    {before later : List Lexeme} (scanned : scan text = before ++ later)
    (followed : later ≠ []) {lexeme : Lexeme} (member : lexeme ∈ before) :
    lexeme.openQuote? = none := by
  induction before generalizing text with
  | nil => cases member
  | cons first rest ih =>
      rw [List.cons_append] at scanned
      obtain ⟨starts, scannedRest⟩ := startsWith_of_scan scanned
      rcases List.mem_cons.mp member with rfl | inRest
      · rw [← Option.not_isSome_iff_eq_none]
        intro isOpen
        obtain ⟨offset, isOffset⟩ := Option.isSome_iff_exists.mp isOpen
        rw [starts.rest_eq_nil_of_openQuote? isOffset] at scannedRest
        have none : rest ++ later = [] := by simpa [scan] using scannedRest.symm
        exact followed (List.append_eq_nil_iff.mp none).2
      · exact ih scannedRest inRest

theorem openQuote?_eq_none_of_mem_scan {text : Text} {position : Nat}
    (closed : Quotation.openQuoteFrom position none text = none)
    {lexeme : Lexeme} (member : lexeme ∈ scan text) :
    lexeme.openQuote? = none := by
  fun_induction scan text generalizing position with
  | case1 => cases member
  | case2 first rest ih =>
      rw [(startsWith_next first rest).openQuoteFrom_eq] at closed
      cases isOpen : (next first rest).1.openQuote? with
      | some offset => simp [isOpen] at closed
      | none =>
          rw [isOpen] at closed
          rcases List.mem_cons.mp member with rfl | later
          · exact isOpen
          · exact ih closed later

theorem isBalanced_joined {lexemes : List Lexeme}
    (balanced : ∀ lexeme ∈ lexemes, Quotation.IsBalanced lexeme.text) :
    Quotation.IsBalanced (joined lexemes) := by
  induction lexemes with
  | nil => exact Quotation.isBalanced_nil
  | cons lexeme later ih =>
      rw [joined_cons]
      exact (balanced lexeme List.mem_cons_self).append (ih fun other member =>
        balanced other (List.mem_cons_of_mem lexeme member))

theorem isBalanced_of_mem_scan {text : Text} {lexeme : Lexeme}
    (member : lexeme ∈ scan text) (closed : lexeme.openQuote? = none) :
    Quotation.IsBalanced lexeme.text := by
  obtain ⟨_, _, starts⟩ := exists_startsWith_of_mem_scan member
  exact starts.isBalanced closed

/-- A condition that leaves no quote open ends in neither a blank nor an opening
bracket. -/
theorem StartsWith.getLast?_condition {text rest : Text} {lexeme : Lexeme}
    (starts : StartsWith text lexeme rest) (closed : lexeme.openQuote? = none)
    {asked : Condition} (isCondition : lexeme.form = .condition asked)
    {last : Char} (isLast : last ∈ lexeme.text.getLast?) :
    Text.isBlank last = false ∧ last ≠ '(' := by
  cases starts with
  | blank | opening | closing | phrase => cases isCondition
  | run isRun apart =>
      rw [ofRunAlone_text] at isLast
      have goesOn := isRun.not_endsRun (List.mem_of_getLast? isLast)
      simp_all [endsRun]
  | @quoted head named inside =>
      have isClosed : (PhraseRead.read inside).closed = true := by
        simpa [openQuote?_quoted] using closed
      obtain ⟨written, split⟩ := PhraseRead.text_of_closed isClosed
      have whole : head.text ++ '"' :: (PhraseRead.read inside).text =
          (head.text ++ '"' :: written) ++ ['"'] := by
        simp [split]
      rw [whole, List.getLast?_concat] at isLast
      rw [← Option.some.inj isLast]
      decide

end Lexeme

end CardQuery
