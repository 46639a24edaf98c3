import CardQuery.Proofs.Search.Counted
import CardQuery.Proofs.Search.Remainder

/-!
# Lexemes that touch

Two runs touch only where one of them is a symbol.  In front of a character that
goes on with a run, which is no end of a run and no part of a symbol, a lexeme
has therefore ended for a reason of its own: it is a bracket, a phrase, a
condition with a phrase or a symbol.  Such a lexeme stays what it is whatever is
put behind it, and blanks do as long as no blank is.

Conditions and connectives start with a character that goes on with a run.
-/

namespace CardQuery.Lexeme

theorem not_stops_of_plain {first : Char} (goesOn : endsRun first = false)
    (plain : isSymbolPart first = false) (rest : Text) :
    ¬ Stops (first :: rest) := by
  rw [stops_cons_iff, goesOn, startsSymbol_cons_of_plain plain]
  simp

theorem stops_of_spanRun {run rest : Text}
    (ends : spanRun (run ++ rest) = (run, rest)) : Stops rest := by
  induction run with
  | nil => exact congrArg Prod.fst ends
  | cons first run ih =>
      rw [List.cons_append, spanRun] at ends
      split at ends
      next => cases congrArg Prod.fst ends
      next =>
        simp only [Prod.mk.injEq, List.cons.injEq, true_and] at ends
        exact ih (Prod.ext ends.1 ends.2)

private theorem IsRun.eq_symbol_of_not_stops {run rest : Text}
    (isRun : IsRun run rest)
    (goesOn : ¬ Stops rest) :
    ∃ part, isSymbolPart part = true ∧ run = [part, part] := by
  apply isRun.eq_symbol
  by_contra noSymbol
  have ends := isRun.ends
  rw [readRun, if_neg noSymbol] at ends
  exact goesOn (stops_of_spanRun ends)

private theorem isRun_symbol {part : Char} (isPart : isSymbolPart part = true)
    (rest : Text) : IsRun [part, part] rest where
  nonempty := by simp
  ends := by
    have symbol : startsSymbol ([part, part] ++ rest) = true :=
      startsSymbol_iff.mpr ⟨part, rest, isPart, rfl⟩
    rw [readRun, if_pos symbol]
    rfl

private theorem read?_symbol {part : Char} (isPart : isSymbolPart part = true)
    (value : Text) (head : Head) :
    Head.read? [part, part] ≠ some (head, value) := by
  intro isHead
  obtain ⟨named, split⟩ := Head.text_of_read? isHead
  obtain ⟨first, rest, isText, _, plain⟩ := Head.text_eq_cons named
  rw [isText, List.cons_append, List.cons.injEq] at split
  rw [← split.1, isPart] at plain
  cases plain

namespace StartsWith

variable {text rest : Text} {lexeme : Lexeme}

/-- A lexeme that ends where no run can end is read whatever is behind it. -/
theorem of_not_stops (starts : StartsWith text lexeme rest)
    (closed : lexeme.openQuote? = none) (goesOn : ¬ Stops rest) {other : Text}
    (noBlank : ∀ next ∈ other.head?, Text.isBlank next = false) :
    StartsWith (lexeme.text ++ other) lexeme other := by
  refine starts.exchange closed (fun _ => noBlank) fun run isRun _ => ?_
  obtain ⟨part, isPart, rfl⟩ := isRun.eq_symbol_of_not_stops goesOn
  exact ⟨isRun_symbol isPart other, fun head isHead =>
    absurd isHead (read?_symbol isPart [] head)⟩

/-- Conditions and connectives start with a character that goes on with a
run. -/
theorem not_stops (starts : StartsWith text lexeme rest)
    (asks : lexeme.form.condition?.isSome = true ∨
      lexeme.form.connective?.isSome = true) : ¬ Stops text := by
  cases starts with
  | blank | opening | closing | phrase =>
      simp [Form.condition?, Form.connective?] at asks
  | @run run rest isRun apart =>
      obtain ⟨first, more, split⟩ := List.exists_cons_of_ne_nil isRun.nonempty
      have goesOn := isRun.not_endsRun (split ▸ List.mem_cons_self : first ∈ run)
      intro stops
      rw [split, List.cons_append, stops_cons_iff, goesOn] at stops
      have symbol := stops.resolve_left (by simp)
      rw [← List.cons_append, ← split] at symbol
      obtain ⟨part, isPart, both⟩ := isRun.eq_symbol symbol
      rw [both, ofRunAlone_symbol isPart] at asks
      simp [Form.condition?, Form.connective?] at asks
  | quoted named inside =>
      obtain ⟨first, more, split, goesOn, plain⟩ := Head.text_eq_cons named
      rw [split, List.cons_append]
      exact not_stops_of_plain goesOn plain _

private theorem stops_of_connective (starts : StartsWith text lexeme rest)
    (joining : lexeme.form.connective?.isSome = true) : Stops rest := by
  cases starts with
  | blank | opening | closing | phrase | quoted => cases joining
  | run isRun apart =>
      by_contra goesOn
      obtain ⟨part, isPart, rfl⟩ := isRun.eq_symbol_of_not_stops goesOn
      rw [ofRunAlone_symbol isPart] at joining
      cases joining

end StartsWith

section

variable {text : Text} {before between after : List Lexeme}
  {first second : Lexeme}

theorem between_connectives_ne_nil
    (scanned : scan text = before ++ first :: (between ++ second :: after))
    (isFirst : first.form.connective?.isSome = true)
    (isSecond : second.form.connective?.isSome = true) : between ≠ [] := by
  rintro rfl
  obtain ⟨starts, scannedRest⟩ :=
    startsWith_of_scan (scan_eq_append scanned)
  have goesOn := (startsWith_of_scan scannedRest).1.not_stops (Or.inr isSecond)
  exact goesOn (starts.stops_of_connective isFirst)

theorem isBlank_of_mem_joined {lexemes : List Lexeme}
    (inside : ∀ lexeme ∈ lexemes, lexeme ∈ scan text)
    (none : ∀ lexeme ∈ lexemes, lexeme.form.isMeaningful = false) :
    ∀ character ∈ joined lexemes, Text.isBlank character = true := by
  intro character member
  obtain ⟨lexeme, isLexeme, inText⟩ := List.mem_flatMap.mp member
  obtain ⟨noFinish, _⟩ := isPiece_of_mem_scan (inside lexeme isLexeme)
  obtain ⟨_, _, starts⟩ := exists_startsWith_of_mem_scan (inside lexeme isLexeme)
  have uncounted := none lexeme isLexeme
  have blank : lexeme.form = .blank := by
    cases form : lexeme.form <;> simp_all [Form.isMeaningful]
  exact (starts.of_blank blank).1 character inText

end

end CardQuery.Lexeme
