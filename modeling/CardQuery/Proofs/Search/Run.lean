import CardQuery.Proofs.Search.Phrase

/-!
# Runs

A run reaches up to the first blank, bracket or quote and up to the first
symbol.  What follows a text is therefore cut off from it by any of these
characters.  Only a quote can still change what the run before it says, for a
condition without a value takes a phrase as its value.
-/

namespace CardQuery

/-- Whether the character is one that a symbol is made of. -/
def Lexeme.isSymbolPart (character : Char) : Bool :=
  character == '&' || character == '|'

namespace Lexeme

theorem startsSymbol_iff {text : Text} :
    startsSymbol text = true ↔
      ∃ part rest, isSymbolPart part = true ∧ text = part :: part :: rest := by
  cases text with
  | nil => simp [startsSymbol]
  | cons first rest =>
      cases rest with
      | nil => simp [startsSymbol]
      | cons second rest =>
          simp [startsSymbol, isSymbolPart]
          grind

theorem endsRun_of_isSymbolPart {character : Char}
    (part : isSymbolPart character = true) : endsRun character = false := by
  rcases Bool.or_eq_true_iff.mp part with isPart | isPart
  · rw [beq_iff_eq.mp isPart]
    decide
  · rw [beq_iff_eq.mp isPart]
    decide

theorem startsSymbol_cons_of_plain {first : Char}
    (plain : isSymbolPart first = false) (rest : Text) :
    startsSymbol (first :: rest) = false := by
  rw [Bool.eq_false_iff, Ne, startsSymbol_iff]
  rintro ⟨part, later, isPart, split⟩
  simp_all

theorem startsSymbol_append {text rest : Text} (nonempty : text ≠ [])
    (stop : ∀ next ∈ rest.head?, endsRun next = true) :
    startsSymbol (text ++ rest) = startsSymbol text := by
  rw [Bool.eq_iff_iff, startsSymbol_iff, startsSymbol_iff]
  constructor
  · rintro ⟨part, later, isPart, split⟩
    cases text with
    | nil => contradiction
    | cons first text =>
        cases text with
        | nil =>
            have isNext : part ∈ rest.head? := by
              cases rest <;> simp_all
            have ends := stop part isNext
            rw [endsRun_of_isSymbolPart isPart] at ends
            contradiction
        | cons second text =>
            simp only [List.cons_append, List.cons.injEq] at split
            exact ⟨part, text, isPart, by simp [split]⟩
  · rintro ⟨part, later, isPart, rfl⟩
    exact ⟨part, later ++ rest, isPart, rfl⟩

/-- Nothing in a text without ends of runs opens a quote. -/
theorem isBalanced_of_inside {text : Text}
    (inside : ∀ character ∈ text, endsRun character = false) :
    Quotation.IsBalanced text := by
  apply Quotation.isBalanced_of_noQuote
  intro member
  exact absurd (inside '"' member) (by decide)

theorem spanRun_eq_of_stop {rest : Text}
    (stop : ∀ next ∈ rest.head?, endsRun next = true) :
    spanRun rest = ([], rest) := by
  cases rest with
  | nil => rfl
  | cons next rest => simp [spanRun, stop next rfl]

private theorem spanRun_append_of_stop {text rest : Text}
    (inside : ∀ character ∈ text, endsRun character = false)
    (stop : ∀ next ∈ rest.head?, endsRun next = true) :
    spanRun (text ++ rest) = ((spanRun text).1, (spanRun text).2 ++ rest) := by
  induction text with
  | nil => exact spanRun_eq_of_stop stop
  | cons first text ih =>
      have later := ih fun character member =>
        inside character (List.mem_cons_of_mem first member)
      have symbol : startsSymbol (first :: text ++ rest) =
          startsSymbol (first :: text) :=
        startsSymbol_append (by simp) stop
      rw [List.cons_append] at symbol ⊢
      rw [spanRun, spanRun, symbol, inside first List.mem_cons_self, later]
      cases startsSymbol (first :: text) <;> simp

/-- Characters that make up no symbol and end no run belong to the run that
they start. -/
theorem spanRun_append_of_plain {text : Text}
    (inside : ∀ character ∈ text, endsRun character = false)
    (plain : ∀ character ∈ text, isSymbolPart character = false)
    (rest : Text) :
    spanRun (text ++ rest) = (text ++ (spanRun rest).1, (spanRun rest).2) := by
  induction text with
  | nil => simp
  | cons first text ih =>
      have later := ih
        (fun character member =>
          inside character (List.mem_cons_of_mem first member))
        (fun character member =>
          plain character (List.mem_cons_of_mem first member))
      have noSymbol := startsSymbol_cons_of_plain
        (plain first List.mem_cons_self) (text ++ rest)
      rw [List.cons_append, spanRun, inside first List.mem_cons_self, noSymbol,
        later]
      simp

/-- What a run leaves of a text without an end of a run starts with a
symbol. -/
theorem startsSymbol_of_spanRun {text : Text}
    (inside : ∀ character ∈ text, endsRun character = false)
    (left : (spanRun text).2 ≠ []) : startsSymbol (spanRun text).2 = true := by
  induction text with
  | nil => simp [spanRun] at left
  | cons first rest ih =>
      rw [spanRun, inside first List.mem_cons_self] at left ⊢
      cases symbol : startsSymbol (first :: rest) with
      | true => simp [symbol]
      | false =>
          simp only [symbol, Bool.or_self, Bool.false_eq_true, if_false] at left ⊢
          exact ih (fun character member =>
            inside character (List.mem_cons_of_mem first member)) left

theorem spanRun_eq_self {text : Text}
    (inside : ∀ character ∈ text, endsRun character = false)
    (plain : ∀ character ∈ text, isSymbolPart character = false) :
    spanRun text = (text, []) := by
  have whole := spanRun_append_of_plain inside plain []
  simpa [spanRun] using whole

private theorem readRun_append_of_stop {text rest : Text} (nonempty : text ≠ [])
    (inside : ∀ character ∈ text, endsRun character = false)
    (stop : ∀ next ∈ rest.head?, endsRun next = true) :
    readRun (text ++ rest) = ((readRun text).1, (readRun text).2 ++ rest) := by
  rw [readRun, readRun, startsSymbol_append nonempty stop]
  cases symbol : startsSymbol text with
  | true =>
      obtain ⟨part, later, _, rfl⟩ := startsSymbol_iff.mp symbol
      rfl
  | false => exact spanRun_append_of_stop inside stop

/-- The lexeme of a run that no phrase follows. -/
def ofRunAlone (run : Text) : Lexeme := (ofRun run []).1

/-- A run is a lexeme of its own unless it is a head alone and a quote follows
it. -/
theorem ofRun_eq_ofRunAlone {run rest : Text}
    (apart : ∀ head, Head.read? run = some (head, []) → '"' ∉ rest.head?) :
    ofRun run rest = (ofRunAlone run, rest) := by
  unfold ofRunAlone ofRun
  cases connective : Connective.ofWord? run with
  | some connective => rfl
  | none =>
      cases read : Head.read? run with
      | none => rfl
      | some found =>
          obtain ⟨head, value⟩ := found
          cases value with
          | cons first value => rfl
          | nil =>
              cases rest with
              | nil => rfl
              | cons next rest =>
                  have other : next ≠ '"' := by
                    simpa using apart head read
                  simp [other]

theorem ofRun_eq_of_noQuote {run rest : Text}
    (noQuote : ∀ next ∈ rest.head?, next ≠ '"') :
    ofRun run rest = (ofRunAlone run, rest) :=
  ofRun_eq_ofRunAlone fun _ _ quote => noQuote '"' quote rfl

theorem mem_of_mem_readRun {text : Text} {character : Char}
    (member : character ∈ (readRun text).1 ∨ character ∈ (readRun text).2) :
    character ∈ text := by
  rw [← readRun_append text, List.mem_append]
  exact member

theorem next_eq_ofRunAlone {first : Char} {text : Text}
    (inside : ∀ character ∈ first :: text, endsRun character = false) :
    next first text = (ofRunAlone (readRun (first :: text)).1,
      (readRun (first :: text)).2) := by
  have starts := inside first List.mem_cons_self
  rw [← ofRun_eq_of_noQuote]
  · simp_all [next, endsRun]
  · rintro next isNext rfl
    have member := mem_of_mem_readRun (Or.inr (List.mem_of_mem_head? isNext))
    exact absurd (inside '"' member) (by decide)

private theorem next_append_eq_ofRunAlone {first : Char} {text rest : Text}
    (inside : ∀ character ∈ first :: text, endsRun character = false)
    (stop : ∀ next ∈ rest.head?, endsRun next = true ∧ next ≠ '"') :
    next first (text ++ rest) = (ofRunAlone (readRun (first :: text)).1,
      (readRun (first :: text)).2 ++ rest) := by
  have starts := inside first List.mem_cons_self
  have cut := readRun_append_of_stop (by simp) inside fun next isNext =>
    (stop next isNext).1
  rw [← ofRun_eq_of_noQuote]
  · rw [List.cons_append] at cut
    simp_all [next, endsRun]
  · intro next isNext
    cases left : (readRun (first :: text)).2 with
    | nil =>
        rw [left] at isNext
        exact (stop next isNext).2
    | cons later more =>
        rw [left] at isNext
        rintro rfl
        have member : '"' ∈ first :: text := by
          apply mem_of_mem_readRun
          rw [left]
          exact Or.inr (List.mem_of_mem_head? isNext)
        exact absurd (inside '"' member) (by decide)

/-- A character that no run holds cuts the text before it off, unless it
starts a phrase. -/
theorem scan_append {text rest : Text}
    (inside : ∀ character ∈ text, endsRun character = false)
    (stop : ∀ next ∈ rest.head?, endsRun next = true ∧ next ≠ '"') :
    scan (text ++ rest) = scan text ++ scan rest := by
  induction size : text.length using Nat.strongRecOn generalizing text with
  | _ size ih =>
      subst size
      cases text with
      | nil => simp [scan]
      | cons first text =>
          have shorter := length_next_lt first text
          rw [next_eq_ofRunAlone inside] at shorter
          rw [List.cons_append, scan, scan, next_eq_ofRunAlone inside,
            next_append_eq_ofRunAlone inside stop, List.cons_append]
          congr 1
          exact ih _ shorter (fun character member =>
            inside character (mem_of_mem_readRun (Or.inr member))) rfl

end Lexeme

end CardQuery
