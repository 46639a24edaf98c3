import CardQuery.Proofs.Search.Written
import Mathlib.Data.List.TakeWhile

/-!
# The first lexeme of a text

Reading is described here without the order in which its cases are tried: the
rules of `StartsWith` say what lexeme a text starts with and what text is behind
it, and exactly one of them applies to a text that is not empty.

A run depends on what follows it in two ways only.  It must end there, and a
head without a value must have no quote behind it.  Everything else is read from
its own characters.
-/

namespace CardQuery

private theorem Comparison.text_of_read? {text value : Text}
    {comparison : Option Comparison}
    (found : read? text = some (comparison, value)) :
    text = separator comparison ++ value := by
  unfold read? at found
  split at found <;> cases found <;> rfl

namespace Head

private theorem text_of_readName? {negated : Bool} {text value : Text}
    {head : Head}
    (found : readName? negated text = some (head, value)) :
    head.negated = negated ∧ isName head.name = true ∧
      text = head.name ++ Comparison.separator head.comparison ++ value := by
  cases text with
  | nil => cases found
  | cons first rest =>
      rw [readName?] at found
      split at found
      next starts =>
        obtain ⟨⟨comparison, later⟩, isRead, same⟩ :=
          Option.map_eq_some_iff.mp found
        cases same
        have parts : (rest.takeWhile isNamePart).all isNamePart = true := by
          simp
        have separated := Comparison.text_of_read? isRead
        refine ⟨rfl, by simp [isName, starts, parts], ?_⟩
        rw [List.append_assoc, ← separated, List.cons_append,
          List.takeWhile_append_dropWhile]
      next => cases found

theorem text_of_read? {text value : Text} {head : Head}
    (found : read? text = some (head, value)) :
    isName head.name = true ∧ text = head.text ++ value := by
  unfold read? at found
  split at found
  · obtain ⟨negated, named, split⟩ := text_of_readName? found
    exact ⟨named, by simp [Head.text, negated, split]⟩
  · obtain ⟨negated, named, split⟩ := text_of_readName? found
    exact ⟨named, by simp [Head.text, negated, split]⟩

end Head

namespace Lexeme

/-- A text stops a run in front of it. -/
def Stops (rest : Text) : Prop := (spanRun rest).1 = []

instance : DecidablePred Stops := fun rest =>
  inferInstanceAs (Decidable ((spanRun rest).1 = []))

/-- The run is what a text starts with that has `rest` behind it. -/
structure IsRun (run rest : Text) : Prop where
  nonempty : run ≠ []
  ends : readRun (run ++ rest) = (run, rest)

/-- The lexeme that a text starts with and the text behind it. -/
inductive StartsWith : Text → Lexeme → Text → Prop where
  | blank {blanks rest : Text} : blanks ≠ [] →
      (∀ character ∈ blanks, Text.isBlank character = true) →
      (∀ next ∈ rest.head?, Text.isBlank next = false) →
      StartsWith (blanks ++ rest) ⟨.blank, blanks⟩ rest
  | opening (rest : Text) : StartsWith ('(' :: rest) ⟨.bracket true, ['(']⟩ rest
  | closing (rest : Text) :
      StartsWith (')' :: rest) ⟨.bracket false, [')']⟩ rest
  | phrase (inside : Text) :
      StartsWith ('"' :: inside)
        ⟨.phrase (PhraseRead.read inside).value (PhraseRead.read inside).closed,
          '"' :: (PhraseRead.read inside).text⟩ (PhraseRead.read inside).rest
  | run {run rest : Text} : IsRun run rest →
      (∀ head, Head.read? run = some (head, []) → '"' ∉ rest.head?) →
      StartsWith (run ++ rest) (ofRunAlone run) rest
  | quoted {head : Head} : Head.isName head.name = true → (inside : Text) →
      StartsWith (head.text ++ '"' :: inside)
        ⟨.condition { head with
            value := (PhraseRead.read inside).value, quoted := true },
          head.text ++ '"' :: (PhraseRead.read inside).text⟩
        (PhraseRead.read inside).rest

theorem stops_of_head {rest : Text}
    (stop : ∀ next ∈ rest.head?, endsRun next = true) : Stops rest := by
  rw [Stops, spanRun_eq_of_stop stop]

private theorem stops_quote (inside : Text) : Stops ('"' :: inside) :=
  stops_of_head fun next isNext => by
    rw [← Option.some.inj isNext]
    decide

private theorem isRun_readRun {first : Char} {rest : Text}
    (starts : endsRun first = false) :
    IsRun (readRun (first :: rest)).1 (readRun (first :: rest)).2 where
  nonempty := readRun_ne_nil rest starts
  ends := by rw [readRun_append]

private theorem not_endsRun_of_mem_spanRun {text : Text} {character : Char}
    (member : character ∈ (spanRun text).1) : endsRun character = false := by
  fun_induction spanRun text with
  | case1 => cases member
  | case2 => cases member
  | case3 first rest goes ih =>
      rcases List.mem_cons.mp member with rfl | later
      · simp_all
      · exact ih later

/-- A run that starts with a symbol is that symbol. -/
theorem IsRun.eq_symbol {run rest : Text} (isRun : IsRun run rest)
    (symbol : startsSymbol (run ++ rest) = true) :
    ∃ part, isSymbolPart part = true ∧ run = [part, part] := by
  have isRead : (readRun (run ++ rest)).1 = run := by rw [isRun.ends]
  obtain ⟨part, later, isPart, split⟩ := startsSymbol_iff.mp symbol
  rw [readRun, if_pos symbol, split] at isRead
  exact ⟨part, isPart, isRead.symm⟩

theorem IsRun.not_endsRun {run rest : Text} (isRun : IsRun run rest)
    {character : Char} (member : character ∈ run) :
    endsRun character = false := by
  by_cases symbol : startsSymbol (run ++ rest) = true
  · obtain ⟨part, isPart, both⟩ := isRun.eq_symbol symbol
    have same : character = part := by simpa [both] using member
    rw [same]
    exact endsRun_of_isSymbolPart isPart
  · have isRead : (readRun (run ++ rest)).1 = run := by rw [isRun.ends]
    rw [readRun, if_neg symbol] at isRead
    rw [← isRead] at member
    exact not_endsRun_of_mem_spanRun member

theorem ofRunAlone_text (run : Text) : (ofRunAlone run).text = run := by
  have whole := ofRun_append run []
  rwa [ofRun_eq_of_noQuote (by simp), List.append_nil, List.append_nil] at whole

private theorem ofRun_quoted {head : Head}
    (named : Head.isName head.name = true)
    (inside : Text) :
    ofRun head.text ('"' :: inside) =
      (⟨.condition { head with
          value := (PhraseRead.read inside).value, quoted := true },
        head.text ++ '"' :: (PhraseRead.read inside).text⟩,
        (PhraseRead.read inside).rest) := by
  unfold ofRun
  simp only [Head.ofWord?_text, Head.read?_text_alone named]

private theorem isRun_head_text {head : Head}
    (named : Head.isName head.name = true)
    {rest : Text} (stops : Stops rest) : IsRun head.text rest where
  nonempty := by simpa using head_text_append_ne_nil named []
  ends := by
    have whole := spanRun_append rest
    rw [stops, List.nil_append] at whole
    rw [readRun_condition named, stops, List.append_nil, whole]

private theorem scan_of_isRun {run rest : Text} (isRun : IsRun run rest) :
    scan (run ++ rest) = (ofRun run rest).1 :: scan (ofRun run rest).2 := by
  cases run with
  | nil => exact absurd rfl isRun.nonempty
  | cons first run =>
      have isNext : next first (run ++ rest) = ofRun (first :: run) rest :=
        next_eq_ofRun (isRun.not_endsRun List.mem_cons_self) isRun.ends
      rw [List.cons_append, scan, isNext]

private theorem startsWith_ofRun {run rest : Text} (isRun : IsRun run rest) :
    StartsWith (run ++ rest) (ofRun run rest).1 (ofRun run rest).2 := by
  by_cases alone : ∀ head, Head.read? run = some (head, []) → '"' ∉ rest.head?
  · rw [ofRun_eq_ofRunAlone alone]
    exact .run isRun alone
  · simp only [not_forall, not_not] at alone
    obtain ⟨head, isHead, quote⟩ := alone
    obtain ⟨inside, rfl⟩ := List.head?_eq_some_iff.mp quote
    obtain ⟨named, split⟩ := Head.text_of_read? isHead
    rw [List.append_nil] at split
    subst split
    rw [ofRun_quoted named]
    exact .quoted named inside

/-- The rules describe each step of reading. -/
theorem startsWith_next (first : Char) (rest : Text) :
    StartsWith (first :: rest) (next first rest).1 (next first rest).2 := by
  by_cases blank : Text.isBlank first = true
  · have rule := @StartsWith.blank (first :: rest.takeWhile Text.isBlank)
      (rest.dropWhile Text.isBlank) (by simp)
      (List.forall_mem_cons.mpr
        ⟨blank, fun character => List.mem_takeWhile_imp⟩)
      (fun next isNext => by
        have stop := List.head?_dropWhile_not Text.isBlank rest
        rw [isNext] at stop
        simpa using stop)
    rw [List.cons_append, List.takeWhile_append_dropWhile] at rule
    simpa [next, blank] using rule
  · by_cases special : first = '"' ∨ first = '(' ∨ first = ')'
    · rcases special with rfl | rfl | rfl
      · simpa [next, blank] using StartsWith.phrase rest
      · simpa [next, blank] using StartsWith.opening rest
      · simpa [next, blank] using StartsWith.closing rest
    · simp only [not_or] at special
      have starts : endsRun first = false := by
        simp [endsRun, blank, special]
      have isRun := @isRun_readRun first rest starts
      have rule := startsWith_ofRun isRun
      rw [readRun_append] at rule
      simpa [next, blank, special] using rule

namespace StartsWith

variable {text rest : Text} {lexeme : Lexeme}

theorem split (starts : StartsWith text lexeme rest) :
    text = lexeme.text ++ rest := by
  cases starts with
  | blank | opening | closing => rfl
  | phrase inside => simp [PhraseRead.text_append_rest]
  | run isRun apart => rw [ofRunAlone_text]
  | quoted named inside => simp [PhraseRead.text_append_rest]

/-- At most one rule applies, and it says what is read. -/
theorem scan_eq (starts : StartsWith text lexeme rest) :
    scan text = lexeme :: scan rest := by
  cases starts with
  | @blank blanks rest nonempty blank stop =>
      cases blanks with
      | nil => contradiction
      | cons first blanks =>
          have noBlank : rest.dropWhile Text.isBlank = rest ∧
              rest.takeWhile Text.isBlank = [] := by
            cases rest with
            | nil => simp
            | cons next rest => simp [stop next rfl]
          have blanks := (List.forall_mem_cons.mp blank).2
          rw [List.cons_append, scan]
          simp [next, blank first List.mem_cons_self,
            List.takeWhile_append_of_pos blanks,
            List.dropWhile_append_of_pos blanks, noBlank]
  | opening | closing =>
      rw [scan]
      simp [next, show Text.isBlank '(' = false by decide,
        show Text.isBlank ')' = false by decide]
  | phrase inside =>
      rw [scan]
      simp [next, show Text.isBlank '"' = false by decide]
  | run isRun apart =>
      rw [scan_of_isRun isRun, ofRun_eq_ofRunAlone apart]
  | quoted named inside =>
      have isRun := isRun_head_text named (stops_quote inside)
      rw [scan_of_isRun isRun, ofRun_quoted named]

end StartsWith

end Lexeme

end CardQuery
