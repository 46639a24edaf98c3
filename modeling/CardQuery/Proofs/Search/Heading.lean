import CardQuery.Proofs.Search.Touching

/-!
# Conditions by their head

A condition is written as its head and behind it a bare value or a phrase.  What
is written behind the head says the same behind another head, as long as the
separator stays what it is or becomes a colon: a longer separator could not be
made out of a colon and the value, and names and the hyphen are read before the
separator is reached.

A word that is written in the place of a value does not end where the value did:
the run that it begins takes in the run that stands behind, if there is one.

A lexeme in front of a condition stays what it is when the head changes, since
either head goes on with a run.
-/

namespace CardQuery

namespace Lexeme

/-- What is written behind the head of a condition, in front of the rest of the
text, says its value. -/
inductive Writes : Condition → (written rest : Text) → Prop where
  | bare {head : Head} {value rest : Text} :
      spanRun (value ++ rest) = (value, rest) →
      Comparison.Keeps head.comparison value →
      (value = [] → '"' ∉ rest.head?) →
      Writes { head with value, quoted := false } value rest
  | phrase {head : Head} (inside : Text) :
      Writes { head with
          value := (PhraseRead.read inside).value, quoted := true }
        ('"' :: (PhraseRead.read inside).text) (PhraseRead.read inside).rest

theorem isRun_head_text_append {head : Head}
    (named : Head.isName head.name = true) {value rest : Text}
    (ends : spanRun (value ++ rest) = (value, rest)) :
    IsRun (head.text ++ value) rest where
  nonempty := head_text_append_ne_nil named value
  ends := by rw [List.append_assoc, readRun_condition named, ends]

private theorem IsRun.spanRun_value {head : Head}
    (named : Head.isName head.name = true) {value rest : Text}
    (isRun : IsRun (head.text ++ value) rest) :
    spanRun (value ++ rest) = (value, rest) := by
  have ends := isRun.ends
  rw [List.append_assoc, readRun_condition named, Prod.mk.injEq,
    List.append_cancel_left_eq] at ends
  exact Prod.ext ends.1 ends.2

private theorem ofRunAlone_eq_condition {run : Text} {asked : Condition}
    (isCondition : (ofRunAlone run).form = .condition asked) :
    Head.isName asked.name = true ∧ asked.quoted = false ∧
      run = asked.toHead.text ++ asked.value ∧
      Head.read? run = some (asked.toHead, asked.value) := by
  unfold ofRunAlone ofRun at isCondition
  split at isCondition
  next => cases isCondition
  next =>
    split at isCondition
    next => cases isCondition
    next head other isHead impossible => cases impossible
    next head value rest isHead _ =>
      cases isCondition
      obtain ⟨named, split⟩ := Head.text_of_read? isHead
      exact ⟨named, rfl, split, isHead⟩

private theorem StartsWith.writes {text rest : Text} {lexeme : Lexeme}
    (starts : StartsWith text lexeme rest) {asked : Condition}
    (isCondition : lexeme.form = .condition asked) :
    Head.isName asked.name = true ∧ ∃ written,
      lexeme = ⟨.condition asked, asked.toHead.text ++ written⟩ ∧
        Writes asked written rest := by
  cases starts with
  | blank | opening | closing | phrase => cases isCondition
  | @run run rest isRun apart =>
      obtain ⟨named, bare, split, isHead⟩ := ofRunAlone_eq_condition isCondition
      obtain ⟨head, value, quoted⟩ := asked
      cases bare
      subst split
      refine ⟨named, value, ofRunAlone_condition isHead,
        .bare (isRun.spanRun_value named)
          ((Head.read?_text_iff named).mp isHead) ?_⟩
      rintro rfl
      exact apart head isHead
  | quoted named inside =>
      cases isCondition
      exact ⟨named, _, rfl, .phrase inside⟩

private theorem writes_word (head : Head) {word : Text}
    (isWord : Head.isName word = true) (rest : Text) :
    Writes { head with value := word ++ (spanRun rest).1, quoted := false }
      (word ++ (spanRun rest).1) (spanRun rest).2 := by
  have part {character : Char} := @Head.isNamePart_of_mem word isWord character
  have nonempty : word ≠ [] := by
    rintro rfl
    cases isWord
  refine .bare ?_ (Comparison.keeps_of_noEquals _ fun equals => ?_) (by simp_all)
  · rw [List.append_assoc, spanRun_append]
    exact spanRun_append_of_plain
      (fun _ member => Head.endsRun_of_isNamePart (part member))
      (fun _ member => Head.isSymbolPart_of_isNamePart (part member)) rest
  · rw [List.head?_append_of_ne_nil _ nonempty] at equals
    exact absurd (part (List.mem_of_mem_head? equals)) (by decide)

namespace Writes

variable {asked : Condition} {written rest : Text}

private theorem startsWith (writes : Writes asked written rest)
    (named : Head.isName asked.name = true) :
    StartsWith (asked.toHead.text ++ written ++ rest)
      ⟨.condition asked, asked.toHead.text ++ written⟩ rest := by
  cases writes with
  | @bare head _ _ ends keeps apart =>
      have isHead := (Head.read?_text_iff named).mpr keeps
      rw [← ofRunAlone_condition isHead]
      refine .run (isRun_head_text_append named ends) ?_
      intro other isOther
      rw [isHead, Option.some.injEq, Prod.mk.injEq] at isOther
      exact apart isOther.2
  | @phrase head inside =>
      have whole : head.text ++ '"' :: (PhraseRead.read inside).text ++
          (PhraseRead.read inside).rest = head.text ++ '"' :: inside := by
        simp [PhraseRead.text_append_rest]
      rw [whole]
      exact .quoted named inside

private theorem withHead (writes : Writes asked written rest) {head : Head}
    (same : head.comparison = none ∨ head.comparison = asked.comparison) :
    Writes { asked with toHead := head } written rest := by
  cases writes with
  | bare ends keeps apart =>
      refine .bare ends ?_ apart
      rcases same with colon | same
      · rw [colon]
        exact Comparison.keeps_none written
      · rw [same]
        exact keeps
  | phrase inside => exact .phrase inside

private theorem keeps (writes : Writes asked written rest) :
    Comparison.Keeps asked.comparison (written ++ rest) := by
  cases writes with
  | bare ends keeps apart =>
      apply keeps.of_head?
      intro equals
      cases written with
      | cons first written => exact equals
      | nil =>
          obtain ⟨later, rfl⟩ := List.head?_eq_some_iff.mp equals
          exact absurd (stops_of_spanRun ends)
            (not_stops_of_plain (by decide) (by decide) later)
  | phrase inside => exact Comparison.keeps_of_noEquals _ (by simp)

theorem stops_of_bare (writes : Writes asked written rest)
    (bare : asked.quoted = false) : Stops rest := by
  cases writes with
  | bare ends => exact stops_of_spanRun ends
  | phrase => cases bare

end Writes

section

variable {text : Text} {before after : List Lexeme} {lexeme : Lexeme}
  {asked : Condition}

private theorem exists_written
    (scanned : scan text = before ++ lexeme :: after)
    (isCondition : lexeme.form = .condition asked) :
    Head.isName asked.name = true ∧ ∃ written,
      lexeme = ⟨.condition asked, asked.toHead.text ++ written⟩ ∧
      text = joined before ++
        (asked.toHead.text ++ (written ++ joined after)) ∧
      Writes asked written (joined after) := by
  obtain ⟨starts, _⟩ := startsWith_of_scan (scan_eq_append scanned)
  obtain ⟨named, written, rfl, writes⟩ := starts.writes isCondition
  refine ⟨named, written, rfl, ?_, writes⟩
  rw [← joined_scan text, scanned]
  simp

private theorem scan_before_head
    (scanned : scan text = before ++ lexeme :: after)
    (isCondition : lexeme.form = .condition asked) {head : Head}
    (named : Head.isName head.name = true) (behind : Text) :
    scan (joined before ++ (head.text ++ behind)) =
      before ++ scan (head.text ++ behind) := by
  have closed := fun other (member : other ∈ before) =>
    openQuote?_eq_none_of_followed scanned (by simp) member
  have starts := (startsWith_of_scan (scan_eq_append scanned)).1
  have whole : scan (joined before ++ joined (lexeme :: after)) =
      before ++ scan (joined (lexeme :: after)) := by
    rw [← joined_append, ← scanned, joined_scan, scanned,
      scan_eq_append scanned]
  refine scan_joined_append whole closed fun last isLast startsLast => ?_
  apply startsLast.of_not_stops (closed last (List.mem_of_getLast? isLast))
  · exact starts.not_stops (Or.inl (by rw [isCondition]; rfl))
  · intro next isNext
    obtain ⟨first, rest, split, goesOn, _⟩ := Head.text_eq_cons named
    rw [split] at isNext
    rw [← Option.some.inj isNext]
    simp_all [endsRun]

private theorem scan_withHead
    (scanned : scan text = before ++ lexeme :: after)
    (isCondition : lexeme.form = .condition asked) {head : Head}
    (named : Head.isName head.name = true)
    (same : head.comparison = none ∨ head.comparison = asked.comparison)
    {written : Text} (writes : Writes asked written (joined after)) :
    scan (joined before ++ (head.text ++ (written ++ joined after))) =
      before ++ ⟨.condition { asked with toHead := head },
        head.text ++ written⟩ :: after := by
  have starts := (writes.withHead same).startsWith named
  rw [scan_before_head scanned isCondition named, ← List.append_assoc,
    starts.scan_eq, scan_joined_behind scanned]

private theorem scan_withWord
    (scanned : scan text = before ++ lexeme :: after)
    (isCondition : lexeme.form = .condition asked)
    (named : Head.isName asked.name = true) {word : Text}
    (isWord : Head.isName word = true) :
    scan (joined before ++ (asked.toHead.text ++ (word ++ joined after))) =
      before ++
        ⟨.condition { asked with
            value := word ++ (spanRun (joined after)).1, quoted := false },
          asked.toHead.text ++ (word ++ (spanRun (joined after)).1)⟩ ::
        scan (spanRun (joined after)).2 := by
  have starts :=
    (writes_word asked.toHead isWord (joined after)).startsWith named
  rw [List.append_assoc, List.append_assoc, spanRun_append] at starts
  rw [scan_before_head scanned isCondition named, starts.scan_eq]

end

end Lexeme

/-- A condition in its place in a query: the lexemes in front of it and those
behind it, and what is written behind its head. -/
structure Token.IsWritten (token : Token) (query : Text) (asked : Condition)
    (front : List Lexeme) (written : Text) (back : List Lexeme) : Prop where
  isCondition : token.form = .condition asked
  scanned : Lexeme.scan query = front ++ token.toLexeme :: back
  position : token.position = (Lexeme.joined front).length
  named : Head.isName asked.name = true
  isText : token.text = asked.toHead.text ++ written
  isQuery : query = Lexeme.joined front ++
    (asked.toHead.text ++ (written ++ Lexeme.joined back))
  writes : Lexeme.Writes asked written (Lexeme.joined back)

namespace Token

theorem exists_isWritten {query : Text} {token : Token} {asked : Condition}
    (member : token ∈ meaningful (read query))
    (isCondition : token.form = .condition asked) :
    ∃ before after front written back,
      meaningful (read query) = before ++ token :: after ∧
      before.map toLexeme = front.filter (·.form.isMeaningful) ∧
      after.map toLexeme = back.filter (·.form.isMeaningful) ∧
      token.IsWritten query asked front written back := by
  obtain ⟨before, after, front, back, split, scanned, position, isBefore,
    isAfter⟩ := exists_lexemes_of_mem member
  obtain ⟨named, written, isLexeme, isQuery, writes⟩ :=
    Lexeme.exists_written scanned isCondition
  exact ⟨before, after, front, written, back, split, isBefore, isAfter,
    isCondition, scanned, position, named, congrArg Lexeme.text isLexeme,
    isQuery, writes⟩

namespace IsWritten

variable {token : Token} {query : Text} {asked : Condition}
  {front back : List Lexeme} {written : Text}

theorem toLexeme_eq (place : token.IsWritten query asked front written back) :
    token.toLexeme = ⟨.condition asked, asked.toHead.text ++ written⟩ := by
  rw [← place.isCondition, ← place.isText]

theorem read?_head (place : token.IsWritten query asked front written back) :
    Head.read? (asked.toHead.text ++ (written ++ Lexeme.joined back)) =
      some (asked.toHead, written ++ Lexeme.joined back) :=
  (Head.read?_text_iff place.named).mpr place.writes.keeps

/-- Another head changes this condition alone. -/
theorem counted_withHead
    (place : token.IsWritten query asked front written back) {head : Head}
    (named : Head.isName head.name = true)
    (same : head.comparison = none ∨ head.comparison = asked.comparison) :
    Lexeme.counted (Lexeme.joined front ++
        (head.text ++ (written ++ Lexeme.joined back))) =
      front.filter (·.form.isMeaningful) ++
        ⟨.condition { asked with toHead := head }, head.text ++ written⟩ ::
          back.filter (·.form.isMeaningful) := by
  rw [Lexeme.counted, Lexeme.scan_withHead place.scanned place.isCondition named
    same place.writes, List.filter_append]
  rfl

theorem stop_eq (place : token.IsWritten query asked front written back) :
    token.stop =
      (Lexeme.joined front ++ asked.toHead.text ++ written).length := by
  simp only [stop, length, place.position, place.isText, List.length_append,
    Nat.add_assoc]

theorem drop_stop (place : token.IsWritten query asked front written back) :
    query.drop token.stop = Lexeme.joined back := by
  have isQuery : query = (Lexeme.joined front ++ asked.toHead.text ++
      written) ++ Lexeme.joined back := by
    rw [place.isQuery]
    simp
  rw [place.stop_eq, isQuery, List.drop_left]

private theorem counted_withWord
    (place : token.IsWritten query asked front written back) {word : Text}
    (isWord : Head.isName word = true) :
    Lexeme.counted (Lexeme.joined front ++
        (asked.toHead.text ++ (word ++ Lexeme.joined back))) =
      front.filter (·.form.isMeaningful) ++
        ⟨.condition { asked with
            value := word ++ (Lexeme.spanRun (Lexeme.joined back)).1,
            quoted := false },
          asked.toHead.text ++
            (word ++ (Lexeme.spanRun (Lexeme.joined back)).1)⟩ ::
        Lexeme.counted (Lexeme.spanRun (Lexeme.joined back)).2 := by
  rw [Lexeme.counted, Lexeme.scan_withWord place.scanned place.isCondition
    place.named isWord, List.filter_append]
  rfl

/-- A word in the place of the value changes this condition alone exactly if no
run goes on behind the condition. -/
theorem counted_withWord_eq_iff
    (place : token.IsWritten query asked front written back) {word : Text}
    (isWord : Head.isName word = true) :
    Lexeme.counted (Lexeme.joined front ++
        (asked.toHead.text ++ (word ++ Lexeme.joined back))) =
      front.filter (·.form.isMeaningful) ++
        ⟨.condition { asked with value := word, quoted := false },
          asked.toHead.text ++ word⟩ ::
        back.filter (·.form.isMeaningful) ↔
      Lexeme.Stops (Lexeme.joined back) := by
  rw [place.counted_withWord isWord]
  constructor
  · intro same
    have sameText := congrArg Lexeme.text
      (List.cons.inj (List.append_cancel_left same)).1
    simpa [Lexeme.Stops] using sameText
  · intro stops
    have behind := Lexeme.spanRun_append (Lexeme.joined back)
    rw [stops, List.nil_append] at behind
    rw [stops, behind, Lexeme.counted_joined_behind place.scanned,
      List.append_nil]

end IsWritten

end Token

end CardQuery
