import CardQuery.Search.Scan
import Mathlib.Data.List.Chain

/-!
# Tokens cut a query into pieces

The lexemes of a text are its pieces in order, so each of them lies in the text
where the texts before it end.  Placing the lexemes only writes these positions
down and adds the end of the query.  A row of tokens can therefore be taken
apart wherever its lexemes can, and the tokens follow one another without a gap.
-/

namespace CardQuery

/-- The middle of three pieces of a text, taken by its ends. -/
theorem Text.slice_middle {before middle after : Text} {start stop : Nat}
    (isStart : start = before.length) (isStop : stop = start + middle.length) :
    slice (before ++ (middle ++ after)) start stop = middle := by
  rw [slice_natCast, isStop, isStart, ← List.append_assoc,
    ← List.length_append, List.take_left, List.drop_left]

namespace Lexeme

/-- The text of lexemes in a row. -/
def joined (lexemes : List Lexeme) : Text := lexemes.flatMap (·.text)

@[simp] theorem joined_nil : joined [] = [] := rfl

@[simp] theorem joined_cons (lexeme : Lexeme) (rest : List Lexeme) :
    joined (lexeme :: rest) = lexeme.text ++ joined rest := by
  simp [joined]

@[simp] theorem joined_append (left right : List Lexeme) :
    joined (left ++ right) = joined left ++ joined right := by
  simp [joined]

/-- Nothing of a text is lost and nothing is added. -/
theorem joined_scan (text : Text) : joined (scan text) = text := by
  fun_induction scan text with
  | case1 => rfl
  | case2 first rest ih => rw [joined_cons, ih, next_append]

theorem isMeaningful_ofRun (run rest : Text) :
    (ofRun run rest).1.form.isMeaningful = true := by
  unfold ofRun
  split
  · rfl
  · split <;> rfl

theorem isMeaningful_next {first : Char} (noBlank : Text.isBlank first = false)
    (rest : Text) : (next first rest).1.form.isMeaningful = true := by
  unfold next
  split
  next blank => simp [noBlank] at blank
  next =>
    split
    · rfl
    · split
      · rfl
      · split
        · rfl
        · exact isMeaningful_ofRun _ _

private theorem next_form_ne_finish (first : Char) (rest : Text) :
    (next first rest).1.form ≠ .finish := by
  cases blank : Text.isBlank first with
  | true => simp [next, blank]
  | false =>
      intro finish
      have counts := isMeaningful_next blank rest
      rw [finish] at counts
      cases counts

/-- No lexeme of a text is empty, and none of them is its end. -/
theorem isPiece_of_mem_scan {text : Text} {lexeme : Lexeme}
    (member : lexeme ∈ scan text) :
    lexeme.form ≠ .finish ∧ lexeme.text ≠ [] := by
  fun_induction scan text with
  | case1 => cases member
  | case2 first rest ih =>
      rcases List.mem_cons.mp member with rfl | later
      · exact ⟨next_form_ne_finish first rest, next_text_ne_nil first rest⟩
      · exact ih later

/-- The lexemes at their positions, without the end of the query. -/
def placed : (start : Nat) → List Lexeme → List Token
  | _, [] => []
  | start, lexeme :: rest =>
      ⟨lexeme, start⟩ :: placed (start + lexeme.text.length) rest

theorem place_eq (start : Nat) (lexemes : List Lexeme) :
    place start lexemes = placed start lexemes ++
      [⟨⟨.finish, []⟩, start + (joined lexemes).length⟩] := by
  induction lexemes generalizing start with
  | nil => rfl
  | cons lexeme rest ih => simp [place, placed, ih, Nat.add_assoc]

/-- Where placed lexemes are cut at a token, the lexemes are cut as well, and
the token stands behind the text of those before it. -/
theorem placed_eq_append_cons {start : Nat} {lexemes : List Lexeme}
    {left right : List Token} {token : Token}
    (split : placed start lexemes = left ++ token :: right) :
    ∃ before after, lexemes = before ++ token.toLexeme :: after ∧
      token.position = start + (joined before).length ∧
      left = placed start before ∧ right = placed token.stop after := by
  induction left generalizing start lexemes with
  | nil =>
      cases lexemes with
      | nil => cases split
      | cons lexeme rest =>
          cases split
          exact ⟨[], rest, rfl, rfl, rfl, rfl⟩
  | cons earlier left ih =>
      cases lexemes with
      | nil => cases split
      | cons lexeme rest =>
          simp only [placed, List.cons_append, List.cons.injEq] at split
          obtain ⟨rfl, split⟩ := split
          obtain ⟨before, after, rfl, position, rfl, rfl⟩ := ih split
          refine ⟨lexeme :: before, after, rfl, ?_, rfl, rfl⟩
          rw [position, joined_cons, List.length_append, Nat.add_assoc]

/-- Placing keeps the lexemes. -/
theorem map_toLexeme_placed (start : Nat) (lexemes : List Lexeme) :
    (placed start lexemes).map Token.toLexeme = lexemes := by
  induction lexemes generalizing start with
  | nil => rfl
  | cons lexeme rest ih => rw [placed, List.map_cons, ih]

theorem placed_append (start : Nat) (left right : List Lexeme) :
    placed start (left ++ right) =
      placed start left ++ placed (start + (joined left).length) right := by
  induction left generalizing start with
  | nil => rfl
  | cons lexeme rest ih =>
      rw [List.cons_append, placed, placed, ih, joined_cons, List.length_append,
        Nat.add_assoc, List.cons_append]

theorem placed_eq_append {start : Nat} {lexemes : List Lexeme}
    {left right : List Token} (split : placed start lexemes = left ++ right) :
    ∃ before after, lexemes = before ++ after ∧ left = placed start before ∧
      right = placed (start + (joined before).length) after := by
  have cut : lexemes = left.map Token.toLexeme ++ right.map Token.toLexeme := by
    rw [← List.map_append, ← split, map_toLexeme_placed]
  have again := placed_append start (left.map Token.toLexeme)
    (right.map Token.toLexeme)
  rw [← cut, split] at again
  obtain ⟨isLeft, isRight⟩ := List.append_inj again (by
    rw [← List.length_map Token.toLexeme, ← List.length_map Token.toLexeme,
      map_toLexeme_placed])
  exact ⟨_, _, cut, isLeft, isRight⟩

theorem position_of_first_placed {start : Nat} {lexemes : List Lexeme}
    {first : Token} (isFirst : first ∈ (placed start lexemes).head?) :
    first.position = start := by
  cases lexemes with
  | nil => cases isFirst
  | cons lexeme rest =>
      rw [← Option.some.inj isFirst]

theorem stop_of_last_placed {start : Nat} {lexemes : List Lexeme}
    {last : Token} (isLast : last ∈ (placed start lexemes).getLast?) :
    last.stop = start + (joined lexemes).length := by
  induction lexemes generalizing start with
  | nil => cases isLast
  | cons lexeme rest ih =>
      cases rest with
      | nil =>
          have same : ⟨lexeme, start⟩ = last := Option.some.inj isLast
          rw [← same]
          simp [Token.stop, Token.length]
      | cons second rest =>
          have behind : last ∈ (placed (start + lexeme.text.length)
              (second :: rest)).getLast? := by
            simpa [placed, List.getLast?_cons_cons] using isLast
          rw [ih behind, joined_cons lexeme, List.length_append, Nat.add_assoc]

private theorem isChain_placed (start : Nat) (lexemes : List Lexeme) :
    (placed start lexemes).IsChain fun earlier later =>
      later.position = earlier.stop := by
  induction lexemes generalizing start with
  | nil => exact List.IsChain.nil
  | cons lexeme rest ih =>
      rw [placed, List.isChain_cons]
      refine ⟨?_, ih _⟩
      intro later isLater
      cases rest with
      | nil => cases isLater
      | cons second rest =>
          rw [← Option.some.inj isLater]
          rfl

end Lexeme

namespace Token

/-- The tokens of a text without the end of the query. -/
def pieces (text : Text) : List Token := Lexeme.placed 0 (Lexeme.scan text)

theorem read_eq (text : Text) :
    read text = pieces text ++ [⟨⟨.finish, []⟩, text.length⟩] := by
  rw [read, Lexeme.place_eq, Lexeme.joined_scan, Nat.zero_add, pieces]

/-- A piece lies in the text between the pieces before it and those after
it. -/
theorem pieces_eq_append_cons {text : Text} {left right : List Token}
    {token : Token} (split : pieces text = left ++ token :: right) :
    ∃ before after,
      Lexeme.scan text = before ++ token.toLexeme :: after ∧
      text = Lexeme.joined before ++ (token.text ++ Lexeme.joined after) ∧
      token.position = (Lexeme.joined before).length ∧
      right = Lexeme.placed token.stop after := by
  obtain ⟨before, after, scanned, position, _, later⟩ :=
    Lexeme.placed_eq_append_cons split
  refine ⟨before, after, scanned, ?_, by simpa using position, later⟩
  have whole := Lexeme.joined_scan text
  rw [scanned] at whole
  simpa using whole.symm

theorem isPiece_of_mem_pieces {text : Text} {token : Token}
    (member : token ∈ pieces text) :
    token.form ≠ .finish ∧ token.text ≠ [] ∧
      Text.slice text token.position token.stop = token.text := by
  obtain ⟨left, right, split⟩ := List.append_of_mem member
  obtain ⟨before, after, scanned, whole, position, _⟩ :=
    pieces_eq_append_cons split
  have inScan : token.toLexeme ∈ Lexeme.scan text := by simp [scanned]
  obtain ⟨noFinish, nonempty⟩ := Lexeme.isPiece_of_mem_scan inScan
  refine ⟨noFinish, nonempty, ?_⟩
  rw [whole]
  exact Text.slice_middle position rfl

theorem stop_eq_of_last_piece {text : Text} {last : Token}
    (isLast : last ∈ (pieces text).getLast?) : last.stop = text.length := by
  rw [Lexeme.stop_of_last_placed isLast, Lexeme.joined_scan, Nat.zero_add]

theorem pairwise_pieces (text : Text) :
    (pieces text).Pairwise fun earlier later =>
      earlier.stop ≤ later.position := by
  have chain : (pieces text).IsChain fun earlier later =>
      earlier.stop ≤ later.position :=
    (Lexeme.isChain_placed 0 (Lexeme.scan text)).imp
      fun _ _ adjacent => Nat.le_of_eq adjacent.symm
  have follows : ∀ first second third : Token,
      first.stop ≤ second.position → second.stop ≤ third.position →
        first.stop ≤ third.position := fun first second third before after =>
    calc first.stop
      _ ≤ second.position := before
      _ ≤ second.stop := Nat.le_add_right _ _
      _ ≤ third.position := after
  have : IsTrans Token fun earlier later => earlier.stop ≤ later.position :=
    ⟨follows⟩
  exact chain.pairwise

theorem meaningful_read (text : Text) :
    meaningful (read text) = meaningful (pieces text) := by
  simp [read_eq, meaningful, isMeaningful, Form.isMeaningful]

/-- The tokens of a text cut it into pieces: they end with one that marks the
end of the text, and those before it are non-empty, follow one another without
a gap from the start of the text to its end and have the text between their
ends. -/
theorem read_partition (text : Text) :
    ∃ pieces : List Token,
      read text = pieces ++ [⟨⟨.finish, []⟩, text.length⟩] ∧
      (∀ piece ∈ pieces, piece.form ≠ .finish ∧ piece.text ≠ [] ∧
        Text.slice text piece.position piece.stop = piece.text) ∧
      (∀ first ∈ (read text).head?, first.position = 0) ∧
      (read text).IsChain (fun earlier later =>
        later.position = earlier.stop) ∧
      ∀ last ∈ pieces.getLast?, last.stop = text.length := by
  refine ⟨pieces text, read_eq text, fun piece => isPiece_of_mem_pieces,
    ?_, ?_, fun last => stop_eq_of_last_piece⟩
  · intro first isFirst
    cases scanned : Lexeme.scan text with
    | nil =>
        rw [read, scanned] at isFirst
        exact congrArg Token.position (Option.some.inj isFirst).symm
    | cons lexeme rest =>
        rw [read, scanned] at isFirst
        exact congrArg Token.position (Option.some.inj isFirst).symm
  · rw [read_eq, List.isChain_append]
    refine ⟨Lexeme.isChain_placed 0 _, List.isChain_singleton _, ?_⟩
    intro last isLast finish isFinish
    rw [stop_eq_of_last_piece isLast, ← Option.some.inj isFinish]

end Token

end CardQuery
