import CardQuery.Proofs.Search.Counted

/-!
# Queries joined by a blank

A blank ends whatever stands in front of it except an open phrase, and nothing
that is read looks past it.  Two queries joined by a blank are therefore read
one after the other, as long as no phrase of the first one is open: neither does
a condition at its end take a phrase at the start of the second one as its
value, nor do the halves of a symbol on both sides become one.  The tokens of
the second query only stand further back.
-/

namespace CardQuery

/-- The token of a query that starts further back. -/
def Token.moved (distance : Nat) (token : Token) : Token :=
  { token with position := token.position + distance }

namespace Lexeme

private theorem placed_add (start distance : Nat) (lexemes : List Lexeme) :
    placed (start + distance) lexemes =
      (placed start lexemes).map (Token.moved distance) := by
  induction lexemes generalizing start with
  | nil => rfl
  | cons lexeme rest ih =>
      rw [placed, placed, List.map_cons, ← ih, Nat.add_right_comm]
      rfl

private theorem countedFrom_add (start distance : Nat) (text : Text) :
    countedFrom (start + distance) text =
      (countedFrom start text).map (Token.moved distance) := by
  rw [countedFrom, placed_add, Token.meaningful, List.filter_map]
  rfl

end Lexeme

/-- No quote is open behind a text exactly if no token of it is an open phrase
or has one as its value. -/
theorem Quotation.isBalanced_iff_read {text : Text} :
    IsBalanced text ↔
      ∀ token ∈ Token.read text, ∀ quote, ¬ token.LeavesOpen quote := by
  rw [isBalanced_iff]
  constructor
  · intro closed token member quote leaves
    have isOpen := leaves.openQuote?_eq
    rw [Token.read_eq, List.mem_append, List.mem_singleton] at member
    rcases member with isPiece | rfl
    · have inScan : token.toLexeme ∈ Lexeme.scan text := by
        rw [← Lexeme.map_toLexeme_placed 0 (Lexeme.scan text)]
        exact List.mem_map_of_mem isPiece
      rw [Token.openQuote?,
        Lexeme.openQuote?_eq_none_of_mem_scan closed inScan] at isOpen
      cases isOpen
    · cases leaves
  · intro closed
    by_contra unbalanced
    obtain ⟨quote, isOpen⟩ := Option.ne_none_iff_exists'.mp unbalanced
    rw [openQuote?_eq_last] at isOpen
    obtain ⟨last, isLast, isQuote⟩ := Option.bind_eq_some_iff.mp isOpen
    have isPiece := List.mem_of_getLast? isLast
    refine closed last ?_ quote
      (Token.leavesOpen_of_openQuote? isPiece isQuote).2
    rw [Token.read_eq]
    exact List.mem_append_left _ isPiece

namespace Token

/-- If no phrase of a query is open, then a query behind it and a blank adds its
tokens that count, further back by what stands in front of it. -/
theorem meaningful_read_spaced {text : Text}
    (closed : ∀ token ∈ read text, ∀ quote, ¬ token.LeavesOpen quote)
    (after : Text) :
    meaningful (read (text ++ ' ' :: after)) =
      meaningful (read text) ++
        (meaningful (read after)).map (moved (text.length + 1)) := by
  have balanced := Quotation.isBalanced_iff_read.mpr closed
  have behind : Lexeme.countedFrom (0 + text.length) (' ' :: after) =
      (Lexeme.countedFrom 0 after).map (moved (text.length + 1)) := by
    have isBlank : ∀ character ∈ [' '], Text.isBlank character = true :=
      List.forall_mem_singleton.mpr (by decide)
    calc Lexeme.countedFrom (0 + text.length) ([' '] ++ after)
      _ = Lexeme.countedFrom (0 + text.length + 1) after :=
        Lexeme.countedFrom_blanks isBlank _ after
      _ = _ := by rw [Nat.add_assoc, Lexeme.countedFrom_add]
  simp only [meaningful_read_eq]
  rw [Lexeme.countedFrom_append balanced (Lexeme.separates_blank after), behind]

/-- A condition without a value does not take the phrase behind the blank. -/
theorem meaningful_read_spaced_without_value :
    let text : Text := "o:\"draw\" c:"
    let after : Text := "\"red\""
    (∀ token ∈ read text, ∀ quote, ¬ token.LeavesOpen quote) ∧
      meaningful (read (text ++ ' ' :: after)) =
        meaningful (read text) ++ (meaningful (read after)).map (moved 12) := by
  intro text after
  have closed : ∀ token ∈ read text, ∀ quote, ¬ token.LeavesOpen quote :=
    Quotation.isBalanced_iff_read.mp (Quotation.isBalanced_iff.mpr (by decide))
  exact ⟨closed, meaningful_read_spaced closed after⟩

/-- An open phrase takes the blank and what is behind it. -/
example : (meaningful (read "o:\"draw x")).map (·.text) =
    ["o:\"draw x".toList] := by
  decide +kernel

end Token

end CardQuery
