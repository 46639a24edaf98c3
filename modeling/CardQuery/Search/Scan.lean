import CardQuery.Search.Token
import CardQuery.Text.Blank

/-!
# Reading a query

`Token.read` cuts a query into tokens from left to right.  Blank runs, brackets
and quoted phrases are recognised by their first character; everything else is a
run, which ends before a blank, a bracket, a quote, `&&` or `||`.  A run is a
connective, a condition or a bare word, and a condition without a value takes a
quoted phrase that touches it as its value.  Reading never fails: an open phrase
runs to the end of the query.

Each step gives the text that it leaves, and that text is shorter than the one
it was given.
-/

namespace CardQuery

/-- A phrase read after its opening quote: its value with escapes resolved, its
text with the closing quote, and the text after it. -/
structure PhraseRead where
  value : Text
  text : Text
  rest : Text
  closed : Bool

namespace PhraseRead

/-- The phrase with characters written before it. -/
def extend (written : Text) (value : Char) (phrase : PhraseRead) : PhraseRead :=
  { phrase with value := value :: phrase.value, text := written ++ phrase.text }

/-- Reads a phrase after its opening quote.  A backslash takes the next
character as it is; at the end of the text it stands for itself. -/
def read : Text → PhraseRead
  | [] => ⟨[], [], [], false⟩
  | '\\' :: escaped :: rest => (read rest).extend ['\\', escaped] escaped
  | first :: rest =>
      if first = '"' then ⟨[], ['"'], rest, true⟩
      else (read rest).extend [first] first

theorem text_append_rest (text : Text) :
    (read text).text ++ (read text).rest = text := by
  fun_induction read text <;> simp_all [extend]

end PhraseRead

namespace Lexeme

def startsSymbol (text : Text) : Bool :=
  "&&".toList.isPrefixOf text || "||".toList.isPrefixOf text

def endsRun (character : Char) : Bool :=
  Text.isBlank character || character == '(' || character == ')' ||
    character == '"'

/-- The longest start of the text that holds no end of a run, and the text after
it. -/
def spanRun : Text → Text × Text
  | [] => ([], [])
  | first :: rest =>
      if endsRun first || startsSymbol (first :: rest) then ([], first :: rest)
      else (first :: (spanRun rest).1, (spanRun rest).2)

/-- The run at the start of a text, which is a symbol if the text starts with
one. -/
def readRun (text : Text) : Text × Text :=
  if startsSymbol text then (text.take 2, text.drop 2) else spanRun text

/-- The lexeme of a run and the text that it leaves. -/
def ofRun (run rest : Text) : Lexeme × Text :=
  match Connective.ofWord? run with
  | some connective => (⟨.connective connective, run⟩, rest)
  | none =>
      match Head.read? run, rest with
      | none, rest => (⟨.word, run⟩, rest)
      | some (head, []), '"' :: later =>
          let phrase := PhraseRead.read later
          (⟨.condition { head with value := phrase.value, quoted := true },
            run ++ '"' :: phrase.text⟩, phrase.rest)
      | some (head, value), rest =>
          (⟨.condition { head with value, quoted := false }, run⟩, rest)

/-- The first lexeme of a text that is not empty and the text that it leaves. -/
def next (first : Char) (rest : Text) : Lexeme × Text :=
  if Text.isBlank first then
    (⟨.blank, first :: rest.takeWhile Text.isBlank⟩,
     rest.dropWhile Text.isBlank)
  else if first = '"' then
    let phrase := PhraseRead.read rest
    (⟨.phrase phrase.value phrase.closed, '"' :: phrase.text⟩, phrase.rest)
  else if first = '(' then (⟨.bracket true, ['(']⟩, rest)
  else if first = ')' then (⟨.bracket false, [')']⟩, rest)
  else ofRun (readRun (first :: rest)).1 (readRun (first :: rest)).2

theorem spanRun_append (text : Text) :
    (spanRun text).1 ++ (spanRun text).2 = text := by
  fun_induction spanRun text <;> simp_all

theorem readRun_append (text : Text) :
    (readRun text).1 ++ (readRun text).2 = text := by
  unfold readRun
  split
  · exact List.take_append_drop 2 text
  · exact spanRun_append text

theorem ofRun_append (run rest : Text) :
    (ofRun run rest).1.text ++ (ofRun run rest).2 = run ++ rest := by
  unfold ofRun
  split
  · rfl
  · split <;> simp [PhraseRead.text_append_rest]

theorem next_append (first : Char) (rest : Text) :
    (next first rest).1.text ++ (next first rest).2 = first :: rest := by
  unfold next
  split
  · simp
  · split
    · simp_all [PhraseRead.text_append_rest]
    · split
      · simp_all
      · split
        · simp_all
        · rw [ofRun_append, readRun_append]

theorem readRun_ne_nil {first : Char} (rest : Text)
    (starts : endsRun first = false) : (readRun (first :: rest)).1 ≠ [] := by
  unfold readRun
  split
  · simp
  · simp_all [spanRun]

theorem ofRun_text_ne_nil {run : Text} (rest : Text) (nonempty : run ≠ []) :
    (ofRun run rest).1.text ≠ [] := by
  unfold ofRun
  split
  · exact nonempty
  · split <;> simp [nonempty]

theorem next_text_ne_nil (first : Char) (rest : Text) :
    (next first rest).1.text ≠ [] := by
  unfold next
  split
  · simp
  · split
    · simp
    · split
      · simp
      · split
        · simp
        · exact ofRun_text_ne_nil _
            (readRun_ne_nil rest (by simp_all [endsRun]))

theorem length_next_lt (first : Char) (rest : Text) :
    (next first rest).2.length < (first :: rest).length := by
  have whole := congrArg List.length (next_append first rest)
  have nonempty := List.length_pos_iff.mpr (next_text_ne_nil first rest)
  rw [List.length_append] at whole
  omega

def scan : Text → List Lexeme
  | [] => []
  | first :: rest => (next first rest).1 :: scan (next first rest).2
termination_by text => text.length
decreasing_by exact length_next_lt first rest

/-- The lexemes at their positions, the first of them at `start`, and the end of
the query. -/
def place (start : Nat) : List Lexeme → List Token
  | [] => [⟨⟨.finish, []⟩, start⟩]
  | lexeme :: rest => ⟨lexeme, start⟩ :: place (start + lexeme.text.length) rest

end Lexeme

def Token.read (text : Text) : List Token := Lexeme.place 0 (Lexeme.scan text)

end CardQuery
