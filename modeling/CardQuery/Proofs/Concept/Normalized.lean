import CardQuery.Concept.Wording
import CardQuery.Proofs.Text.SmallLetters
import Mathlib.Data.List.Chain

/-!
# Normalized texts

Normalizing writes a text in small letters, replaces characters and joins the
words that are left, and each of these steps could undo what an earlier one has
done.  None does: a replacement is a hyphen or a blank, which have no case, and
what is left of the text in small letters is not changed by small letters.  The
words of a normalized text therefore consist of characters that stay as they
are, and normalizing it again finds the same words.
-/

namespace CardQuery

namespace Text

/-- One blank stands between two words, and no other blank is in the text. -/
structure IsSingleSpaced (text : Text) : Prop where
  starts : ∀ first ∈ text.head?, isBlank first = false
  ends : ∀ last ∈ text.getLast?, isBlank last = false
  single : text.IsChain fun first second =>
    isBlank first = true → isBlank second = false
  plain : ∀ character ∈ text, isBlank character = true → character = ' '

private theorem isSingleSpaced_of_noBlank {word : Text}
    (noBlank : ∀ character ∈ word, isBlank character = false) :
    IsSingleSpaced word where
  starts first isFirst := noBlank first (List.mem_of_mem_head? isFirst)
  ends last isLast := noBlank last (List.mem_of_getLast? isLast)
  single := by
    refine (List.pairwise_of_forall_mem_list ?_).isChain
    intro _ _ second isSecond _
    exact noBlank second isSecond
  plain character member blank := by
    rw [noBlank character member] at blank
    cases blank

private theorem IsSingleSpaced.behind_word {word text : Text}
    (spaced : IsSingleSpaced text) (nonempty : text ≠ [])
    (wordNonempty : word ≠ [])
    (noBlank : ∀ character ∈ word, isBlank character = false) :
    IsSingleSpaced (word ++ ' ' :: text) where
  starts first isFirst := by
    rw [List.head?_append_of_ne_nil _ wordNonempty] at isFirst
    exact noBlank first (List.mem_of_mem_head? isFirst)
  ends last isLast := by
    rw [List.getLast?_append_cons, List.getLast?_cons_of_ne_nil nonempty] at isLast
    exact spaced.ends last isLast
  single := by
    refine (isSingleSpaced_of_noBlank noBlank).single.append
      (spaced.single.cons fun first isFirst _ => spaced.starts first isFirst) ?_
    intro last isLast _ _ blank
    rw [noBlank last (List.mem_of_getLast? isLast)] at blank
    cases blank
  plain character member blank := by
    rcases List.mem_append.mp member with inWord | inRest
    · rw [noBlank character inWord] at blank
      cases blank
    · rcases List.mem_cons.mp inRest with isBlank | inText
      · exact isBlank
      · exact spaced.plain character inText blank

theorem join_ne_nil {first : Text} (nonempty : first ≠ []) (rest : List Text) :
    join " " (first :: rest) ≠ [] := by
  by_cases isLast : rest = []
  · rw [isLast]
    simpa [join] using nonempty
  · rw [join_cons_of_ne_nil first isLast]
    exact List.append_ne_nil_of_left_ne_nil nonempty _

private theorem isSingleSpaced_join {parts : List Text}
    (areWords : AreWords parts) :
    IsSingleSpaced (join " " parts) := by
  induction parts with
  | nil => exact isSingleSpaced_of_noBlank nofun
  | cons first rest ih =>
      obtain ⟨⟨nonempty, noBlank⟩, ofRest⟩ := List.forall_mem_cons.mp areWords
      cases rest with
      | nil =>
          have single : join " " [first] = first := by simp [join]
          rw [single]
          exact isSingleSpaced_of_noBlank noBlank
      | cons second rest =>
          have later := join_ne_nil (ofRest second List.mem_cons_self).1 rest
          rw [join_cons_of_ne_nil first (List.cons_ne_nil _ _)]
          exact (ih ofRest).behind_word later nonempty noBlank

private theorem dropWhile_isBlank_eq_self {text : Text}
    (starts : ∀ first ∈ text.head?, isBlank first = false) :
    text.dropWhile isBlank = text := by
  cases text with
  | nil => rfl
  | cons first rest => simp [starts first rfl]

private theorem IsSingleSpaced.strip_eq {text : Text}
    (spaced : IsSingleSpaced text) :
    strip text = text := by
  have ends : ∀ last ∈ text.reverse.head?, isBlank last = false := by
    rw [List.head?_reverse]
    exact spaced.ends
  rw [strip, stripStart, dropWhile_isBlank_eq_self spaced.starts, stripEnd,
    dropWhile_isBlank_eq_self ends, List.reverse_reverse]

private theorem mem_join {parts : List Text} {character : Char}
    (member : character ∈ join " " parts) :
    character = ' ' ∨ ∃ part ∈ parts, character ∈ part := by
  induction parts with
  | nil => cases member
  | cons first rest ih =>
      by_cases isLast : rest = []
      · right
        exact ⟨first, List.mem_cons_self, by simpa [isLast, join] using member⟩
      · rw [join_cons_of_ne_nil first isLast, List.mem_append,
          List.mem_cons] at member
        rcases member with inFirst | isBlank | inRest
        · exact Or.inr ⟨first, List.mem_cons_self, inFirst⟩
        · exact Or.inl isBlank
        · refine (ih inRest).imp_right ?_
          rintro ⟨part, isPart, inPart⟩
          exact ⟨part, List.mem_cons_of_mem _ isPart, inPart⟩

private theorem mem_of_mem_words {text word : Text}
    (isWord : word ∈ words text) :
    ∀ character ∈ word, character ∈ text := by
  induction text generalizing word with
  | nil => simp [words] at isWord
  | cons first rest ih =>
      unfold words at isWord
      grind

end Text

namespace Wording

open Text

/-- Whether normalizing leaves the character as it is, wherever it stands. -/
def isSettled (character : Char) : Bool :=
  isKept character && isSteady character

private theorem soften_of_isKept {character : Char}
    (kept : isKept character = true) :
    soften character = character := by
  have noDash : (character == '—' || character == '–') = false := by
    rw [Bool.eq_false_iff, Ne, Bool.or_eq_true, beq_iff_eq, beq_iff_eq]
    rintro (rfl | rfl)
    · exact absurd kept (by decide +kernel)
    · exact absurd kept (by decide +kernel)
  rw [soften, noDash, if_neg (by simp), if_pos kept]

private theorem isSettled_soften {character : Char}
    (steady : isSteady character = true)
    (noBlank : isBlank (soften character) = false) :
    isSettled (soften character) = true := by
  unfold soften at noBlank ⊢
  split
  · decide
  · split
    next kept => rw [isSettled, kept, steady]; rfl
    next => simp_all [show isBlank ' ' = true by decide]

/-- The words of a text that normalizing joins. -/
def keptWords (text : Text) : List Text :=
  words ((lower (strip text)).map soften)

private theorem normalize_eq (text : Text) :
    normalize text = join " " (keptWords text) := rfl

private theorem isSettled_of_mem_keptWords {text word : Text}
    (isWord : word ∈ keptWords text) :
    ∀ character ∈ word, isSettled character = true := by
  intro character member
  have noBlank := not_isBlank_of_mem_words isWord character member
  obtain ⟨small, isSmall, rfl⟩ :=
    List.mem_map.mp (mem_of_mem_words isWord character member)
  exact isSettled_soften (isSteady_of_mem_lower isSmall) noBlank

private theorem isSettled_of_mem_normalize {text : Text} {character : Char}
    (member : character ∈ normalize text) :
    character = ' ' ∨ isSettled character = true := by
  refine (mem_join member).imp_right ?_
  rintro ⟨word, isWord, inWord⟩
  exact isSettled_of_mem_keptWords isWord character inWord

/-- A text with one blank between its words is normalized if all its other
characters are settled. -/
theorem normalize_eq_self {parts : List Text} (areWords : AreWords parts)
    (settled : ∀ character ∈ join " " parts,
      character = ' ' ∨ isSettled character = true) :
    normalize (join " " parts) = join " " parts := by
  have steady : (join " " parts).all isSteady = true := by
    rw [List.all_eq_true]
    intro character member
    rcases settled character member with rfl | isSettled
    · decide
    · exact (Bool.and_eq_true_iff.mp isSettled).2
  have softened : (join " " parts).map soften = join " " parts := by
    conv => rhs; rw [← List.map_id (join " " parts)]
    apply List.map_congr_left
    intro character member
    rcases settled character member with rfl | isSettled
    · decide
    · exact soften_of_isKept (Bool.and_eq_true_iff.mp isSettled).1
  rw [normalize_eq, keptWords, (isSingleSpaced_join areWords).strip_eq,
    lower_of_isSteady steady, softened, words_join areWords]

/-- A normalized text has one blank between its words, no other blank, and of
other characters word characters and five marks alone.  Normalizing it again
leaves it as it is. -/
theorem normalize_isCanonical (text : Text) :
    IsSingleSpaced (normalize text) ∧
      (∀ character ∈ normalize text, isBlank character = false →
        isWord character = true ∨ character ∈ ['$', '€', '.', '/', '-']) ∧
      normalize (normalize text) = normalize text := by
  have areWords : AreWords (keptWords text) := areWords_words _
  refine ⟨isSingleSpaced_join areWords, ?_, ?_⟩
  · intro character member noBlank
    rcases isSettled_of_mem_normalize member with rfl | settled
    · cases noBlank
    · have kept := (Bool.and_eq_true_iff.mp settled).1
      exact (Bool.or_eq_true_iff.mp kept).imp_right List.contains_iff_mem.mp
  · exact normalize_eq_self areWords fun _ => isSettled_of_mem_normalize

example : normalize " Mono—RED:  “İzzet”, $5.50!" =
    "mono-red i zzet $5.50".toList := by
  decide +kernel

end Wording

end CardQuery
