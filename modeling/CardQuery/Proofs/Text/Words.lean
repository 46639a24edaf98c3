import CardQuery.Text.Blank

/-!
# Words of a text

A blank belongs to no word and no word goes beyond it.  The words of a text are
therefore those in front of a blank and those behind it, and a text without
blanks is one word.  Words that are joined by blanks are the words of what they
are joined to, and a phrase stands in as many words of a text as it has itself.
-/

namespace CardQuery.Text

theorem words_ne_nil {text : Text} {character : Char}
    (member : character ∈ text) (noBlank : isBlank character = false) :
    words text ≠ [] := by
  induction text with
  | nil => cases member
  | cons first rest ih =>
      unfold words
      split
      next blank =>
        rcases List.mem_cons.mp member with rfl | later
        · simp [noBlank] at blank
        · exact ih later
      next =>
        split
        · split <;> simp
        · simp

private theorem words_of_blank {first : Char} (blank : isBlank first = true)
    (rest : Text) : words (first :: rest) = words rest := by
  simp [words, blank]

private theorem words_of_blank_behind {first second : Char}
    (noBlank : isBlank first = false) (blank : isBlank second = true)
    (rest : Text) :
    words (first :: second :: rest) = [first] :: words (second :: rest) := by
  rw [words.eq_def]
  dsimp only
  cases words (second :: rest) <;> simp [noBlank, blank]

private theorem words_of_noBlank_behind {first second : Char}
    (noBlank : isBlank first = false) (goesOn : isBlank second = false)
    {rest word : Text} {later : List Text}
    (inner : words (second :: rest) = word :: later) :
    words (first :: second :: rest) = (first :: word) :: later := by
  rw [words.eq_def]
  dsimp only
  rw [inner]
  simp [noBlank, goesOn]

theorem words_append_of_blank {character : Char}
    (blank : isBlank character = true) (before after : Text) :
    words (before ++ character :: after) = words before ++ words after := by
  induction before with
  | nil => rw [List.nil_append, words_of_blank blank]; rfl
  | cons first rest ih =>
      cases isFirst : isBlank first with
      | true =>
          rw [List.cons_append, words_of_blank isFirst, words_of_blank isFirst,
            ih]
      | false =>
          cases rest with
          | nil =>
              have single : words [first] = [[first]] := by
                simp [words, isFirst]
              rw [List.cons_append, List.nil_append,
                words_of_blank_behind isFirst blank, words_of_blank blank,
                single]
              rfl
          | cons second rest =>
              rw [List.cons_append] at ih
              rw [List.cons_append, List.cons_append]
              cases isSecond : isBlank second with
              | true =>
                  rw [words_of_blank_behind isFirst isSecond,
                    words_of_blank_behind isFirst isSecond, ih,
                    List.cons_append]
              | false =>
                  obtain ⟨word, later, inner⟩ := List.exists_cons_of_ne_nil
                    (words_ne_nil (List.mem_cons_self : second ∈ second :: rest)
                      isSecond)
                  rw [inner, List.cons_append] at ih
                  rw [words_of_noBlank_behind isFirst isSecond inner,
                    words_of_noBlank_behind isFirst isSecond ih,
                    List.cons_append]

theorem words_of_noBlank {word : Text} (nonempty : word ≠ [])
    (noBlank : ∀ character ∈ word, isBlank character = false) :
    words word = [word] := by
  induction word with
  | nil => contradiction
  | cons first rest ih =>
      have isFirst := noBlank first List.mem_cons_self
      cases rest with
      | nil => simp [words, isFirst]
      | cons second rest =>
          have inner := ih (by simp) fun character member =>
            noBlank character (List.mem_cons_of_mem first member)
          have isSecond := noBlank second
            (List.mem_cons_of_mem first List.mem_cons_self)
          exact words_of_noBlank_behind isFirst isSecond inner

theorem getLast?_words {text word : Text}
    (apart : ∀ last ∈ text.getLast?, isBlank last = true) (nonempty : word ≠ [])
    (noBlank : ∀ character ∈ word, isBlank character = false) :
    (words (text ++ word)).getLast? = some word := by
  have single := words_of_noBlank nonempty noBlank
  rcases List.eq_nil_or_concat text with rfl | ⟨front, last, rfl⟩
  · rw [List.nil_append, single]
    rfl
  · have isLast : last ∈ (front.concat last).getLast? := by
      rw [List.concat_eq_append, List.getLast?_concat]
      rfl
    have blank := apart last isLast
    rw [List.concat_eq_append, List.append_assoc, List.singleton_append,
      words_append_of_blank blank, single, List.getLast?_concat]

/-- What a list of words consists of: texts with characters, none of them a
blank. -/
def AreWords (parts : List Text) : Prop :=
  ∀ part ∈ parts, part ≠ [] ∧ ∀ character ∈ part, isBlank character = false

theorem areWords_words (text : Text) : AreWords (words text) :=
  fun _ member => ⟨mem_words_ne_nil member, not_isBlank_of_mem_words member⟩

theorem join_cons_of_ne_nil (first : Text) {parts : List Text}
    (nonempty : parts ≠ []) :
    join " " (first :: parts) = first ++ ' ' :: join " " parts := by
  simp [join, List.intercalate_cons_of_ne_nil, nonempty]

theorem join_blank_cons_cons (character : Char) (first : Text)
    (parts : List Text) :
    join " " ((character :: first) :: parts) =
      character :: join " " (first :: parts) := by
  cases parts with
  | nil => simp [join]
  | cons second parts =>
      rw [join_cons_of_ne_nil _ (List.cons_ne_nil _ _),
        join_cons_of_ne_nil _ (List.cons_ne_nil _ _)]
      rfl

theorem join_append_of_ne_nil {parts others : List Text}
    (nonempty : parts ≠ []) (othersNonempty : others ≠ []) :
    join " " (parts ++ others) =
      join " " parts ++ ' ' :: join " " others := by
  induction parts with
  | nil => contradiction
  | cons first rest ih =>
      by_cases single : rest = []
      · rw [single, List.singleton_append,
          join_cons_of_ne_nil first othersNonempty]
        simp [join]
      · rw [List.cons_append, join_cons_of_ne_nil first (by simp [single]),
          ih single, join_cons_of_ne_nil first single]
        simp

theorem join_infix_join {run parts : List Text} (consecutive : run <:+: parts) :
    join " " run <:+: join " " parts := by
  obtain ⟨before, after, rfl⟩ := consecutive
  by_cases none : run = []
  · rw [none]
    exact List.nil_infix
  · have behind : join " " run <+: join " " (run ++ after) := by
      by_cases last : after = []
      · simp [last]
      · rw [join_append_of_ne_nil none last]
        exact List.prefix_append _ _
    rw [List.append_assoc]
    by_cases isFirst : before = []
    · rw [isFirst, List.nil_append]
      exact behind.isInfix
    · rw [join_append_of_ne_nil isFirst (by simp [none]),
        ← List.singleton_append, ← List.append_assoc]
      exact behind.isInfix.trans (List.suffix_append _ _).isInfix

/-- The words of joined words are the words themselves. -/
theorem words_join {parts : List Text} (areWords : AreWords parts) :
    words (join " " parts) = parts := by
  induction parts with
  | nil => rfl
  | cons first rest ih =>
      obtain ⟨⟨nonempty, noBlank⟩, ofRest⟩ := List.forall_mem_cons.mp areWords
      have single := words_of_noBlank nonempty noBlank
      by_cases isLast : rest = []
      · rw [isLast]
        simpa [join] using single
      · rw [join_cons_of_ne_nil first isLast,
          words_append_of_blank (by decide), single, ih ofRest]
        rfl

private theorem words_append_of_noBlank {part : Text} (nonempty : part ≠ [])
    (noBlank : ∀ character ∈ part, isBlank character = false) (after : Text) :
    ∃ more others, words (part ++ after) = (part ++ more) :: others := by
  induction part with
  | nil => contradiction
  | cons first part ih =>
      obtain ⟨isFirst, ofPart⟩ := List.forall_mem_cons.mp noBlank
      by_cases isLast : part = []
      · rw [isLast, List.singleton_append]
        cases after with
        | nil =>
            exact ⟨[], [], words_of_noBlank (List.cons_ne_nil _ _)
              (List.forall_mem_singleton.mpr isFirst)⟩
        | cons second rest =>
            cases isSecond : isBlank second with
            | true =>
                exact ⟨[], _, words_of_blank_behind isFirst isSecond rest⟩
            | false =>
                obtain ⟨word, others, inner⟩ := List.exists_cons_of_ne_nil
                  (words_ne_nil (List.mem_cons_self : second ∈ second :: rest)
                    isSecond)
                exact ⟨word, others,
                  words_of_noBlank_behind isFirst isSecond inner⟩
      · obtain ⟨more, others, inner⟩ := ih isLast ofPart
        obtain ⟨second, rest, rfl⟩ := List.exists_cons_of_ne_nil isLast
        exact ⟨more, others, words_of_noBlank_behind isFirst
          (List.forall_mem_cons.mp ofPart).1 inner⟩

private theorem words_cons_of_noBlank {first : Char}
    (noBlank : isBlank first = false)
    {text word : Text} {others : List Text}
    (inner : words text = word :: others) :
    words (first :: text) = [first] :: word :: others ∨
      words (first :: text) = (first :: word) :: others := by
  cases text with
  | nil => cases inner
  | cons second rest =>
      cases isSecond : isBlank second with
      | true =>
          left
          rw [words_of_blank_behind noBlank isSecond, inner]
      | false =>
          right
          exact words_of_noBlank_behind noBlank isSecond inner

theorem words_join_append {first : Text} {parts : List Text}
    (areWords : AreWords (first :: parts)) (after : Text) :
    ∃ word run others,
      words (join " " (first :: parts) ++ after) = word :: (run ++ others) ∧
        run.length = parts.length ∧ first <+: word ∧
        join " " (first :: parts) <+: join " " (word :: run) := by
  induction parts generalizing first with
  | nil =>
      obtain ⟨nonempty, noBlank⟩ := areWords first List.mem_cons_self
      obtain ⟨more, others, same⟩ :=
        words_append_of_noBlank nonempty noBlank after
      have single : ∀ part, join " " [part] = part := by
        simp [join]
      rw [single]
      exact ⟨first ++ more, [], others, same, rfl, List.prefix_append _ _,
        by rw [single]; exact List.prefix_append _ _⟩
  | cons second parts ih =>
      obtain ⟨⟨nonempty, noBlank⟩, ofParts⟩ := List.forall_mem_cons.mp areWords
      obtain ⟨word, run, others, same, sameLength, _, holds⟩ := ih ofParts
      refine ⟨first, word :: run, others, ?_, congrArg (· + 1) sameLength,
        List.prefix_refl _, ?_⟩
      · rw [join_cons_of_ne_nil first (List.cons_ne_nil _ _), List.append_assoc,
          List.cons_append, words_append_of_blank (by decide),
          words_of_noBlank nonempty noBlank, same]
        rfl
      · rw [join_cons_of_ne_nil first (List.cons_ne_nil _ _),
          join_cons_of_ne_nil first (List.cons_ne_nil _ _),
          List.prefix_append_right_inj, List.cons_prefix_cons]
        exact ⟨rfl, holds⟩

/-- A text that holds a phrase has consecutive words, one for each word of the
phrase, that hold it. -/
theorem exists_words_of_phrase {first : Text} {parts : List Text}
    (areWords : AreWords (first :: parts)) {text : Text}
    (occurs : join " " (first :: parts) <:+: text) :
    ∃ before word run after,
      words text = before ++ word :: (run ++ after) ∧
        run.length = parts.length ∧ first <:+: word ∧
        join " " (first :: parts) <:+: join " " (word :: run) := by
  obtain ⟨front, rest, rfl⟩ := occurs
  rw [List.append_assoc]
  induction front with
  | nil =>
      obtain ⟨word, run, others, same, sameLength, isFirst, holds⟩ :=
        words_join_append areWords rest
      exact ⟨[], word, run, others, same, sameLength, isFirst.isInfix,
        holds.isInfix⟩
  | cons character front ih =>
      obtain ⟨before, word, run, after, same, sameLength, isFirst, holds⟩ := ih
      rw [List.cons_append]
      cases isBlank : isBlank character with
      | true =>
          rw [words_of_blank isBlank]
          exact ⟨before, word, run, after, same, sameLength, isFirst, holds⟩
      | false =>
          cases before with
          | nil =>
              rcases words_cons_of_noBlank isBlank same with alone | joined
              · exact ⟨[[character]], word, run, after, alone, sameLength,
                  isFirst, holds⟩
              · refine ⟨[], character :: word, run, after, joined, sameLength,
                  List.infix_cons isFirst, ?_⟩
                rw [join_blank_cons_cons]
                exact List.infix_cons holds
          | cons earlier before =>
              rcases words_cons_of_noBlank isBlank same with alone | joined
              · exact ⟨[character] :: earlier :: before, word, run, after, alone,
                  sameLength, isFirst, holds⟩
              · exact ⟨(character :: earlier) :: before, word, run, after, joined,
                  sameLength, isFirst, holds⟩

end CardQuery.Text
