import CardQuery.Concept.Wording
import CardQuery.Proofs.Text.LoweredWords
import Mathlib.Data.Nat.Find

/-!
# The window around a phrase

The window of a phrase is cut out around the first word of the text that holds
the first word of the phrase.  For a phrase of one word this is the first place
at which the phrase occurs.  A longer phrase may occur only later, and then the
window holds it exactly if it begins at most as many words later as the window
has on either side.
-/

namespace CardQuery

open Text

namespace Wording

/-- The word at a place holds the first word of a phrase, in letters of either
case. -/
def MayBeginAt (parts : List Text) (phrase : Text) (place : Nat) : Prop :=
  ∃ part ∈ parts[place]?, ∃ first ∈ (words phrase).head?,
    includes (lower part) (lower first) = true

/-- The phrase occurs in the words from a place on, in letters of either case
and in as many words as it has itself. -/
def OccursAt (parts : List Text) (phrase : Text) (place : Nat) : Prop :=
  place + (words phrase).length ≤ parts.length ∧
    includes (lower (join " " ((parts.drop place).take (words phrase).length)))
      (lower phrase) = true

/-- The first place at which a phrase may begin. -/
def IsAnchor (parts : List Text) (phrase : Text) (place : Nat) : Prop :=
  MayBeginAt parts phrase place ∧
    ∀ earlier < place, ¬ MayBeginAt parts phrase earlier

/-- A phrase has a word, and one blank stands between two of its words and no
other blank in it. -/
structure IsSpaced (phrase : Text) : Prop where
  nonempty : words phrase ≠ []
  joined : join " " (words phrase) = phrase

section Occurrence

variable {phrase : Text} {parts : List Text}

private theorem IsSpaced.length_pos (spaced : IsSpaced phrase) :
    0 < (words phrase).length :=
  List.length_pos_iff.mpr spaced.nonempty

private theorem lower_join (parts : List Text) :
    lower (join " " parts) = join " " (parts.map lower) := by
  induction parts with
  | nil => rfl
  | cons first rest ih =>
      by_cases isLast : rest = []
      · rw [isLast]
        simp [join]
      · rw [List.map_cons, join_cons_of_ne_nil first isLast,
          join_cons_of_ne_nil _ (by simpa using isLast),
          lower_append_blank (by decide), ih]

/-- A text in which a spaced phrase occurs has words in which it occurs, and the
first of them holds the first word of the phrase. -/
theorem exists_occursAt (spaced : IsSpaced phrase) {text : Text}
    (occurs : includes (lower text) (lower phrase) = true) :
    ∃ place, OccursAt (words text) phrase place ∧
      MayBeginAt (words text) phrase place := by
  obtain ⟨first, rest, isPhrase⟩ :=
    List.exists_cons_of_ne_nil spaced.nonempty
  have loweredPhrase : lower phrase =
      join " " (lower first :: rest.map lower) := by
    rw [← List.map_cons, ← isPhrase, ← lower_join, spaced.joined]
  have areWords : AreWords (lower first :: rest.map lower) := by
    rw [← List.map_cons, ← isPhrase, ← words_lower]
    exact areWords_words _
  rw [includes_iff, loweredPhrase] at occurs
  obtain ⟨before, word, run, after, same, sameLength, isFirst, holds⟩ :=
    exists_words_of_phrase areWords occurs
  rw [words_lower] at same
  obtain ⟨beforeParts, others, split, rfl, isOthers⟩ :=
    List.map_eq_append_iff.mp same
  obtain ⟨part, further, rfl, rfl, isFurther⟩ := List.map_eq_cons_iff.mp isOthers
  obtain ⟨runParts, afterParts, rfl, rfl, rfl⟩ :=
    List.map_eq_append_iff.mp isFurther
  rw [List.length_map, List.length_map] at sameLength
  refine ⟨beforeParts.length, ⟨?_, ?_⟩, ?_⟩
  · rw [split, isPhrase]
    simp
    omega
  · rw [split, isPhrase, List.drop_left, List.length_cons, List.take_succ_cons,
      ← sameLength, List.take_left, lower_join, includes_iff, loweredPhrase]
    exact holds
  · refine ⟨part, ?_, first, ?_, includes_iff.mpr isFirst⟩
    · rw [split]
      simp
    · rw [isPhrase]
      rfl

/-- Where a spaced phrase occurs, it may begin. -/
theorem OccursAt.mayBeginAt (spaced : IsSpaced phrase)
    (areWords : AreWords parts) {place : Nat}
    (occurs : OccursAt parts phrase place) : MayBeginAt parts phrase place := by
  obtain ⟨within, holds⟩ := occurs
  have run : words (join " " ((parts.drop place).take (words phrase).length)) =
      (parts.drop place).take (words phrase).length :=
    words_join fun part member =>
      areWords part (List.mem_of_mem_drop (List.mem_of_mem_take member))
  obtain ⟨inner, ⟨innerWithin, _⟩, part, isPart, begins⟩ :=
    exists_occursAt spaced holds
  rw [run] at innerWithin isPart
  have isFirst : inner = 0 := by
    simp at innerWithin
    omega
  have filled := spaced.length_pos
  refine ⟨part, ?_, begins⟩
  rw [isFirst] at isPart
  simpa [List.getElem?_take, List.getElem?_drop, filled] using isPart

/-- A text whose words hold a phrase at a place holds it. -/
theorem OccursAt.isIncluded {place : Nat} (occurs : OccursAt parts phrase place) :
    includes (lower (join " " parts)) (lower phrase) = true := by
  have consecutive : (parts.drop place).take (words phrase).length <:+: parts :=
    (List.take_prefix _ _).isInfix.trans (List.drop_suffix _ _).isInfix
  have holds := includes_iff.mp occurs.2
  rw [lower_join] at holds
  rw [includes_iff, lower_join]
  exact holds.trans (join_infix_join (consecutive.map lower))

/-- A phrase occurs between two ends exactly if it occurs in all words and does
not go beyond the ends. -/
theorem occursAt_slice_iff (spaced : IsSpaced phrase)
    {start stop place : Nat} :
    OccursAt ((parts.take stop).drop start) phrase place ↔
      start + place + (words phrase).length ≤ stop ∧
        OccursAt parts phrase (start + place) := by
  have filled := spaced.length_pos
  rw [OccursAt, OccursAt, List.length_drop, List.length_take, List.drop_drop,
    List.drop_take, List.take_take]
  have whole (before : start + place + (words phrase).length ≤ stop) :
      min (words phrase).length (stop - (start + place)) =
        (words phrase).length := by
    omega
  constructor
  · rintro ⟨within, holds⟩
    rw [whole (by omega)] at holds
    exact ⟨by omega, by omega, holds⟩
  · rintro ⟨before, within, holds⟩
    rw [whole before]
    exact ⟨by omega, holds⟩

/-- A phrase of one word occurs where it may begin. -/
theorem MayBeginAt.occursAt (spaced : IsSpaced phrase)
    (single : (words phrase).length = 1) {place : Nat}
    (begins : MayBeginAt parts phrase place) : OccursAt parts phrase place := by
  obtain ⟨first, isFirst⟩ := List.length_eq_one_iff.mp single
  obtain ⟨part, isPart, other, isOther, holds⟩ := begins
  have joined := spaced.joined
  have joinSingle : ∀ text, join " " [text] = text := by
    simp [join]
  rw [isFirst, joinSingle] at joined
  rw [isFirst, List.head?_cons, Option.mem_some_iff] at isOther
  obtain ⟨within, isPart⟩ := List.getElem?_eq_some_iff.mp isPart
  rw [OccursAt, single, List.drop_eq_getElem_cons within, isPart,
    List.take_succ_cons, List.take_zero, joinSingle, ← joined, isOther]
  exact ⟨within, holds⟩

private theorem mayBeginAt_iff {first : Text} {rest : List Text}
    (isPhrase : words phrase = first :: rest) {place : Nat} :
    MayBeginAt parts phrase place ↔
      ∃ within : place < parts.length,
        Text.includes (lower parts[place]) (lower first) = true := by
  rw [MayBeginAt, isPhrase]
  constructor
  · rintro ⟨part, isPart, other, isOther, holds⟩
    obtain ⟨within, rfl⟩ := List.getElem?_eq_some_iff.mp isPart
    cases isOther
    exact ⟨within, holds⟩
  · rintro ⟨within, holds⟩
    exact ⟨parts[place], List.getElem?_eq_getElem within, first, rfl, holds⟩

private theorem findIdx?_eq_some_iff_isAnchor {first : Text} {rest : List Text}
    (isPhrase : words phrase = first :: rest) {anchor : Nat} :
    (parts.findIdx? fun part => Text.includes (lower part) (lower first)) =
      some anchor ↔ IsAnchor parts phrase anchor := by
  rw [List.findIdx?_eq_some_iff_getElem, IsAnchor, mayBeginAt_iff isPhrase]
  constructor
  · rintro ⟨within, holds, isFirst⟩
    refine ⟨⟨within, holds⟩, fun earlier before begins => ?_⟩
    obtain ⟨_, holdsEarlier⟩ := (mayBeginAt_iff isPhrase).mp begins
    exact isFirst earlier before holdsEarlier
  · rintro ⟨⟨within, holds⟩, isFirst⟩
    refine ⟨within, holds, fun earlier before holdsEarlier => ?_⟩
    exact isFirst earlier before
      ((mayBeginAt_iff isPhrase).mpr ⟨Nat.lt_trans before within, holdsEarlier⟩)

private theorem exists_isAnchor {place : Nat}
    (begins : MayBeginAt parts phrase place) :
    ∃ anchor, IsAnchor parts phrase anchor := by
  classical
  have exists_begins : ∃ place, MayBeginAt parts phrase place := ⟨place, begins⟩
  exact ⟨Nat.find exists_begins, Nat.find_spec exists_begins,
    fun _ => Nat.find_min exists_begins⟩

/-- The window of a phrase consists of the words up to a number of them in front
of the place where the phrase may first begin, and up to that number behind. -/
theorem contextWindow?_of_isAnchor {text : Text} (spaced : IsSpaced phrase)
    (occurs : Text.includes (lower text) (lower phrase) = true) (count : Nat)
    {anchor : Nat} (isAnchor : IsAnchor (words text) phrase anchor) :
    contextWindow? text phrase count =
      some (join " " (((words text).take
        (min (words text).length (anchor + (words phrase).length + count))).drop
          (anchor - count))) := by
  obtain ⟨first, rest, isPhrase⟩ :=
    List.exists_cons_of_ne_nil spaced.nonempty
  have found := (findIdx?_eq_some_iff_isAnchor isPhrase).mpr isAnchor
  have start :
      max (0 : Int) (anchor - count) = ((anchor - count : Nat) : Int) := by
    omega
  have stop : min ((words text).length : Int)
      (anchor + ((rest.map lower).length + 1) + count) =
        ((min (words text).length (anchor + (rest.length + 1) + count) : Nat) :
          Int) := by
    rw [List.length_map]
    omega
  rw [contextWindow?, occurs, words_lower, isPhrase]
  simp only [Bool.not_true, Bool.false_eq_true, if_false, List.map_cons, found]
  rw [start, stop, slice_natCast, List.length_cons]

end Occurrence

/-- The window of a phrase that occurs in a text consists of consecutive words
of the text.  It holds the phrase exactly if the phrase occurs at most as many
words behind the first word that holds the first word of the phrase as the
window has on either side.  This is so for a phrase of one word. -/
theorem contextWindow_holds_phrase_iff {text phrase : Text}
    (spaced : IsSpaced phrase)
    (occurs : includes (lower text) (lower phrase) = true) (count : Nat) :
    ∃ run anchor,
      contextWindow? text phrase count = some (join " " run) ∧
      run <:+: words text ∧
      IsAnchor (words text) phrase anchor ∧
      (∃ place, OccursAt (words text) phrase place) ∧
      (includes (lower (join " " run)) (lower phrase) = true ↔
        ∃ place ≤ anchor + count, OccursAt (words text) phrase place) ∧
      ((words phrase).length = 1 →
        includes (lower (join " " run)) (lower phrase) = true) := by
  obtain ⟨place, occursThere, begins⟩ := exists_occursAt spaced occurs
  obtain ⟨anchor, isAnchor⟩ := exists_isAnchor begins
  have window := contextWindow?_of_isAnchor spaced occurs count isAnchor
  generalize isStop : min (words text).length
    (anchor + (words phrase).length + count) = stop at window
  generalize isRun : ((words text).take stop).drop (anchor - count) = run
    at window
  have consecutive : run <:+: words text := by
    rw [← isRun]
    exact (List.drop_suffix _ _).isInfix.trans (List.take_prefix _ _).isInfix
  have isWords : words (join " " run) = run :=
    words_join fun part member =>
      areWords_words text part (consecutive.subset member)
  have holds_iff : includes (lower (join " " run)) (lower phrase) = true ↔
      ∃ place ≤ anchor + count, OccursAt (words text) phrase place := by
    constructor
    · intro holds
      obtain ⟨inner, occursInner, _⟩ := exists_occursAt spaced holds
      rw [isWords, ← isRun, occursAt_slice_iff spaced] at occursInner
      exact ⟨_, by omega, occursInner.2⟩
    · rintro ⟨place, near, occursThere⟩
      have behind : anchor ≤ place := Nat.le_of_not_lt fun before =>
        isAnchor.2 place before
          (occursThere.mayBeginAt spaced (areWords_words text))
      have within := occursThere.1
      have isPlace : anchor - count + (place - (anchor - count)) = place := by
        omega
      have occursInRun : OccursAt run phrase (place - (anchor - count)) := by
        rw [← isRun, occursAt_slice_iff spaced, isPlace]
        exact ⟨by omega, occursThere⟩
      exact occursInRun.isIncluded
  refine ⟨run, anchor, window, consecutive, isAnchor, ⟨place, occursThere⟩,
    holds_iff, ?_⟩
  intro single
  exact holds_iff.mpr ⟨anchor, Nat.le_add_right anchor count,
    isAnchor.1.occursAt spaced single⟩

/-- A window of three words on either side of the first of two phrases that
begin alike still holds the second one. -/
theorem contextWindow_holds_phrase_of_near_decoy :
    let text : Text := "mono green or mono red"
    let phrase : Text := "mono red"
    IsSpaced phrase ∧ includes (lower text) (lower phrase) = true ∧
      ∃ run, contextWindow? text phrase 3 = some (join " " run) ∧
        run <:+: words text ∧
        includes (lower (join " " run)) (lower phrase) = true := by
  intro text phrase
  have spaced : IsSpaced phrase := ⟨by decide, by decide⟩
  have occurs : includes (lower text) (lower phrase) = true := by decide
  obtain ⟨run, anchor, window, consecutive, _, _, holds_iff, _⟩ :=
    contextWindow_holds_phrase_iff spaced occurs 3
  have occursBehind : OccursAt (words text) phrase 3 := by
    constructor <;> decide
  exact ⟨spaced, occurs, run, window, consecutive,
    holds_iff.mpr ⟨3, Nat.le_add_left 3 anchor, occursBehind⟩⟩

/-- The window of the second of two phrases that begin alike is cut out around
the first one of them. -/
theorem not_contextWindow_holds_phrase_decoy :
    let text : Text := "mono green or mono red"
    let phrase : Text := "mono red"
    join " " (words text) = text ∧ IsSpaced phrase ∧
      includes (lower text) (lower phrase) = true ∧
      contextWindow? text phrase 1 = some "mono green or" ∧
      includes (lower "mono green or") (lower phrase) = false := by
  intro text phrase
  refine ⟨by decide, ⟨by decide, by decide⟩, by decide, by decide, by decide⟩

end Wording

end CardQuery
