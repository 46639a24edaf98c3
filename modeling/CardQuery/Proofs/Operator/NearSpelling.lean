import CardQuery.Proofs.Operator.EditDistance

/-!
# Near spellings in order

`closestBy` walks over the candidates once, measures what it cannot tell from
the length alone, and sorts what it finds by distance, place and spelling.  This
is the same as to keep the candidates that are the first of their spelling,
differ from the word and are near it, to sort them by their distance in a stable
way and to take the first of them.
-/

namespace CardQuery.Spelling

/-- What is asked of a measure: to give the edit distance up to a limit, and a
number above the limit where the edit distance is above it. -/
structure IsMeasure (measure : Text → Text → Int → Nat) : Prop where
  within {word text : Text} {limit : Int} :
    editDistance word text ≤ limit →
      measure word text limit = editDistance word text
  beyond {word text : Text} {limit : Int} :
    limit < editDistance word text → limit < measure word text limit

private theorem isMeasure_boundedDistance : IsMeasure boundedDistance where
  within near := by
    rw [boundedDistance]
    exact if_pos near
  beyond {word text limit} far := by
    rw [boundedDistance, if_neg (by omega)]
    omega

/-- The distance of a candidate to a word, without regard to case. -/
def distanceTo (word candidate : Text) : Nat :=
  editDistance word (Text.lower candidate)

/-- The candidate at a place is the first one of its spelling, differs from the
word and is within a distance of it. -/
structure IsNear (word : Text) (maxDistance : Nat) (candidates : List Text)
    (candidate : Text) (place : Nat) : Prop where
  isFirst : ∀ earlier ∈ candidates.take place,
    Text.lower earlier ≠ Text.lower candidate
  differs : Text.lower candidate ≠ word
  close : distanceTo word candidate ≤ maxDistance

private theorem isNear_iff {word : Text} {maxDistance : Nat}
    {candidates : List Text}
    {candidate : Text} {place : Nat} :
    IsNear word maxDistance candidates candidate place ↔
      (∀ earlier ∈ candidates.take place,
        Text.lower earlier ≠ Text.lower candidate) ∧
      Text.lower candidate ≠ word ∧ distanceTo word candidate ≤ maxDistance :=
  ⟨fun ⟨isFirst, differs, close⟩ => ⟨isFirst, differs, close⟩,
    fun ⟨isFirst, differs, close⟩ => ⟨isFirst, differs, close⟩⟩

instance (word : Text) (maxDistance : Nat) (candidates : List Text)
    (candidate : Text) (place : Nat) :
    Decidable (IsNear word maxDistance candidates candidate place) :=
  decidable_of_iff _ isNear_iff.symm

/-- The candidates that are near a word, with their places. -/
def nearPlaces (word : Text) (maxDistance : Nat) (candidates : List Text) :
    List (Text × Nat) :=
  candidates.zipIdx.filter fun (candidate, place) =>
    IsNear word maxDistance candidates candidate place

/-- The candidates that are near a word, in their order. -/
def nearCandidates (word : Text) (maxDistance : Nat) (candidates : List Text) :
    List Text :=
  (nearPlaces word maxDistance candidates).map Prod.fst

/-- Whether one candidate is at least as near as another. -/
def isNearer (word first second : Text) : Bool :=
  distanceTo word first ≤ distanceTo word second

/-- The candidates that are near a word, the nearest first and at one distance
in their order, at most a number of them. -/
def nearestCandidates (word : Text) (maxDistance limit : Nat)
    (candidates : List Text) : List Text :=
  ((nearCandidates word maxDistance candidates).mergeSort (isNearer word)).take
    limit

section Walk

variable {measure : Text → Text → Int → Nat} {word : Text} {maxDistance : Nat}

/-- The match that is made of a candidate at a place. -/
def matchOf (word : Text) : Text × Nat → Match
  | (candidate, place) => ⟨distanceTo word candidate, place, candidate⟩

private theorem IsMeasure.le_iff (isMeasure : IsMeasure measure) {text : Text}
    {limit : Int} :
    measure word text limit ≤ limit ↔ editDistance word text ≤ limit := by
  constructor
  · intro within
    by_contra far
    have beyond := isMeasure.beyond (Int.not_le.mp far)
    omega
  · intro near
    rw [isMeasure.within near]
    exact near

private theorem matchesFrom_cons_of_known {place : Nat} {seen rest : List Text}
    {candidate : Text}
    (known : Text.lower candidate ∈ seen ∨ Text.lower candidate = word) :
    matchesFrom measure word maxDistance place seen (candidate :: rest) =
      matchesFrom measure word maxDistance (place + 1) seen rest := by
  rw [matchesFrom]
  exact if_pos (by simpa using known)

private theorem matchesFrom_cons_of_new (isMeasure : IsMeasure measure)
    {place : Nat}
    {seen rest : List Text} {candidate : Text}
    (isNew : Text.lower candidate ∉ seen)
    (differs : Text.lower candidate ≠ word) :
    matchesFrom measure word maxDistance place seen (candidate :: rest) =
      (if distanceTo word candidate ≤ maxDistance then
        [matchOf word (candidate, place)] else []) ++
      matchesFrom measure word maxDistance (place + 1)
        (Text.lower candidate :: seen) rest := by
  have bound := lengthGap_le_editDistance word (Text.lower candidate)
  rw [matchesFrom]
  dsimp only
  rw [if_neg (by simp [isNew, differs])]
  by_cases close : distanceTo word candidate ≤ maxDistance
  · have near : (editDistance word (Text.lower candidate) : Int) ≤ maxDistance :=
      Int.ofNat_le.mpr close
    rw [if_pos close, if_neg (by omega), if_pos (isMeasure.le_iff.mpr near),
      isMeasure.within near]
    rfl
  · have far : ¬ (editDistance word (Text.lower candidate) : Int) ≤ maxDistance :=
      fun near => close (Int.ofNat_le.mp near)
    rw [if_neg close, if_neg (mt isMeasure.le_iff.mp far), ite_self]
    rfl

/-- What the walk has seen when it has passed some candidates: their spellings
other than the word. -/
def HasSeen (word : Text) (before seen : List Text) : Prop :=
  ∀ spelling, spelling ∈ seen ↔
    spelling ≠ word ∧ spelling ∈ before.map Text.lower

section Seen

variable {before seen : List Text} {candidate : Text}

private theorem HasSeen.append_known (hasSeen : HasSeen word before seen)
    (known : Text.lower candidate ∈ seen ∨ Text.lower candidate = word) :
    HasSeen word (before ++ [candidate]) seen := by
  intro spelling
  rw [hasSeen, List.map_append, List.mem_append, List.map_singleton,
    List.mem_singleton]
  constructor
  · rintro ⟨differs, earlier⟩
    exact ⟨differs, Or.inl earlier⟩
  · rintro ⟨differs, earlier | rfl⟩
    · exact ⟨differs, earlier⟩
    · exact (hasSeen _).mp (known.resolve_right differs)

private theorem HasSeen.append_new (hasSeen : HasSeen word before seen)
    (differs : Text.lower candidate ≠ word) :
    HasSeen word (before ++ [candidate]) (Text.lower candidate :: seen) := by
  intro spelling
  rw [List.mem_cons, hasSeen, List.map_append, List.mem_append,
    List.map_singleton, List.mem_singleton]
  constructor
  · rintro (rfl | ⟨differs, earlier⟩)
    · exact ⟨differs, Or.inr rfl⟩
    · exact ⟨differs, Or.inl earlier⟩
  · rintro ⟨differs, earlier | rfl⟩
    · exact Or.inr ⟨differs, earlier⟩
    · exact Or.inl rfl

private theorem HasSeen.isNear_iff (hasSeen : HasSeen word before seen)
    (rest : List Text) :
    IsNear word maxDistance (before ++ candidate :: rest) candidate
        before.length ↔
      ¬ (Text.lower candidate ∈ seen ∨ Text.lower candidate = word) ∧
        distanceTo word candidate ≤ maxDistance := by
  rw [Spelling.isNear_iff, List.take_left, not_or, hasSeen, and_assoc]
  simp only [List.mem_map, not_and, not_exists]
  grind

end Seen

private theorem matchesFrom_eq (isMeasure : IsMeasure measure)
    {candidates before rest seen : List Text}
    (split : candidates = before ++ rest)
    (hasSeen : HasSeen word before seen) :
    matchesFrom measure word maxDistance before.length seen rest =
      ((rest.zipIdx before.length).filter fun (candidate, place) =>
        IsNear word maxDistance candidates candidate place).map
          (matchOf word) := by
  induction rest generalizing before seen with
  | nil => rfl
  | cons candidate rest ih =>
      have splitNext : candidates = (before ++ [candidate]) ++ rest := by
        rw [split, List.append_cons]
      have lengthNext : (before ++ [candidate]).length = before.length + 1 := by
        rw [List.length_append, List.length_singleton]
      have isNear_iff : IsNear word maxDistance candidates candidate
          before.length ↔ _ :=
        split ▸ hasSeen.isNear_iff rest
      rw [List.zipIdx_cons, List.filter_cons]
      by_cases known : Text.lower candidate ∈ seen ∨ Text.lower candidate = word
      · rw [matchesFrom_cons_of_known known, ← lengthNext,
          ih splitNext (hasSeen.append_known known), lengthNext]
        simp [isNear_iff, known]
      · obtain ⟨isNew, differs⟩ := not_or.mp known
        rw [matchesFrom_cons_of_new isMeasure isNew differs, ← lengthNext,
          ih splitNext (hasSeen.append_new differs), lengthNext]
        by_cases close : distanceTo word candidate ≤ maxDistance
        · simp [isNear_iff, known, close]
        · simp [isNear_iff, close]

end Walk

section Order

variable {found : List Match}

/-- Whether one match is at least as near as another. -/
def Match.isNearer (first second : Match) : Bool :=
  first.distance ≤ second.distance

private theorem isOrdered_refl (text : Text) : isOrdered text text = true := by
  induction text with
  | nil => rfl
  | cons first rest ih => simp [isOrdered, ih]

private theorem Match.le_refl (item : Match) : item.le item = true := by
  simp [Match.le, isOrdered_refl]

private theorem Match.le_of_before {first second : Match}
    (before : first.place < second.place) :
    first.le second = decide (first.distance ≤ second.distance) := by
  rw [Bool.eq_iff_iff]
  simp [Match.le, before]
  omega

private theorem Match.le_of_behind {first second : Match}
    (behind : second.place < first.place) :
    first.le second = decide (first.distance < second.distance) := by
  rw [Bool.eq_iff_iff]
  simp [Match.le]
  omega

private theorem zipIdxLE_isNearer
    (increasing : found.Pairwise fun first second =>
      first.place < second.place)
    {first second : Match × Nat} (member : first ∈ found.zipIdx)
    (secondMember : second ∈ found.zipIdx) :
    List.zipIdxLE Match.isNearer first second = Match.le first.1 second.1 := by
  obtain ⟨first, index⟩ := first
  obtain ⟨second, secondIndex⟩ := second
  obtain ⟨within, rfl⟩ := List.getElem?_eq_some_iff.mp
    (List.mk_mem_zipIdx_iff_getElem?.mp member)
  obtain ⟨secondWithin, rfl⟩ := List.getElem?_eq_some_iff.mp
    (List.mk_mem_zipIdx_iff_getElem?.mp secondMember)
  have places := List.pairwise_iff_getElem.mp increasing
  rcases Nat.lt_trichotomy index secondIndex with before | rfl | behind
  · rw [Match.le_of_before (places _ _ within secondWithin before)]
    simp [List.zipIdxLE, Match.isNearer, Nat.le_of_lt before]
  · rw [Match.le_refl]
    simp [List.zipIdxLE, Match.isNearer]
  · rw [Match.le_of_behind (places _ _ secondWithin within behind)]
    rw [Bool.eq_iff_iff]
    simp [List.zipIdxLE, Match.isNearer]
    omega

private theorem mergeSort_le_eq
    (increasing : found.Pairwise fun first second =>
      first.place < second.place) :
    found.mergeSort Match.le = found.mergeSort Match.isNearer := by
  have sameOrder :
      (found.zipIdx.mergeSort (List.zipIdxLE Match.isNearer)).map Prod.fst =
        (found.zipIdx.map Prod.fst).mergeSort Match.le :=
    List.map_mergeSort fun _ member _ secondMember =>
      zipIdxLE_isNearer increasing member secondMember
  rw [List.zipIdx_map_fst] at sameOrder
  exact sameOrder.symm.trans List.mergeSort_zipIdx

private theorem nearPlaces_increasing (word : Text) (maxDistance : Nat)
    (candidates : List Text) :
    ((nearPlaces word maxDistance candidates).map (matchOf word)).Pairwise
      fun first second => first.place < second.place := by
  rw [List.pairwise_map]
  apply List.Pairwise.filter
  rw [List.pairwise_iff_getElem]
  intro index secondIndex within secondWithin before
  simpa [matchOf] using before

private theorem map_spelling_mergeSort (word : Text)
    (places : List (Text × Nat)) :
    ((places.map (matchOf word)).mergeSort Match.isNearer).map Match.spelling =
      (places.map Prod.fst).mergeSort (isNearer word) := by
  have sameOrder : ∀ first ∈ places.map (matchOf word),
      ∀ second ∈ places.map (matchOf word), Match.isNearer first second =
        isNearer word first.spelling second.spelling := by
    intro first member second secondMember
    obtain ⟨_, _, rfl⟩ := List.mem_map.mp member
    obtain ⟨_, _, rfl⟩ := List.mem_map.mp secondMember
    rfl
  rw [List.map_mergeSort sameOrder, List.map_map]
  rfl

private theorem closestBy_eq {measure : Text → Text → Int → Nat}
    (isMeasure : IsMeasure measure) (word : Text) (candidates : List Text)
    (maxDistance limit : Nat) :
    closestBy measure word candidates maxDistance limit =
      nearestCandidates (needle word) maxDistance limit candidates := by
  have found : matchesFrom measure (needle word) maxDistance 0 [] candidates =
      (nearPlaces (needle word) maxDistance candidates).map
        (matchOf (needle word)) :=
    matchesFrom_eq isMeasure (List.nil_append candidates).symm
      (by simp [HasSeen])
  have sliced (items : List Text) : Text.slice items 0 limit =
      items.take limit :=
    Text.slice_natCast items 0 limit
  rw [closestBy, found, mergeSort_le_eq (nearPlaces_increasing _ _ _),
    map_spelling_mergeSort, sliced, nearestCandidates, nearCandidates]

end Order

/-- Whatever measures the distances, the closest candidates are the first of
those that are near the word, in a stable order by their distance.  The distance
is the least number of single edits that turns the word into the candidate. -/
theorem closest_eq_nearestCandidates {measure : Text → Text → Int → Nat}
    (isMeasure : IsMeasure measure) (word : Text) (candidates : List Text)
    (maxDistance limit : Nat) :
    closestBy measure word candidates maxDistance limit =
        nearestCandidates (needle word) maxDistance limit candidates ∧
      closest word candidates maxDistance limit =
        nearestCandidates (needle word) maxDistance limit candidates ∧
      ∀ candidate,
        IsLeast {count | Edits count (needle word) (Text.lower candidate)}
          (distanceTo (needle word) candidate) :=
  ⟨closestBy_eq isMeasure word candidates maxDistance limit,
    closestBy_eq isMeasure_boundedDistance word candidates maxDistance limit,
    fun _ => isLeast_editDistance _ _⟩

/-- Candidates at one distance keep their order.  The word itself, a second
spelling of a candidate and what is too far away are left out. -/
theorem closest_eq_nearestCandidates_form :
    let word : Text := " Form"
    let candidates : List Text :=
      ["forms", "form", "FORMS", "format", "norm", "foot", "legal"]
    let nearest : List Text := ["forms", "norm"]
    IsMeasure boundedDistance ∧
      closestBy boundedDistance word candidates 2 2 = nearest := by
  intro word candidates nearest
  let near : List Text := ["forms", "format", "norm", "foot"]
  let ranked : List Text := ["forms", "norm", "format", "foot"]
  have found : nearCandidates (needle word) 2 candidates = near := by
    decide +kernel
  have sorted : near.mergeSort (isNearer (needle word)) = ranked := by
    have distances : near.map (distanceTo (needle word)) = [1, 2, 1, 2] := by
      decide +kernel
    simp [near] at distances
    simp [near, ranked, List.mergeSort, List.MergeSort.Internal.splitInTwo,
      isNearer, distances]
  have same := (closest_eq_nearestCandidates isMeasure_boundedDistance word
    candidates 2 2).1
  rw [nearestCandidates, found, sorted] at same
  exact ⟨isMeasure_boundedDistance, same⟩

end CardQuery.Spelling
