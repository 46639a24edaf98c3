import CardQuery.Concept.Reading
import CardQuery.Document.Concept
import CardQuery.Proofs.Outcome

/-!
# The order of colors

However a reading comes about, the colors of each of its concepts are in
canonical order and not repeated.  A text brings them in that order, merging
restores it, and a document is read into it.
-/

namespace CardQuery

/-- The colors are in canonical order, each once. -/
def ColorConcept.IsSorted (concept : ColorConcept) : Prop :=
  Color.sorted concept.colors = concept.colors

/-- The colors of every concept are in canonical order. -/
def Reading.HasSortedColors (reading : Reading) : Prop :=
  ∀ concept ∈ reading.colors, concept.IsSorted

namespace ColorConcept

private theorem isSorted_merge (left right : ColorConcept) :
    (left.merge right).IsSorted :=
  Color.sorted_sorted _

private theorem isSorted_absorb {current : ColorConcept}
    {concepts : List ColorConcept}
    (isSorted : current.IsSorted)
    (areSorted : ∀ concept ∈ concepts, concept.IsSorted) :
    (absorb current concepts).1.IsSorted ∧
      ∀ concept ∈ (absorb current concepts).2, concept.IsSorted := by
  induction concepts generalizing current with
  | nil => exact ⟨isSorted, List.forall_mem_nil _⟩
  | cons next rest ih =>
      obtain ⟨nextSorted, restSorted⟩ := List.forall_mem_cons.mp areSorted
      rw [absorb]
      split
      · exact ih (isSorted_merge current next) restSorted
      · obtain ⟨absorbed, left⟩ := ih isSorted restSorted
        exact ⟨absorbed, List.forall_mem_cons.mpr ⟨nextSorted, left⟩⟩

private theorem isSorted_of_mem_mergeAll {concepts : List ColorConcept}
    (areSorted : ∀ concept ∈ concepts, concept.IsSorted) :
    ∀ concept ∈ mergeAll concepts, concept.IsSorted := by
  induction concepts using mergeAll.induct with
  | case1 =>
      rw [mergeAll]
      exact List.forall_mem_nil _
  | case2 first rest ih =>
      obtain ⟨firstSorted, restSorted⟩ := List.forall_mem_cons.mp areSorted
      obtain ⟨absorbed, left⟩ := isSorted_absorb firstSorted restSorted
      rw [mergeAll]
      exact List.forall_mem_cons.mpr ⟨absorbed, ih left⟩

private theorem isSorted_of_mem_extract {table : List ColorPhrase}
    {text : Text} :
    ∀ concept ∈ extract table text, concept.IsSorted := by
  apply isSorted_of_mem_mergeAll
  intro concept member
  obtain ⟨phrase, _, rfl⟩ := List.mem_map.mp member
  exact Color.sorted_sorted _

end ColorConcept

theorem Reading.hasSortedColors_of_ofText {text : Text} {reading : Reading}
    (read : ofText text = .ok reading) : reading.HasSortedColors := by
  rw [ofText] at read
  dsimp only at read
  split at read
  · rw [← Except.ok.inj read]
    exact List.forall_mem_nil _
  · obtain ⟨stats, _, same⟩ := Outcome.bind_eq_ok_iff.mp read
    rw [← Except.ok.inj same]
    exact ColorConcept.isSorted_of_mem_extract

namespace Checked

variable {α β : Type}

private theorem apply_eq_ok_iff {function : Checked (α → β)}
    {argument : Checked α}
    {result : β} :
    apply function argument = .ok result ↔
      ∃ read value, function = .ok read ∧ argument = .ok value ∧
        read value = result := by
  cases function <;> cases argument <;> simp [apply]

private theorem under_eq_ok_iff {name : Text} {checked : Checked α} {value : α}
    :
    checked.under name = .ok value ↔ checked = .ok value := by
  cases checked <;> simp [under, Except.mapError]

private theorem map_eq_ok_iff {change : α → β} {checked : Checked α}
    {result : β} :
    checked.map change = .ok result ↔
      ∃ value, checked = .ok value ∧ change value = result := by
  cases checked <;> simp [Except.map]

private theorem also_eq_ok_iff {checked : Checked α} {other : Checked Unit}
    {value : α} :
    checked.also other = .ok value ↔ checked = .ok value ∧ other = .ok () := by
  cases checked <;> cases other <;> simp [also, apply, Except.map]

private theorem exists_of_mem_each {read : α → Checked β} {number : Nat}
    {items : List α} {results : List β}
    (areRead : each read number items = .ok results) :
    ∀ result ∈ results, ∃ item ∈ items, read item = .ok result := by
  induction items generalizing number results with
  | nil =>
      cases areRead
      exact List.forall_mem_nil _
  | cons first rest ih =>
      obtain ⟨prepend, others, isPrepend, areOthers, rfl⟩ :=
        apply_eq_ok_iff.mp areRead
      obtain ⟨result, isRead, rfl⟩ := map_eq_ok_iff.mp isPrepend
      refine List.forall_mem_cons.mpr ⟨?_, ?_⟩
      · exact ⟨first, List.mem_cons_self, under_eq_ok_iff.mp isRead⟩
      · intro other member
        obtain ⟨item, isItem, found⟩ := ih areOthers other member
        exact ⟨item, List.mem_cons_of_mem first isItem, found⟩

end Checked

namespace Reader

variable {α : Type}

private theorem field_eq_ok {document : Document} {name : Text} {usual : α}
    {read : Reader α} {value : α}
    (isRead : field document name usual read = .ok value) :
    value = usual ∨ ∃ part, read part = .ok value := by
  rw [field] at isRead
  split at isRead
  next part _ => exact Or.inr ⟨part, Checked.under_eq_ok_iff.mp isRead⟩
  next => exact Or.inl (Except.ok.inj isRead).symm

private theorem exists_of_mem_items {shape : Shape} {read : Reader α}
    {document : Document} {values : List α}
    (areRead : items shape read document = .ok values) :
    ∀ value ∈ values, ∃ part, read part = .ok value := by
  cases document with
  | list parts =>
      intro value member
      obtain ⟨part, _, isRead⟩ :=
        Checked.exists_of_mem_each areRead value member
      exact ⟨part, isRead⟩
  | _ => cases areRead

private theorem exists_of_record {names : List Text} {read : Reader α}
    {document : Document} {value : α}
    (isRead : record names read document = .ok value) :
    read document = .ok value := by
  cases document with
  | record fields => exact (Checked.also_eq_ok_iff.mp isRead).1
  | _ => cases isRead

end Reader

private theorem ColorConcept.isSorted_of_read {document : Document}
    {concept : ColorConcept} (isRead : read document = .ok concept) :
    concept.IsSorted := by
  have fields := Reader.exists_of_record isRead
  simp only [Checked.apply_eq_ok_iff] at fields
  obtain ⟨_, _, ⟨_, _, ⟨_, _, ⟨_, _, ⟨_, _, ⟨_, colors, ⟨_, _,
    ⟨_, _, isFunction, _, rfl⟩, _, rfl⟩, areColors, rfl⟩, _, rfl⟩, _, rfl⟩,
    _, rfl⟩, _, rfl⟩, _, rfl⟩ := fields
  cases isFunction
  change Color.sorted colors = colors
  rcases Reader.field_eq_ok areColors with none | ⟨_, areRead⟩
  · rw [none]
    rfl
  · obtain ⟨letters, _, rfl⟩ := Checked.map_eq_ok_iff.mp areRead
    exact Color.sorted_sorted letters

theorem Reading.hasSortedColors_of_read {document : Document}
    {reading : Reading} (isRead : read document = .ok reading) :
    reading.HasSortedColors := by
  have fields := Reader.exists_of_record isRead
  simp only [Checked.apply_eq_ok_iff] at fields
  obtain ⟨_, _, ⟨_, _, ⟨_, _, ⟨_, _, ⟨_, _, ⟨_, _, ⟨_, _, ⟨_, _, ⟨_, _,
    ⟨_, colors, ⟨_, _, isFunction, _, rfl⟩, areColors, rfl⟩, _, rfl⟩, _, rfl⟩,
    _, rfl⟩, _, rfl⟩, _, rfl⟩, _, rfl⟩, _, rfl⟩, _, rfl⟩, _, rfl⟩ := fields
  cases isFunction
  change ∀ concept ∈ colors, concept.IsSorted
  rcases Reader.field_eq_ok areColors with none | ⟨_, areRead⟩
  · rw [none]
    exact List.forall_mem_nil _
  · intro concept member
    obtain ⟨_, isConcept⟩ :=
      Reader.exists_of_mem_items areRead concept member
    exact ColorConcept.isSorted_of_read isConcept

end CardQuery
