/-!
Lists of entries under names. The first entry under a name is found, so where no name comes twice
every entry is. Sorting by names keeps the entries and puts the smaller names first.
-/

namespace CounterForms

variable {Value : Type}

theorem lookup_cons (entry : String × Value) (later : List (String × Value)) (name : String) :
    (entry :: later).lookup name = if name = entry.1 then some entry.2 else later.lookup name := by
  obtain ⟨key, value⟩ := entry
  by_cases same : name = key
  · simp [same]
  · have other : (name == key) = false := by simpa using same
    rw [List.lookup_cons, other, if_neg same]

theorem lookup_eq_none (entries : List (String × Value)) (name : String) :
    entries.lookup name = none ↔ name ∉ entries.map Prod.fst := by
  rw [List.lookup_eq_none_iff]
  constructor
  · intro apart member
    obtain ⟨entry, isEntry, named⟩ := List.mem_map.mp member
    simpa [named] using apart entry isEntry
  · intro absent entry isEntry
    simp only [bne_iff_ne, ne_eq]
    intro same
    exact absent (List.mem_map.mpr ⟨entry, isEntry, same.symm⟩)

theorem lookup_of_mem (entries : List (String × Value)) (distinct : (entries.map Prod.fst).Nodup)
    {name : String} {value : Value} (member : (name, value) ∈ entries) :
    entries.lookup name = some value := by
  induction entries with
  | nil => cases member
  | cons entry later induction =>
      obtain ⟨absent, apart⟩ := List.nodup_cons.mp distinct
      rcases List.mem_cons.mp member with rfl | isLater
      · simp
      · have other : name ≠ entry.1 := by
          rintro rfl
          exact absent (List.mem_map.mpr ⟨_, isLater, rfl⟩)
        rw [lookup_cons, if_neg other]
        exact induction apart isLater

theorem mem_of_lookup (entries : List (String × Value)) {name : String} {value : Value}
    (found : entries.lookup name = some value) : (name, value) ∈ entries := by
  obtain ⟨before, after, parts, -⟩ := List.lookup_eq_some_iff.mp found
  simp [parts]

theorem sorted_by_name {Entry : Type} (name : Entry → String) (entries : List Entry) :
    (entries.mergeSort fun one other => !decide (name other < name one)).Pairwise
      fun one other => name one ≤ name other := by
  have ordered_iff (one other : Entry) :
      (!decide (name other < name one)) = true ↔ name one ≤ name other := by
    rw [Bool.not_eq_true', decide_eq_false_iff_not, String.not_lt]
  have sorted : (entries.mergeSort fun one other => !decide (name other < name one)).Pairwise
      fun one other => (!decide (name other < name one)) = true := by
    apply List.pairwise_mergeSort
    · intro one between other first second
      rw [ordered_iff] at first second ⊢
      exact String.le_trans first second
    · intro one other
      rw [Bool.or_eq_true, ordered_iff, ordered_iff]
      exact String.le_total (name one) (name other)
  exact sorted.imp fun ordered => (ordered_iff _ _).mp ordered

end CounterForms
