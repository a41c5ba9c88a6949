import CounterForms.Answers.Ledger
import CounterForms.Proofs.Entries
import Mathlib.Data.List.Induction

/-!
What a ledger holds, told by looking names up. Entering a value changes what is found under its name
and nothing else; entering several puts the new names behind the old ones in their order. A list of
entries under different names is a ledger as it stands; where names are repeated, the first place
and the last value count.
-/

namespace CounterForms.Ledger

variable {Value : Type}

theorem get_eq_some (ledger : Ledger Value) (name : String) (value : Value) :
    ledger.get? name = some value ↔ (name, value) ∈ ledger.entries := by
  constructor
  · intro found
    exact mem_of_lookup ledger.entries found
  · exact lookup_of_mem ledger.entries ledger.distinct

/-- A ledger is told by its names and by what is found under each of them. -/
theorem eq_of_get (one other : Ledger Value) (names : one.names = other.names)
    (same : ∀ name, one.get? name = other.get? name) : one = other := by
  have lengths : one.entries.length = other.entries.length := by
    simpa [Ledger.names] using congrArg List.length names
  have entries : one.entries = other.entries := by
    apply List.ext_getElem lengths
    intro place inside within
    have named : one.entries[place].1 = other.entries[place].1 := by
      have here := congrArg (fun names => names[place]?) names
      simpa [Ledger.names, inside, within] using here
    have held : one.get? one.entries[place].1 = some one.entries[place].2 :=
      (get_eq_some one _ _).mpr (List.getElem_mem inside)
    have found : other.get? other.entries[place].1 = some other.entries[place].2 :=
      (get_eq_some other _ _).mpr (List.getElem_mem within)
    rw [same, named, found] at held
    exact Prod.ext named (Option.some.inj held).symm
  cases one
  cases other
  simpa using entries

theorem lookup_place (name : String) (value : Value) (entries : List (String × Value))
    (other : String) :
    (place name value entries).lookup other =
      if other = name then some value else entries.lookup other := by
  induction entries with
  | nil => rw [place, lookup_cons]
  | cons entry later induction =>
      by_cases first : entry.1 = name
      · rw [place, if_pos first, lookup_cons, lookup_cons, first]
        split <;> rfl
      · rw [place, if_neg first, lookup_cons, lookup_cons, induction]
        by_cases same : other = entry.1
        · have different : ¬other = name := fun equal => first (same.symm.trans equal)
          rw [if_pos same, if_pos same, if_neg different]
        · rw [if_neg same, if_neg same]

/-- Entering a value changes what is found under its name, and nothing else. -/
theorem get_enter (ledger : Ledger Value) (name : String) (value : Value) (other : String) :
    (ledger.enter name value).get? other =
      if other = name then some value else ledger.get? other :=
  lookup_place name value ledger.entries other

theorem names_enter (ledger : Ledger Value) (name : String) (value : Value) :
    (ledger.enter name value).names =
      if name ∈ ledger.names then ledger.names else ledger.names ++ [name] :=
  place_names name value ledger.entries

theorem place_same (name : String) (value : Value) (entries : List (String × Value))
    (held : entries.lookup name = some value) : place name value entries = entries := by
  induction entries with
  | nil => simp at held
  | cons entry later induction =>
      rw [lookup_cons] at held
      by_cases first : entry.1 = name
      · rw [if_pos first.symm] at held
        have same : (name, value) = entry := Prod.ext first.symm (Option.some.inj held).symm
        rw [place, if_pos first, same]
      · rw [if_neg fun equal => first equal.symm] at held
        rw [place, if_neg first, induction held]

theorem enter_same (ledger : Ledger Value) (name : String) (value : Value)
    (held : ledger.get? name = some value) : ledger.enter name value = ledger := by
  have same := place_same name value ledger.entries held
  cases ledger
  simp only [enter, mk.injEq]
  exact same

theorem enter_all_cons (ledger : Ledger Value) (entry : String × Value)
    (later : List (String × Value)) :
    ledger.enterAll (entry :: later) = (ledger.enter entry.1 entry.2).enterAll later := rfl

/-- After entering under different names, the entered value is found under each of them and the
former value under all others. -/
theorem get_enter_all (ledger : Ledger Value) (entries : List (String × Value))
    (distinct : (entries.map Prod.fst).Nodup) (name : String) :
    (ledger.enterAll entries).get? name = (entries.lookup name).or (ledger.get? name) := by
  induction entries generalizing ledger with
  | nil => rfl
  | cons entry later induction =>
      obtain ⟨absent, apart⟩ := List.nodup_cons.mp distinct
      rw [enter_all_cons, induction _ apart, get_enter]
      by_cases same : name = entry.1
      · subst same
        rw [(lookup_eq_none later entry.1).mpr absent, lookup_cons, if_pos rfl, if_pos rfl]
        rfl
      · rw [lookup_cons, if_neg same, if_neg same]

theorem names_enter_all (ledger : Ledger Value) (entries : List (String × Value))
    (distinct : (entries.map Prod.fst).Nodup) :
    (ledger.enterAll entries).names =
      ledger.names ++ (entries.map Prod.fst).filter fun name => name ∉ ledger.names := by
  induction entries generalizing ledger with
  | nil => simp [enterAll]
  | cons entry later induction =>
      obtain ⟨absent, apart⟩ := List.nodup_cons.mp distinct
      rw [enter_all_cons, induction _ apart, names_enter]
      by_cases known : entry.1 ∈ ledger.names
      · simp [known]
      · have skipped : (later.map Prod.fst).filter (fun name => name ∉ ledger.names ++ [entry.1]) =
            (later.map Prod.fst).filter fun name => name ∉ ledger.names := by
          apply List.filter_congr
          intro name isLater
          have other : name ≠ entry.1 := fun same => absent (same ▸ isLater)
          simp [other]
        simp only [known, if_false, skipped, List.map_cons, List.filter_cons, not_false_eq_true,
          decide_true, if_true, List.append_assoc, List.singleton_append]

theorem place_fresh (name : String) (value : Value) (entries : List (String × Value))
    (fresh : name ∉ entries.map Prod.fst) : place name value entries = entries ++ [(name, value)] := by
  induction entries with
  | nil => rfl
  | cons entry later induction =>
      simp only [List.map_cons, List.mem_cons, not_or] at fresh
      have first : ¬entry.1 = name := fun same => fresh.1 same.symm
      rw [place, if_neg first, induction fresh.2, List.cons_append]

theorem enter_all_fresh (ledger : Ledger Value) (entries : List (String × Value))
    (distinct : ((ledger.entries ++ entries).map Prod.fst).Nodup) :
    (ledger.enterAll entries).entries = ledger.entries ++ entries := by
  induction entries generalizing ledger with
  | nil => simp [enterAll]
  | cons entry later induction =>
      have fresh : entry.1 ∉ ledger.entries.map Prod.fst := by
        rw [List.map_append, List.nodup_append] at distinct
        exact fun member => distinct.2.2 _ member _ (by simp) rfl
      have placed : (ledger.enter entry.1 entry.2).entries = ledger.entries ++ [entry] :=
        place_fresh entry.1 entry.2 ledger.entries fresh
      rw [enter_all_cons, induction]
      · rw [placed, List.append_assoc, List.singleton_append]
      · rw [placed, List.append_assoc, List.singleton_append]
        exact distinct

theorem entries_of_list (entries : List (String × Value))
    (distinct : (entries.map Prod.fst).Nodup) : (ofList entries).entries = entries :=
  enter_all_fresh empty entries (by simpa [empty] using distinct)

theorem mem_place (name : String) (value : Value) (entries : List (String × Value))
    {entry : String × Value} (member : entry ∈ place name value entries) :
    entry = (name, value) ∨ entry ∈ entries := by
  induction entries with
  | nil => simpa [place] using member
  | cons first later induction =>
      by_cases same : first.1 = name
      · simp only [place, same, if_true, List.mem_cons] at member
        rcases member with entered | old
        · exact .inl entered
        · exact .inr (List.mem_cons_of_mem _ old)
      · simp only [place, same, if_false, List.mem_cons] at member
        rcases member with rfl | placed
        · exact .inr (by simp)
        · exact (induction placed).imp id (List.mem_cons_of_mem _)

theorem mem_enter_all (ledger : Ledger Value) (entries : List (String × Value))
    {entry : String × Value} (member : entry ∈ (ledger.enterAll entries).entries) :
    entry ∈ ledger.entries ∨ entry ∈ entries := by
  induction entries generalizing ledger with
  | nil => exact .inl member
  | cons first later induction =>
      rcases induction (ledger.enter first.1 first.2) member with held | entered
      · rcases mem_place first.1 first.2 ledger.entries held with rfl | old
        · exact .inr (by simp)
        · exact .inl old
      · exact .inr (List.mem_cons_of_mem _ entered)

theorem mem_of_list (entries : List (String × Value)) {entry : String × Value}
    (member : entry ∈ (ofList entries).entries) : entry ∈ entries := by
  simpa [empty] using mem_enter_all empty entries member

theorem of_list_snoc (entries : List (String × Value)) (entry : String × Value) :
    ofList (entries ++ [entry]) = (ofList entries).enter entry.1 entry.2 := by
  simp [ofList, enterAll]

/-- A repeated name keeps its first position. -/
theorem names_of_list (entries : List (String × Value)) :
    (ofList entries).names = (entries.map Prod.fst).eraseDups := by
  induction entries using List.reverseRecOn with
  | nil => rfl
  | append_singleton entries entry induction =>
      rw [of_list_snoc, names_enter, induction, List.map_append, List.eraseDups_append]
      by_cases known : entry.1 ∈ entries.map Prod.fst
      · simp [known, List.removeAll]
      · simp [known, List.removeAll, List.eraseDups_cons]

/-- A repeated name keeps its last value. -/
theorem get_of_list (entries : List (String × Value)) (name : String) :
    (ofList entries).get? name = entries.reverse.lookup name := by
  induction entries using List.reverseRecOn with
  | nil => rfl
  | append_singleton entries entry induction =>
      rw [of_list_snoc, get_enter, induction, List.reverse_append, List.reverse_singleton,
        List.singleton_append, lookup_cons]

end CounterForms.Ledger
