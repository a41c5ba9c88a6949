/-!
A ledger: values under names, in the order in which the names were first entered. A name comes once;
entering it again changes its value and leaves its place.
-/

namespace CounterForms

/-- Values under names that are all different. -/
structure Ledger (Value : Type) where
  entries : List (String × Value)
  distinct : (entries.map Prod.fst).Nodup

namespace Ledger

variable {Value : Type}

def empty : Ledger Value := ⟨[], List.nodup_nil⟩

instance : Inhabited (Ledger Value) := ⟨empty⟩

instance [DecidableEq Value] : DecidableEq (Ledger Value) := fun one other =>
  decidable_of_iff (one.entries = other.entries)
    ⟨fun same => by cases one; cases other; congr, fun same => by rw [same]⟩

def get? (ledger : Ledger Value) (name : String) : Option Value := ledger.entries.lookup name

def names (ledger : Ledger Value) : List String := ledger.entries.map Prod.fst

def size (ledger : Ledger Value) : Nat := ledger.entries.length

/-- Enters a value in its place, or at the end if the name is new. -/
def place (name : String) (value : Value) : List (String × Value) → List (String × Value)
  | [] => [(name, value)]
  | entry :: later =>
      if entry.1 = name then (name, value) :: later else entry :: place name value later

/-- Entering a value keeps the names and adds a new one at the end. -/
theorem place_names (name : String) (value : Value) (entries : List (String × Value)) :
    (place name value entries).map Prod.fst =
      if name ∈ entries.map Prod.fst then entries.map Prod.fst
      else entries.map Prod.fst ++ [name] := by
  induction entries with
  | nil => simp [place]
  | cons entry later induction =>
      by_cases same : entry.1 = name
      · simp [place, same]
      · have other : name ≠ entry.1 := fun equal => same equal.symm
        simp only [place, same, if_false, List.map_cons, induction, List.mem_cons, other, false_or]
        split <;> simp

theorem place_distinct (name : String) (value : Value) (entries : List (String × Value))
    (distinct : (entries.map Prod.fst).Nodup) :
    ((place name value entries).map Prod.fst).Nodup := by
  rw [place_names]
  split
  · exact distinct
  next absent =>
    rw [List.nodup_append]
    refine ⟨distinct, by simp, ?_⟩
    intro one member other isName equal
    simp only [List.mem_singleton] at isName
    exact absent (isName ▸ equal ▸ member)

def enter (ledger : Ledger Value) (name : String) (value : Value) : Ledger Value :=
  ⟨place name value ledger.entries, place_distinct name value ledger.entries ledger.distinct⟩

def enterAll (ledger : Ledger Value) (entries : List (String × Value)) : Ledger Value :=
  entries.foldl (fun filled entry => filled.enter entry.1 entry.2) ledger

def ofList (entries : List (String × Value)) : Ledger Value := empty.enterAll entries

end Ledger

end CounterForms
