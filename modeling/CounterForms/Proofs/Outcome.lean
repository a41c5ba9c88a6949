/-!
Outcomes: a content, or the fault that there is none. Most readers are compared by the content they
give, judges by the fault they report.
-/

namespace CounterForms

theorem to_option_bind {Error Content Other : Type} (first : Except Error Content)
    (next : Content → Except Error Other) :
    (first >>= next).toOption = first.toOption.bind fun content => (next content).toOption := by
  cases first <;> rfl

theorem ok_of_bind {Error Content Other : Type} {first : Except Error Content}
    {next : Content → Except Error Other} {result : Other} (given : first >>= next = .ok result) :
    ∃ content, first = .ok content ∧ next content = .ok result := by
  cases first with
  | error fault => cases given
  | ok content => exact ⟨content, rfl, given⟩

theorem ok_of_to_option {Error Content : Type} (outcome : Except Error Content)
    (content : Content) (given : outcome.toOption = some content) : outcome = .ok content := by
  cases outcome with
  | error fault => cases given
  | ok held =>
      cases Option.some.inj given
      rfl

/-- What shows of a content tells that there is one. -/
theorem ok_of_map {Error Content View : Type} (outcome : Except Error Content)
    (view : Content → View) (shown : View) (given : outcome.toOption.map view = some shown) :
    ∃ content, outcome = .ok content ∧ view content = shown := by
  obtain ⟨content, isContent, isShown⟩ := Option.map_eq_some_iff.mp given
  exact ⟨content, ok_of_to_option outcome content isContent, isShown⟩

theorem exists_of_to_option {Error Content : Type} (outcome : Except Error Content)
    (given : outcome.toOption.isSome = true) : ∃ content, outcome = .ok content := by
  obtain ⟨content, isContent⟩ := Option.isSome_iff_exists.mp given
  exact ⟨content, ok_of_to_option outcome content isContent⟩

/-- Why an outcome is none. -/
def faultOf? {Fault Content : Type} : Except Fault Content → Option Fault
  | .ok _ => none
  | .error fault => some fault

theorem fault_of_none {Fault Content : Type} (outcome : Except Fault Content) :
    faultOf? outcome = none ↔ ∃ content, outcome = .ok content := by
  cases outcome <;> simp [faultOf?]

theorem fault_of_some {Fault Content : Type} (outcome : Except Fault Content) (fault : Fault) :
    faultOf? outcome = some fault ↔ outcome = .error fault := by
  cases outcome <;> simp [faultOf?]

end CounterForms
