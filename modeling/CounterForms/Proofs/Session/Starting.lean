import CounterForms.Files
import CounterForms.Proofs.Palette.Resolved
import CounterForms.Session

/-!
Starting a session with settings that were judged to be good. Judging reads the chords in the way
that starting does, but no colours; so the texts of the colours alone decide whether a session can
be started.
-/

namespace CounterForms

namespace Session

theorem check_binds (config : Config) (valid : config.check = .ok ()) :
    ∃ bindings, Bindings.ofTexts config.bindings = .ok bindings := by
  unfold Config.check at valid
  cases bound : Bindings.ofTexts config.bindings with
  | ok bindings => exact ⟨bindings, rfl⟩
  | error fault =>
      rw [bound] at valid
      cases judged : orFail .settings config.styles.check with
      | error failure =>
          rw [judged] at valid
          cases valid
      | ok good =>
          rw [judged] at valid
          cases valid

/-- Once the chords are read, a session fails to start exactly on the first colour that cannot be
read. -/
theorem start_fault (config : Config) (form : Form) (source : AnswerSource) (workspace : Workspace)
    (bindings : Bindings) (bound : Bindings.ofTexts config.bindings = .ok bindings) :
    faultOf? (start config form source workspace) =
      (firstColorFault? config.styles.colors.inReadingOrder).map fun fault =>
        ⟨[.openScreen], .color fault⟩ := by
  rw [← theme_fault, start, bound]
  cases Theme.ofSettings config.styles <;> rfl

/-- With settings that were judged to be good, the chords can be read, and a session starts for a
form and a source exactly if the text of every colour can be read; else it fails on the first one in
the order of reading that cannot. -/
theorem start_of_checked (config : Config) (valid : config.check = .ok ()) :
    (∃ bindings, Bindings.ofTexts config.bindings = .ok bindings) ∧
    ((∃ theme, Theme.ofSettings config.styles = .ok theme) ↔
      ∀ text ∈ config.styles.colors.inReadingOrder, Color.Reads text) ∧
    ∀ form source workspace,
      ((∃ session, start config form source workspace = .ok session) ↔
        ∀ text ∈ config.styles.colors.inReadingOrder, Color.Reads text) ∧
      ∀ failure, start config form source workspace = .error failure ↔
        ∃ before text later fault,
          config.styles.colors.inReadingOrder = before ++ text :: later ∧
          (∀ earlier ∈ before, Color.Reads earlier) ∧ Color.ofText? text = .error fault ∧
          failure = ⟨[.openScreen], .color fault⟩ := by
  obtain ⟨bindings, bound⟩ := check_binds config valid
  refine ⟨⟨bindings, bound⟩, ?_, fun form source workspace => ?_⟩
  · rw [← fault_of_none, theme_fault, first_fault_none]
  have fails := start_fault config form source workspace bindings bound
  constructor
  · rw [← fault_of_none, fails, Option.map_eq_none_iff, first_fault_none]
  · intro failure
    rw [← fault_of_some, fails, Option.map_eq_some_iff]
    constructor
    · rintro ⟨fault, first, rfl⟩
      obtain ⟨before, text, later, split, refused, reads⟩ := (first_fault_some _ _).mp first
      exact ⟨before, text, later, fault, split, reads, refused, rfl⟩
    · rintro ⟨before, text, later, fault, split, reads, refused, rfl⟩
      exact ⟨fault, (first_fault_some _ _).mpr ⟨before, text, later, split, refused, reads⟩, rfl⟩

/-- The standard settings but for the colour of the buttons, whose text is one digit short. -/
def shortColor : Config := { styles := { colors := { buttonEnabled := "#12345" } } }

/-- Settings may be judged to be good with which no session can be started. -/
theorem checked_without_start :
    shortColor.check = .ok () ∧
      ¬∃ session, start shortColor { title := "", questions := [] } (.memory .empty)
        ⟨{ entries := [], workingDirectory := [] }, none⟩ = .ok session := by
  refine ⟨ok_of_to_option _ () (by decide +kernel), ?_⟩
  rw [← fault_of_none]
  decide +kernel

def ownSettings : Config where
  bindings := ((BindingTexts.standard.replace .increase "k").replace .decrease "J").replace .save
    "<C-A-w>"
  styles :=
    { counter := { increaseLabel := "↑", decreaseLabel := "↓" }
      scaffold := { leftShare := 40, rightShare := 60 }
      colors :=
        { borders := "Red", text := "#12AB34", textHint := " lightblue "
          buttonEnabled := "#fff000", background := "black" } }

theorem start_of_checked_own :
    ∃ session, start ownSettings
      { title := "Tally", questions := [.ofDeclaration { name := "a", label := "A" } (some 3)] }
      (.onDisk ⟨⟨"tally.json"⟩, .empty, false⟩) ⟨{ entries := [], workingDirectory := [] }, none⟩ =
        .ok session := by
  have valid : ownSettings.check = .ok () := ok_of_to_option _ () (by decide +kernel)
  refine ((start_of_checked ownSettings valid).2.2 _ _ _).1.mpr fun text member => ?_
  have reads : ∀ text ∈ ownSettings.styles.colors.inReadingOrder,
      (Color.ofText? text).toOption.isSome = true := by decide +kernel
  exact exists_of_to_option _ (reads text member)

end Session

end CounterForms
