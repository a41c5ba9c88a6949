import CounterForms.Key.Bindings
import CounterForms.Proofs.Key.Reading
import Mathlib.Logic.Function.Basic

/-!
Which action a report calls. Bindings that are accepted bind no chord twice, and the report of every
chord that they bind stands for it; so a report calls the action whose chord it stands for, whatever
the order in which the actions are tried.
-/

namespace CounterForms

namespace Bindings

theorem read_chord_ok (texts : BindingTexts) (action : Action) (chord : Chord)
    (read : readChord texts action = .ok chord) : Chord.ofText (texts action) = .ok chord := by
  unfold readChord at read
  cases given : Chord.ofText (texts action) with
  | error fault =>
      rw [given] at read
      cases read
  | ok held =>
      rw [given] at read
      cases read
      rfl

theorem read_chords_ok (texts : BindingTexts) (bindings : Bindings)
    (read : readChords texts = .ok bindings) (action : Action) :
    Chord.ofText (texts action) = .ok (bindings action) := by
  unfold readChords at read
  obtain ⟨back, backRead, read⟩ := ok_of_bind read
  obtain ⟨selectPrevious, previousRead, read⟩ := ok_of_bind read
  obtain ⟨selectNext, nextRead, read⟩ := ok_of_bind read
  obtain ⟨increase, increaseRead, read⟩ := ok_of_bind read
  obtain ⟨decrease, decreaseRead, read⟩ := ok_of_bind read
  obtain ⟨clear, clearRead, read⟩ := ok_of_bind read
  obtain ⟨save, saveRead, read⟩ := ok_of_bind read
  cases read
  apply read_chord_ok
  cases action with
  | back => exact backRead
  | selectPrevious => exact previousRead
  | selectNext => exact nextRead
  | increase => exact increaseRead
  | decrease => exact decreaseRead
  | clear => exact clearRead
  | save => exact saveRead

theorem mem_actions_of (bindings : Bindings) (chord : Chord) (action : Action) :
    action ∈ bindings.actionsOf chord ↔ bindings action = chord := by
  unfold actionsOf
  rw [List.mem_filter, beq_iff_eq]
  exact and_iff_right action.mem_all

/-- Without conflicts no two actions share a chord. -/
theorem injective_of_conflicts (bindings : Bindings) (none : bindings.conflicts = []) :
    Function.Injective bindings := by
  intro one other shared
  by_contra apart
  have oneHeld := (bindings.mem_actions_of (bindings other) one).mpr shared
  have otherHeld := (bindings.mem_actions_of (bindings other) other).mpr rfl
  -- The first of the actions that share the chord is reported together with all of them.
  cases held : bindings.actionsOf (bindings other) with
  | nil =>
      rw [held] at oneHeld
      cases oneHeld
  | cons first later =>
      cases later with
      | nil =>
          rw [held, List.mem_singleton] at oneHeld otherHeld
          exact apart (oneHeld.trans otherHeld.symm)
      | cons second rest =>
          have firstHeld : bindings first = bindings other := by
            apply (bindings.mem_actions_of _ first).mp
            rw [held]
            exact List.mem_cons_self
          unfold conflicts at none
          have unreported := List.filterMap_eq_nil_iff.mp none first first.mem_all
          rw [firstHeld, held] at unreported
          simp at unreported

theorem of_texts_ok (texts : BindingTexts) (bindings : Bindings)
    (accepted : ofTexts texts = .ok bindings) :
    (∀ action, Chord.ofText (texts action) = .ok (bindings action)) ∧
      Function.Injective bindings := by
  unfold ofTexts at accepted
  obtain ⟨held, read, accepted⟩ := ok_of_bind accepted
  split at accepted
  next none =>
    cases accepted
    exact ⟨read_chords_ok texts bindings read, bindings.injective_of_conflicts none⟩
  next => cases accepted

theorem answers_to_iff (bindings : Bindings) (report : ReportedChord) (action : Action) :
    (bindings action).answersTo report = true ↔ report.StandsFor (bindings action) :=
  (bindings action).answers_iff report

theorem stands_for_unique (bindings : Bindings) (distinct : Function.Injective bindings)
    (report : ReportedChord) (one other : Action) (first : report.StandsFor (bindings one))
    (second : report.StandsFor (bindings other)) : one = other := by
  apply distinct
  apply Chord.reported_injective
  rw [← (report.stands_for_iff _).mp first, (report.stands_for_iff _).mp second]

theorem stands_for_found (bindings : Bindings) (order : List Action) (report : ReportedChord)
    (action : Action)
    (found : order.find? (fun other => (bindings other).answersTo report) = some action) :
    report.StandsFor (bindings action) := by
  have answers := List.find?_some found
  exact (bindings.answers_to_iff report action).mp answers

/-- In whatever order all actions are tried, the one that is found is the one that answers. -/
theorem find_iff (bindings : Bindings) (distinct : Function.Injective bindings)
    (order : List Action) (complete : ∀ action, action ∈ order) (report : ReportedChord)
    (action : Action) :
    order.find? (fun other => (bindings other).answersTo report) = some action ↔
      report.StandsFor (bindings action) := by
  constructor
  · exact bindings.stands_for_found order report action
  · intro stands
    have answers := (bindings.answers_to_iff report action).mpr stands
    cases found : order.find? (fun other => (bindings other).answersTo report) with
    | none => exact absurd answers (List.find?_eq_none.mp found action (complete action))
    | some other =>
        have otherStands := bindings.stands_for_found order report other found
        exact congrArg some
          (bindings.stands_for_unique distinct report other action otherStands stands)

theorem action_iff (bindings : Bindings) (distinct : Function.Injective bindings)
    (report : ReportedChord) (action : Action) :
    bindings.action? report = some action ↔ report.StandsFor (bindings action) :=
  bindings.find_iff distinct Action.all Action.mem_all report action

/-- A chord that is bound and reported with nothing else held calls its own action. -/
theorem action_of_bound (texts : BindingTexts) (bindings : Bindings)
    (accepted : ofTexts texts = .ok bindings) (action : Action) :
    bindings.action? (bindings action) = some action := by
  obtain ⟨read, distinct⟩ := of_texts_ok texts bindings accepted
  rw [action_iff bindings distinct]
  apply ReportedChord.stands_for_reported
  exact Chord.of_text_lowered (texts action) (bindings action) (read action)

/-- How accepted bindings dispatch a report. It calls an action exactly if it stands for the chord
of that action; it stands for the chord of one action at most, so the order in which the actions are
tried does not count; and the chord of every action calls that action. -/
theorem dispatch_exact (texts : BindingTexts) (bindings : Bindings)
    (accepted : ofTexts texts = .ok bindings) :
    (∀ report action, bindings.action? report = some action ↔
      report.StandsFor (bindings action)) ∧
    (∀ report one other, (bindings one).answersTo report = true →
      (bindings other).answersTo report = true → one = other) ∧
    (∀ order : List Action, order.Perm Action.all → ∀ report,
      order.find? (fun action => (bindings action).answersTo report) =
        bindings.action? report) ∧
    (∀ action, bindings.action? (bindings action) = some action) := by
  obtain ⟨-, distinct⟩ := of_texts_ok texts bindings accepted
  refine ⟨bindings.action_iff distinct, ?_, ?_, action_of_bound texts bindings accepted⟩
  · intro report one other first second
    apply bindings.stands_for_unique distinct report
    · exact (bindings.answers_to_iff report one).mp first
    · exact (bindings.answers_to_iff report other).mp second
  · intro order reordered report
    have complete : ∀ action, action ∈ order := by
      intro action
      exact reordered.mem_iff.mpr action.mem_all
    apply Option.ext
    intro action
    rw [bindings.find_iff distinct order complete, bindings.action_iff distinct]

def letterTexts : BindingTexts :=
  (BindingTexts.standard.replace .increase "K").replace .decrease "k"

theorem dispatch_exact_letters :
    ∃ bindings, ofTexts letterTexts = .ok bindings ∧
      bindings.action? ⟨.character 'K', {}⟩ = some .increase ∧
      bindings.action? ⟨.character 'K', { shift := true }⟩ = some .increase ∧
      bindings.action? ⟨.character 'k', {}⟩ = some .decrease ∧
      bindings.action? ⟨.character 'k', { superKey := true }⟩ ≠ some .decrease := by
  have chords : (ofTexts letterTexts).toOption.map (fun bindings =>
      (bindings .increase, bindings .decrease)) =
        some (⟨.character 'k', { shift := true }⟩, ⟨.character 'k', {}⟩) := by
    decide +kernel
  obtain ⟨bindings, accepted, shown⟩ := ok_of_map _ _ _ chords
  have increase : bindings .increase = ⟨.character 'k', { shift := true }⟩ :=
    congrArg Prod.fst shown
  have decrease : bindings .decrease = ⟨.character 'k', {}⟩ := congrArg Prod.snd shown
  obtain ⟨calls, -, -, own⟩ := dispatch_exact letterTexts bindings accepted
  have capital (modifiers : Modifiers) :
      (Chord.mk (.character 'K') modifiers).reported.StandsFor
        ⟨.character 'k', { modifiers with shift := true }⟩ :=
    .capital 'K' 'k' modifiers (by decide) (by decide)
  refine ⟨bindings, accepted, ?_, ?_, ?_, ?_⟩
  · rw [calls, increase]
    exact capital {}
  · rw [calls, increase]
    exact capital { shift := true }
  · have small := own .decrease
    rw [decrease] at small
    exact small
  · rw [ne_eq, calls, decrease, ReportedChord.stands_for_iff]
    decide

end Bindings

end CounterForms
