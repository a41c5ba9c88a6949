import CounterForms.Proofs.Key.Dispatch
import CounterForms.Proofs.Session.Step

/-!
Which actions can be called at all. A session takes some reports for an interruption before it looks
at its bindings; an action whose chord is always taken for one cannot be called, unless it ends the
session as an interruption does.
-/

namespace CounterForms

namespace Chord

/-- The letter C with Control, with or without Alt, but without Shift. -/
def Seized (bound : Chord) : Prop :=
  bound.code = .character 'c' ∧ bound.modifiers.control = true ∧ bound.modifiers.shift = false

instance (bound : Chord) : Decidable bound.Seized := inferInstanceAs (Decidable (_ ∧ _ ∧ _))

theorem interrupts_iff (chord : Chord) :
    chord.reported.interrupts = true ↔
      chord.code = .character 'c' ∧ chord.modifiers.control = true := by
  rw [ReportedChord.interrupts, Bool.and_eq_true, beq_iff_eq]
  show ReportedCode.known chord.code = .known (.character 'c') ∧
    chord.modifiers.control = true ↔ _
  rw [ReportedCode.known.injEq]

theorem interrupts_of_seized (bound : Chord) (seized : bound.Seized) (report : ReportedChord)
    (stands : report.StandsFor bound) : report.interrupts = true := by
  obtain ⟨code, control, noShift⟩ := seized
  cases stands with
  | capital letter small modifiers isCapital isSmall => cases noShift
  | itself _ _ => exact (interrupts_iff bound).mpr ⟨code, control⟩

/-- With Shift the terminal may report the capital, which interrupts nothing. -/
theorem report_of_unseized (bound : Chord) (lowered : bound.lowered = bound)
    (free : ¬bound.Seized) :
    ∃ report : ReportedChord, report.StandsFor bound ∧ report.interrupts = false := by
  by_cases interrupting : bound.reported.interrupts = true
  · obtain ⟨code, ⟨control, shift, alt⟩⟩ := bound
    obtain ⟨isLetter, held⟩ := (interrupts_iff _).mp interrupting
    change code = .character 'c' at isLetter
    subst isLetter
    have shifted : shift = true := by
      by_contra noShift
      exact free ⟨rfl, held, by simpa using noShift⟩
    subst shifted
    refine ⟨(Chord.mk (.character 'C') ⟨control, true, alt⟩).reported, ?_, rfl⟩
    exact .capital 'C' 'c' ⟨control, true, alt⟩ (by decide) (by decide)
  · exact ⟨bound, ReportedChord.stands_for_reported bound lowered, by simpa using interrupting⟩

end Chord

namespace Session

/-- Whenever the event is reported to a running session with these bindings, the session carries out
the action. -/
def Performs (bindings : Bindings) (event : KeyEvent) (action : Action) : Prop :=
  ∀ session : Session, session.bindings = bindings → session.ended = false →
    session.take event = session.act action

theorem take_interrupting (session : Session) (report : ReportedChord)
    (running : session.ended = false) (interrupts : report.interrupts = true) :
    session.take ⟨report, .press⟩ = { session with ended := true } := by
  rw [take, if_pos rfl, press, running, interrupts]
  rfl

theorem act_back (session : Session) : session.act .back = { session with ended := true } := by
  simp only [act, FormScreen.act, change_events_same, Workspace.noteAll, List.foldl_nil]

theorem performs_called (bindings : Bindings) (report : ReportedChord) (action : Action)
    (free : report.interrupts = false) (calls : bindings.action? report = some action) :
    Performs bindings ⟨report, .press⟩ action := by
  intro session bound running
  apply take_called
  rw [called?, if_pos ⟨rfl, running, free⟩, bound]
  exact calls

theorem some_key_performs (texts : BindingTexts) (bindings : Bindings)
    (accepted : Bindings.ofTexts texts = .ok bindings) (action : Action)
    (free : action = .back ∨ ¬(bindings action).Seized) :
    ∃ report, Performs bindings ⟨report, .press⟩ action := by
  obtain ⟨read, distinct⟩ := Bindings.of_texts_ok texts bindings accepted
  by_cases seized : (bindings action).Seized
  · have isBack : action = .back := free.resolve_right fun unseized => unseized seized
    subst isBack
    obtain ⟨code, control, -⟩ := seized
    refine ⟨bindings .back, fun session _ running => ?_⟩
    rw [act_back]
    exact session.take_interrupting _ running ((Chord.interrupts_iff _).mpr ⟨code, control⟩)
  · have lowered := Chord.of_text_lowered (texts action) (bindings action) (read action)
    obtain ⟨report, stands, uninterrupting⟩ := Chord.report_of_unseized _ lowered seized
    have calls := (bindings.action_iff distinct report action).mpr stands
    exact ⟨report, performs_called bindings report action uninterrupting calls⟩

def telling (bindings : Bindings) : Session where
  screen := {
    form := ⟨"Tally", [.ofDeclaration { name := "a", label := "A" } none,
      .ofDeclaration { name := "b", label := "B" } (some 5),
      .ofDeclaration { name := "c", label := "C" } none]⟩
    list := QuestionList.select {} 1 }
  source := .memory Ledger.empty
  workspace := ⟨⟨[], [], []⟩, none⟩
  theme := ⟨{}, default⟩
  bindings
  showsStatus := true
  savesOnExit := true

def trace (session : Session) : Nat × Option (Option Int) × Status × Bool :=
  (session.screen.list.selected, session.screen.selectedQuestion?.map Question.answer,
    session.status, session.ended)

def traceOf : Action → Nat × Option (Option Int) × Status × Bool
  | .back => (1, some (some 5), .idle, true)
  | .selectPrevious => (0, some none, .idle, false)
  | .selectNext => (2, some none, .idle, false)
  | .increase => (1, some (some 6), .modified, false)
  | .decrease => (1, some (some 4), .modified, false)
  | .clear => (1, some none, .modified, false)
  | .save => (1, some (some 5), .saved, false)

theorem trace_telling (bindings : Bindings) (action : Action) :
    ((telling bindings).act action).trace = traceOf action := by
  cases action <;> rfl

theorem trace_of_injective : Function.Injective traceOf := by
  intro one other same
  cases one <;> cases other <;> first | rfl | cases same

theorem trace_of_idle (action : Action) : traceOf action ≠ (1, some (some 5), .idle, false) := by
  intro same
  cases action <;> cases same

theorem no_key_performs (bindings : Bindings) (action : Action)
    (seized : (bindings action).Seized) (other : action ≠ .back) (event : KeyEvent) :
    ¬Performs bindings event action := by
  intro performs
  have performed := congrArg trace (performs (telling bindings) rfl rfl)
  rw [trace_telling] at performed
  cases calls : (telling bindings).called? event with
  | none =>
      rcases (telling bindings).take_idle event calls with same | ended
      · rw [same] at performed
        exact trace_of_idle action performed.symm
      · rw [ended] at performed
        exact other (trace_of_injective performed.symm)
  | some called =>
      rw [(telling bindings).take_called event called calls, trace_telling] at performed
      have isAction := trace_of_injective performed
      subst isAction
      unfold called? at calls
      split at calls
      next taken =>
        have stands := bindings.stands_for_found Action.all event.chord called calls
        have interrupts := Chord.interrupts_of_seized _ seized event.chord stands
        rw [taken.2.2] at interrupts
        cases interrupts
      next => cases calls

/-- Which actions of accepted bindings can be called. Some key performs the action exactly if the
action is to go back or its chord is not the letter C with Control and without Shift. Else every
press of what stands for that chord ends the session. -/
theorem performing_key_iff (texts : BindingTexts) (bindings : Bindings)
    (accepted : Bindings.ofTexts texts = .ok bindings) (action : Action) :
    ((∃ report, Performs bindings ⟨report, .press⟩ action) ↔
      action = .back ∨ ¬(bindings action).Seized) ∧
    ((bindings action).Seized → ∀ report : ReportedChord, report.StandsFor (bindings action) →
      ∀ session : Session, session.ended = false →
        session.take ⟨report, .press⟩ = { session with ended := true }) := by
  constructor
  · constructor
    · rintro ⟨report, performs⟩
      by_contra none
      obtain ⟨other, seized⟩ := not_or.mp none
      exact no_key_performs bindings action (not_not.mp seized) other _ performs
    · exact some_key_performs texts bindings accepted action
  · intro seized report stands session running
    exact session.take_interrupting report running
      (Chord.interrupts_of_seized _ seized report stands)

/-- With Shift held as well, the letter that interrupts can be bound. -/
theorem performing_key_shifted :
    ∃ bindings, Bindings.ofTexts (BindingTexts.standard.replace .clear "<C-S-c>") = .ok bindings ∧
      ∃ report, Performs bindings ⟨report, .press⟩ .clear := by
  have chords : (Bindings.ofTexts
      (BindingTexts.standard.replace .clear "<C-S-c>")).toOption.map (fun bindings =>
        bindings .clear) = some ⟨.character 'c', { control := true, shift := true }⟩ := by
    decide +kernel
  obtain ⟨bindings, accepted, clear⟩ := ok_of_map _ _ _ chords
  have free : ¬(bindings .clear).Seized := by
    rw [clear]
    decide
  exact ⟨bindings, accepted,
    (performing_key_iff _ bindings accepted .clear).1.mpr (.inr free)⟩

/-- Bindings may be accepted although no key performs one of their actions. -/
theorem accepted_without_key :
    ∃ bindings, Bindings.ofTexts (BindingTexts.standard.replace .clear "<C-c>") = .ok bindings ∧
      ∀ event, ¬Performs bindings event .clear := by
  have chords : (Bindings.ofTexts
      (BindingTexts.standard.replace .clear "<C-c>")).toOption.map (fun bindings =>
        bindings .clear) = some ⟨.character 'c', { control := true }⟩ := by
    decide +kernel
  obtain ⟨bindings, accepted, clear⟩ := ok_of_map _ _ _ chords
  have seized : (bindings .clear).Seized := by
    rw [clear]
    decide
  exact ⟨bindings, accepted, no_key_performs bindings .clear seized (by decide)⟩

end Session

end CounterForms
