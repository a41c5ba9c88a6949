import CounterForms.Proofs.Session.Step

/-!
Whole sessions. Whatever keys are reported, in whatever order and with whatever saves failing on the
way, the answers file is either the one that was opened or holds the form that was saved last.
-/

namespace CounterForms

namespace Session

theorem start_ok (config : Config) (form : Form) (source : AnswerSource) (workspace : Workspace)
    (session : Session) (started : start config form source workspace = .ok session) :
    session.form = form ∧ session.status = .idle ∧ session.source = source ∧
      session.workspace = workspace ∧ session.savesOnExit = config.saveOnExit := by
  unfold start at started
  cases bound : during .openScreen (orFail .binding (Bindings.ofTexts config.bindings)) with
  | error failure =>
      rw [bound] at started
      cases started
  | ok bindings =>
      cases themed : during .openScreen (orFail .color (Theme.ofSettings config.styles)) with
      | error failure =>
          rw [bound, themed] at started
          cases started
      | ok theme =>
          rw [bound, themed] at started
          cases started
          exact ⟨rfl, rfl, rfl, rfl, rfl⟩

theorem take_saves_on_exit (session : Session) (event : KeyEvent) :
    (session.take event).savesOnExit = session.savesOnExit := by
  cases calls : session.called? event with
  | none => rcases session.take_idle event calls with same | ended <;> simp only [*]
  | some action =>
      rw [session.take_called event action calls]
      exact session.act_saves_on_exit action

theorem take_all_saves_on_exit (session : Session) (events : List KeyEvent) :
    (session.takeAll events).savesOnExit = session.savesOnExit := by
  induction events generalizing session with
  | nil => rfl
  | cons event later induction =>
      exact (induction (session.take event)).trans (session.take_saves_on_exit event)

theorem take_form (session : Session) (event : KeyEvent) :
    (session.take event).form =
      match (session.called? event).bind Button.ofAction? with
      | some button => session.form.modify session.screen.list.selected button.press
      | none => session.form := by
  cases calls : session.called? event with
  | none => rcases session.take_idle event calls with same | ended <;> simp only [*] <;> rfl
  | some action =>
      rw [session.take_called event action calls]
      exact session.act_form action

theorem take_fills {definition : FormDefinition} (session : Session) (event : KeyEvent)
    (fills : session.form.Fills definition) : (session.take event).form.Fills definition := by
  rw [take_form]
  split
  next button _ => exact fills.modify _ _ button.press_keeps
  next => exact fills

theorem take_all_fills {definition : FormDefinition} (session : Session) (events : List KeyEvent)
    (fills : session.form.Fills definition) : (session.takeAll events).form.Fills definition := by
  induction events generalizing session with
  | nil => exact fills
  | cons event later induction => exact induction _ (session.take_fills event fills)

def savedAfter (session : Session) (event : KeyEvent) (saved : Option Form) : Option Form :=
  if session.called? event = some .save then lastSaved session.save.1 session.form saved else saved

/-- The form as it stood at the last of the reported keys that saved it, if one of them did. -/
def savedForm (session : Session) (saved : Option Form) : List KeyEvent → Option Form
  | [] => saved
  | event :: later => (session.take event).savedForm (session.savedAfter event saved) later

variable {opening : Opening} {Allowed : Form → Prop}

def Tracked (opening : Opening) (Allowed : Form → Prop) (session : Session)
    (saved : Option Form) : Prop :=
  opening.Tracks Allowed session.source session.workspace saved

theorem Tracked.save {session : Session} {saved : Option Form}
    (tracked : session.Tracked opening Allowed saved)
    (fills : session.form.Fills opening.definition) (allowed : Allowed session.form) :
    session.save.2.Tracked opening Allowed (lastSaved session.save.1 session.form saved) := by
  have written := Opening.Tracks.keep tracked session.form fills allowed
  rw [Tracked, save_source, save_result]
  exact written.notes (session.save_notes opening.path written.apart)

theorem Tracked.take {session : Session} {saved : Option Form}
    (tracked : session.Tracked opening Allowed saved)
    (fills : session.form.Fills opening.definition) (allowed : Allowed session.form)
    (event : KeyEvent) :
    (session.take event).Tracked opening Allowed (session.savedAfter event saved) := by
  unfold savedAfter
  cases calls : session.called? event with
  | none => rcases session.take_idle event calls with same | ended <;> simp only [*] <;> exact tracked
  | some action =>
      rw [session.take_called event action calls]
      by_cases saves : action = .save
      · subst saves
        have written := tracked.save fills allowed
        rw [if_pos rfl, act_save, Tracked, try_save_source]
        exact Opening.Tracks.notes written
          (session.try_save_notes opening.path (Opening.Tracks.apart written))
      · have other : ¬some action = some Action.save := by simpa using saves
        obtain ⟨source, notes⟩ := session.act_unsaved action opening.path
          (Opening.Tracks.apart tracked) saves
        rw [if_neg other, Tracked, source]
        exact Opening.Tracks.notes tracked notes

/-- Any number of reported keys keeps track of the file. -/
theorem Tracked.take_all (events : List KeyEvent) {session : Session} {saved : Option Form}
    (tracked : session.Tracked opening Allowed saved)
    (fills : session.form.Fills opening.definition)
    (allowed : ∀ before, before <+: events → Allowed (session.takeAll before).form) :
    (session.takeAll events).Tracked opening Allowed (session.savedForm saved events) := by
  induction events generalizing session saved with
  | nil => exact tracked
  | cons event later induction =>
      refine induction (tracked.take fills (allowed [] List.nil_prefix) event)
        (session.take_fills event fills) fun before isPrefix => ?_
      exact allowed (event :: before) (List.cons_prefix_cons.mpr ⟨rfl, isPrefix⟩)

/-- A session that was started on an opened file and shows its form tracks that file. -/
theorem tracked_opened (opening : Opening) (Allowed : Form → Prop) (config : Config)
    (session : Session)
    (started : start config opening.form (.onDisk opening.file) opening.workspace = .ok session) :
    session.opened.Tracked opening Allowed none ∧ session.opened.form = opening.form ∧
      session.opened.savesOnExit = config.saveOnExit := by
  obtain ⟨form, -, source, workspace, exit⟩ := start_ok _ _ _ _ session started
  have begun := opening.tracks_start Allowed
  refine ⟨?_, form, exit⟩
  show opening.Tracks Allowed session.source (session.workspace.note _) none
  rw [source, workspace]
  exact begun.notes (opening.workspace.note_notes _ opening.path opening.apart)

theorem Tracked.leave {session : Session} {saved : Option Form}
    (tracked : session.Tracked opening Allowed saved)
    (fills : session.form.Fills opening.definition) (allowed : Allowed session.form) :
    session.leave.2.Tracked opening Allowed
      (if session.savesOnExit then lastSaved session.leave.1 session.form saved else saved) := by
  have written := tracked.save fills allowed
  unfold Session.leave
  by_cases exit : session.savesOnExit = true
  · rw [if_pos exit, if_pos exit]
    generalize session.save = outcome at written ⊢
    obtain ⟨result, left⟩ := outcome
    cases result <;> exact written
  · rw [if_neg exit, if_neg exit]
    exact tracked

/-- What a session leaves of the answers file. If it saves when it is left and that goes well, the
file is bound to the form as it stood then; if it does not save, the file is bound to the form as it
stood at the last save that went well, or has the bytes that it had if there was none. What can
stand in the way is a number under a name that the definition does not declare, which is not
accepted any more once it was written: the file is opened again exactly if there is none, or if
nothing was written over it. -/
theorem leave_reopens (definition : FormDefinition) (path : Path) (config : Config)
    (workspace : Workspace) (file : AnswerFile) (session : Session) (events : List KeyEvent)
    (checked : definition.check = .ok ())
    (opened : AnswerFile.load workspace.disk path = .ok file)
    (started : start config (definition.bindTo (.onDisk file)) (.onDisk file) workspace =
      .ok session)
    (spares : workspace.disk.SparesFiles) (apart : workspace.Apart path) :
    (config.saveOnExit = true → (session.opened.takeAll events).leave.1 = .ok () →
      (definition.ReopensAs (session.opened.takeAll events).leave.2.workspace.disk path
          (session.opened.takeAll events).form ↔
        workspace.disk.SameFile (session.opened.takeAll events).leave.2.workspace.disk path ∨
          file.ledger.RereadsBeside definition.names)) ∧
    (config.saveOnExit = false →
      (session.opened.takeAll events).leave = (.ok (), session.opened.takeAll events) ∧
      (session.opened.savedForm none events = none →
        workspace.disk.SameFile (session.opened.takeAll events).workspace.disk path) ∧
      ∀ form, session.opened.savedForm none events = some form →
        (definition.ReopensAs (session.opened.takeAll events).workspace.disk path form ↔
          workspace.disk.SameFile (session.opened.takeAll events).workspace.disk path ∨
            file.ledger.RereadsBeside definition.names)) := by
  let opening : Opening := ⟨definition, path, workspace, file, checked, opened, spares, apart⟩
  obtain ⟨begun, form, exit⟩ :=
    tracked_opened opening (fun form => form.Fills definition) config session started
  have fills : session.opened.form.Fills definition :=
    form ▸ Form.bind_fills definition (AnswerSource.answer? (.onDisk file))
  have tracked := begun.take_all events fills
    fun before _ => session.opened.take_all_fills before fills
  have filled := session.opened.take_all_fills events fills
  have exits := (session.opened.take_all_saves_on_exit events).trans exit
  generalize session.opened.savedForm none events = saved at tracked ⊢
  generalize session.opened.takeAll events = final at tracked filled exits ⊢
  constructor
  · intro saves done
    have left := tracked.leave filled filled
    rw [exits, saves, if_pos rfl, done] at left
    have reopens := Opening.Tracks.reopens left filled
    exact reopens
  · intro noSave
    refine ⟨by rw [leave, exits, noSave]; rfl, ?_, ?_⟩
    · rintro rfl
      have unsaved := Opening.Tracks.unsaved tracked
      exact unsaved
    · rintro last rfl
      have reopens := Opening.Tracks.reopens tracked (Opening.Tracks.allowed tracked)
      exact reopens

theorem small_started : ∃ session, start {} (smallDefinition.bindTo (.onDisk smallFile))
    (.onDisk smallFile) ⟨smallDisk, none⟩ = .ok session :=
  exists_of_to_option _ (by decide +kernel)

def smallKeys : List KeyEvent :=
  [⟨⟨.known .right, {}⟩, .press⟩, ⟨⟨.character 'c', { control := true }⟩, .press⟩]

theorem leave_reopens_small :
    ∃ session,
      start {} (smallDefinition.bindTo (.onDisk smallFile)) (.onDisk smallFile)
        ⟨smallDisk, none⟩ = .ok session ∧
      ((session.opened.takeAll smallKeys).leave.1 = .ok () →
        (smallDefinition.ReopensAs (session.opened.takeAll smallKeys).leave.2.workspace.disk
            smallPath (session.opened.takeAll smallKeys).form ↔
          smallDisk.SameFile (session.opened.takeAll smallKeys).leave.2.workspace.disk smallPath ∨
            smallFile.ledger.RereadsBeside smallDefinition.names)) := by
  obtain ⟨session, started⟩ := small_started
  have spares : smallDisk.SparesFiles := by
    intro hindrance waits
    cases waits
  have left := leave_reopens smallDefinition smallPath {} ⟨smallDisk, none⟩ smallFile session
    smallKeys small_checked small_opened started spares (Workspace.apart_unkept _ _)
  exact ⟨session, started, left.1 rfl⟩

def misreadDisk : Disk where
  entries := [(["tally.json"], .file "\x7b\"x\": 1801439850948199e0\x7d".toUTF8)]
  workingDirectory := []

/-- A session that is left and saves without a fault may leave a file that is not opened again. -/
theorem left_unopenable :
    ((AnswerFile.load misreadDisk smallPath).toOption.bind fun file =>
      (start {} (smallDefinition.bindTo (.onDisk file)) (.onDisk file)
        ⟨misreadDisk, none⟩).toOption.map fun session =>
          ((session.opened.takeAll smallKeys).leave.1.toBool,
            (AnswerFile.load (session.opened.takeAll smallKeys).leave.2.workspace.disk
              smallPath).toBool)) = some (true, false) := by
  decide +kernel

end Session

end CounterForms
