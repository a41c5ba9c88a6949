import CounterForms.Proofs.Answers.Mirroring
import CounterForms.Proofs.Session.Run
import CounterForms.Proofs.Session.Turns

/-!
What the status of a session says. It is written where a press changes an answer and where a save
ends, while the facts it reports lie in the form, the source and on the disk; all of them are
followed together through any turns, with saves that go well or fail in any way.
-/

namespace CounterForms

namespace Session

structure Truthful (session : Session) (loading : Loading) : Prop where
  mirrors : loading.Mirrors session.source session.workspace
  fills : session.form.Fills loading.definition
  saved : session.status = .saved → session.source.Keeps session.form
  idle : session.status = .idle → session.form = loading.form

variable {loading : Loading}

theorem Truthful.save {session : Session} (truthful : session.Truthful loading) :
    session.save.2.Truthful loading := by
  obtain ⟨mirrors, kept⟩ := truthful.mirrors.keep session.form truthful.fills
  have fills := session.save_form ▸ truthful.fills
  have status := session.save_status
  have noted : loading.Mirrors session.save.2.source session.save.2.workspace := by
    rw [save_source]
    exact mirrors.notes (session.save_notes loading.path mirrors.apart)
  cases done : session.save.1 with
  | ok _ =>
      rw [done] at status
      refine ⟨noted, fills, fun _ => ?_, fun isIdle => ?_⟩
      · rw [save_source, save_form]
        exact kept (session.save_result.symm.trans done)
      · cases status.symm.trans isIdle
  | error failure =>
      rw [done] at status
      refine ⟨noted, fills, fun isSaved => ?_, fun isIdle => ?_⟩
      · -- The session was saved before, but then there was nothing left that could fail.
        have clean := truthful.mirrors.keep_kept truthful.fills
          (truthful.saved (status.symm.trans isSaved))
        rw [save_result, Session.kept, clean] at done
        cases done
      · rw [save_form]
        exact truthful.idle (status.symm.trans isIdle)

theorem Truthful.try_save {session : Session} (truthful : session.Truthful loading) :
    session.trySave.Truthful loading := by
  have saved := truthful.save
  cases done : session.save.1 with
  | ok _ =>
      rw [session.try_save_ok done]
      exact saved
  | error failure =>
      have status := session.try_save_status
      rw [done] at status
      refine ⟨?_, session.try_save_form ▸ truthful.fills, fun isSaved => ?_, fun isIdle => ?_⟩
      · rw [try_save_source]
        exact saved.mirrors.notes (session.try_save_notes loading.path saved.mirrors.apart)
      · cases status.symm.trans isSaved
      · cases status.symm.trans isIdle

theorem turn_fills {definition : FormDefinition} (session : Session) (turn : Turn)
    (fills : session.form.Fills definition) : (session.turn turn).form.Fills definition := by
  cases turn with
  | key event => exact session.take_fills event fills
  | draw canvas =>
      obtain ⟨list, drawn⟩ := session.draw_list canvas
      show (session.draw canvas).1.form.Fills definition
      rw [drawn]
      exact fills

theorem Truthful.turn {session : Session} (truthful : session.Truthful loading) (turn : Turn) :
    (session.turn turn).Truthful loading := by
  by_cases saves : Moment.Saves ⟨session, turn⟩
  · have after := turn_saves ⟨session, turn⟩ saves
    rw [Moment.after] at after
    rw [after]
    exact truthful.try_save
  · obtain ⟨reports, source, notes⟩ :=
      turn_reports ⟨session, turn⟩ loading.path truthful.mirrors.apart saves
    have fills := session.turn_fills turn truthful.fills
    have mirrors := truthful.mirrors.notes notes
    rw [← source] at mirrors
    cases reports with
    | same form status =>
        refine ⟨mirrors, fills, fun isSaved => ?_, fun isIdle => ?_⟩
        · have kept := truthful.saved (status.symm.trans isSaved)
          have answered : (session.turn turn).form = session.form := form
          rw [answered]
          exact source.symm ▸ kept
        · exact form.trans (truthful.idle (status.symm.trans isIdle))
    | changed differs status =>
        refine ⟨mirrors, fills, fun isSaved => ?_, fun isIdle => ?_⟩
        · cases status.symm.trans isSaved
        · cases status.symm.trans isIdle

theorem Truthful.run {session : Session} (truthful : session.Truthful loading)
    (turns : List Turn) : (session.run turns).Truthful loading := by
  induction turns generalizing session with
  | nil => exact truthful
  | cons turn later induction => exact induction (truthful.turn turn)

theorem leave_state (session : Session) :
    session.leave.2 = if session.savesOnExit then session.save.2 else session := by
  unfold leave
  split <;> rfl

theorem Truthful.leave {session : Session} (truthful : session.Truthful loading) :
    session.leave.2.Truthful loading := by
  rw [leave_state]
  split
  · exact truthful.save
  · exact truthful

theorem turn_modified (moment : Moment) (path : Path)
    (apart : moment.session.workspace.Apart path) :
    moment.after.status = .modified ↔
      moment.Changes ∨ (¬moment.Saves ∧ moment.session.status = .modified) := by
  by_cases saves : moment.Saves
  · have after := turn_saves moment saves
    have same : ¬moment.Changes := by
      rw [Moment.Changes, after, try_save_form]
      exact fun differs => differs rfl
    have status := moment.session.try_save_status
    rw [← after] at status
    simp only [same, saves, not_true, false_and, or_false, iff_false]
    rw [status]
    cases moment.session.save.1 <;> simp
  · obtain ⟨reports, -⟩ := turn_reports moment path apart saves
    cases reports with
    | same form status =>
        have same : ¬moment.Changes := fun differs => differs (congrArg Form.answers form)
        have kept : moment.after.status = moment.session.status := status
        simp [same, saves, kept]
    | changed differs status => exact iff_of_true status (.inl differs)

/-- A session that does not start as modified is modified exactly while a press changed an answer
since the last attempt to save. -/
theorem Truthful.modified_iff {session : Session} (truthful : session.Truthful loading)
    (begun : session.status ≠ .modified) (turns : List Turn) :
    (session.run turns).status = .modified ↔ session.ChangedUnsaved turns := by
  induction turns using List.reverseRecOn with
  | nil =>
      have none : ¬session.ChangedUnsaved [] := by
        rintro ⟨before, moment, later, split, -⟩
        simp [moments] at split
      exact iff_of_false begun none
  | append_singleton turns last induction =>
      have apart := (truthful.run turns).mirrors.apart
      rw [changed_unsaved_snoc, ← induction, run_snoc]
      exact turn_modified ⟨session.run turns, last⟩ loading.path apart

theorem leave_modified (session : Session) :
    session.leave.2.status = .modified ↔
      session.status = .modified ∧ ¬(session.savesOnExit = true ∧ session.leave.1 = .ok ()) := by
  have status := session.save_status
  unfold leave
  by_cases exit : session.savesOnExit = true
  · rw [if_pos exit]
    generalize session.save = outcome at status ⊢
    obtain ⟨result, left⟩ := outcome
    cases result with
    | ok _ => simp [during, status, exit]
    | error failure => simp [during, status, exit]
  · rw [if_neg exit]
    simp [exit]

theorem run_saves_on_exit (session : Session) (turns : List Turn) :
    (session.run turns).savesOnExit = session.savesOnExit := by
  induction turns generalizing session with
  | nil => rfl
  | cons turn later induction =>
      refine (induction (session.turn turn)).trans ?_
      cases turn with
      | key event => exact session.take_saves_on_exit event
      | draw canvas =>
          obtain ⟨list, drawn⟩ := session.draw_list canvas
          show (session.draw canvas).1.savesOnExit = session.savesOnExit
          rw [drawn]

theorem truthful_opened (loading : Loading) (config : Config) (workspace : Workspace)
    (session : Session) (same : loading.disk = workspace.disk)
    (started : start config loading.form (.onDisk loading.file) workspace = .ok session)
    (apart : workspace.Apart loading.path) : session.opened.Truthful loading := by
  obtain ⟨form, status, source, rfl, -⟩ := start_ok _ _ _ _ session started
  have mirrors := Loading.mirrors_start session.workspace same apart
  have notes := session.workspace.note_notes (.formOpened session.form.title) loading.path apart
  refine ⟨?_, ?_, fun isSaved => ?_, fun _ => form⟩
  · show loading.Mirrors session.source _
    rw [source]
    exact mirrors.notes notes
  · show session.form.Fills loading.definition
    rw [form]
    exact Form.bind_fills loading.definition _
  · cases status.symm.trans isSaved

/-- What the status of a session says, after any keys and drawings and also once the session was
left. `saved` says that nothing waits to be written and that the file, opened again, is bound to the
form; what can stand in the way is a number under a name that the definition does not declare, which
is not accepted any more once it was written. `idle` says that every answer is the one that was
bound. `modified` says that a press changed an answer since the session started or a save was last
attempted; a save that goes well on leaving ends that too. -/
theorem status_truthful (definition : FormDefinition) (path : Path) (config : Config)
    (workspace : Workspace) (file : AnswerFile) (session : Session) (turns : List Turn)
    (checked : definition.check = .ok ())
    (opened : AnswerFile.load workspace.disk path = .ok file)
    (started : start config (definition.bindTo (.onDisk file)) (.onDisk file) workspace =
      .ok session)
    (apart : workspace.Apart path) :
    let reached := session.opened.run turns
    (∀ state ∈ [reached, reached.leave.2],
      (state.status = .saved →
        state.source.isDirty = false ∧
        (definition.ReopensAs state.workspace.disk path state.form ↔
          workspace.disk.SameFile state.workspace.disk path ∨
            file.ledger.RereadsBeside definition.names)) ∧
      (state.status = .idle → state.form = definition.bindTo (.onDisk file))) ∧
    (reached.status = .modified ↔ session.opened.ChangedUnsaved turns) ∧
    (reached.leave.2.status = .modified ↔
      session.opened.ChangedUnsaved turns ∧
        ¬(config.saveOnExit = true ∧ reached.leave.1 = .ok ())) := by
  let loading : Loading := ⟨definition, path, workspace.disk, file, checked, opened⟩
  have begun : session.opened.Truthful loading :=
    truthful_opened loading config workspace session rfl started apart
  obtain ⟨-, status, -, -, exit⟩ := start_ok _ _ _ _ session started
  have idle : session.opened.status ≠ .modified := by
    have noted : session.opened.status = session.status := rfl
    simp [noted, status]
  have exits : (session.opened.run turns).savesOnExit = config.saveOnExit :=
    (session.opened.run_saves_on_exit turns).trans exit
  have modified := begun.modified_iff idle turns
  have truthful := begun.run turns
  have left := (session.opened.run turns).leave_modified
  rw [exits, modified] at left
  refine ⟨?_, modified, left⟩
  intro state member
  have either : state = session.opened.run turns ∨ state = (session.opened.run turns).leave.2 := by
    simpa using member
  have told : state.Truthful loading := by
    rcases either with rfl | rfl
    · exact truthful
    · exact truthful.leave
  refine ⟨fun isSaved => ?_, told.idle⟩
  have kept := told.saved isSaved
  refine ⟨?_, told.mirrors.reopens told.fills kept⟩
  obtain ⟨held, source, clean, -⟩ := kept
  rw [source]
  exact clean

def savingTurns : List Turn :=
  [.key ⟨⟨.known .right, {}⟩, .press⟩, .key ⟨⟨.character 's', { control := true }⟩, .press⟩,
    .key ⟨⟨.character 's', { control := true }⟩, .press⟩]

/-- The status may say that the answers are saved while their file cannot be opened any more. -/
theorem saved_unopenable :
    ((AnswerFile.load misreadDisk smallPath).toOption.bind fun file =>
      (start {} (smallDefinition.bindTo (.onDisk file)) (.onDisk file)
        ⟨misreadDisk, none⟩).toOption.map fun session =>
          ((session.opened.run savingTurns).status,
            (AnswerFile.load (session.opened.run savingTurns).workspace.disk
              smallPath).toBool)) = some (.saved, false) := by
  decide +kernel

def tornDisk : Disk :=
  { smallDisk with hindrances := [some ⟨.noSpace, some "\x7b\n".toUTF8⟩] }

theorem torn_opened : AnswerFile.load tornDisk smallPath = .ok smallFile :=
  AnswerFile.load_of_ledger _ _ _ (by decide +kernel)

theorem status_truthful_torn :
    ∃ session,
      start {} (smallDefinition.bindTo (.onDisk smallFile)) (.onDisk smallFile)
        ⟨tornDisk, none⟩ = .ok session ∧
      (session.opened.run (savingTurns.take 2)).status =
        .error "Failed to write \"tally.json\"" ∧
      (session.opened.run savingTurns).status = .saved ∧
      (session.opened.run savingTurns).source.isDirty = false ∧
      smallDefinition.ReopensAs (session.opened.run savingTurns).workspace.disk smallPath
        (session.opened.run savingTurns).form := by
  have statuses : (start {} (smallDefinition.bindTo (.onDisk smallFile)) (.onDisk smallFile)
      ⟨tornDisk, none⟩).toOption.map (fun session =>
        ((session.opened.run (savingTurns.take 2)).status,
          (session.opened.run savingTurns).status)) =
        some (.error "Failed to write \"tally.json\"", .saved) := by decide +kernel
  obtain ⟨session, given, shown⟩ := Option.map_eq_some_iff.mp statuses
  obtain ⟨failed, saved⟩ := Prod.ext_iff.mp shown
  have started := ok_of_to_option _ session given
  have rereads : smallFile.ledger.RereadsBeside smallDefinition.names := by
    have each : ∀ entry ∈ smallFile.ledger.entries, entry.2.reread?.isSome = true := by
      decide +kernel
    exact fun entry member _ => each entry member
  have tells := status_truthful smallDefinition smallPath {} ⟨tornDisk, none⟩ smallFile session
    savingTurns small_checked torn_opened started (Workspace.apart_unkept _ _)
  obtain ⟨clean, reopens⟩ := (tells.1 _ (by simp)).1 saved
  exact ⟨session, started, failed, saved, clean, reopens.mpr (.inr rereads)⟩

end Session

end CounterForms
