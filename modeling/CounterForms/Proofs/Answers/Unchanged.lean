import CounterForms.Proofs.Answers.Calls
import CounterForms.Proofs.Answers.Mirroring
import CounterForms.Proofs.Session.Step

/-!
Saving when there is nothing new. A form that is handed back to a clean file leaves it clean exactly
if the file holds the answer of every question as it is, whatever else it holds and however its text
is laid out; a flush then leaves the disk alone. What a save has written is of that kind, so that a
second one writes nothing.
-/

namespace CounterForms

namespace AnswerSource

/-- A clean file is left as it is when it takes the answers of a form and is flushed, and so is the
disk, exactly if it holds the answers and is there. -/
theorem flush_form_idle_iff (file : AnswerFile) (form : Form) (clean : file.dirty = false)
    (disk : Disk) :
    ((onDisk file).setAnswers form.answers).flush disk = ⟨.ok false, .onDisk file, disk⟩ ↔
      file.ledger.Holds form ∧ disk.contains file.path = true := by
  rw [set_answers_on_disk, flush]
  constructor
  · intro idle
    have written := congrArg Flushed.written idle
    have outcome := (file.setAnswers form.answers).flush_cases disk
    dsimp only at written
    generalize (file.setAnswers form.answers).flush disk = flushed at outcome written
    cases outcome with
    | skipped still there =>
        rw [file.set_answers_path] at there
        exact ⟨((file.set_form_clean_iff form).mp still).2, there⟩
    | written extended found others => cases written
    | failed quiet unwritten => cases written
  · rintro ⟨holds, there⟩
    rw [file.set_held_answers form holds, (file.flush_idle_iff disk).mpr ⟨clean, there⟩]

/-- A flush of a form that goes well leaves its path leading somewhere, and as long as it does the
next flush of the form leaves everything as it is. -/
theorem flush_form_again (file : AnswerFile) (form : Form) (distinct : form.names.Nodup)
    (disk : Disk) (wrote : Bool) (saved : Flushed)
    (flushed : ((onDisk file).setAnswers form.answers).flush disk = saved)
    (done : saved.written = .ok wrote) :
    saved.disk.contains file.path = true ∧
      ∀ later : Disk, later.contains file.path = true →
        (saved.source.setAnswers form.answers).flush later = ⟨.ok false, saved.source, later⟩ := by
  subst flushed
  rw [set_answers_on_disk] at done ⊢
  obtain ⟨after, there⟩ := (file.setAnswers form.answers).flush_done disk wrote done
  have holds := file.set_answers_holds form distinct
  have source : ((onDisk (file.setAnswers form.answers)).flush disk).source =
      .onDisk { file.setAnswers form.answers with dirty := false } := congrArg onDisk after
  rw [file.set_answers_path] at there
  refine ⟨there, fun later still => ?_⟩
  rw [source]
  refine (flush_form_idle_iff _ form rfl later).mpr ⟨holds, ?_⟩
  rw [← still]
  exact congrArg later.contains (file.set_answers_path form.answers)

/-- What is kept well was flushed well, and is what the flush left. -/
theorem keep_done (source : AnswerSource) (workspace : Workspace)
    (done : (source.keep workspace).result = .ok ()) :
    (∃ wrote, (source.flush workspace.disk).written = .ok wrote) ∧
      (source.keep workspace).source = (source.flush workspace.disk).source := by
  unfold keep at done ⊢
  dsimp only at done ⊢
  split at done
  next failure failed => cases done
  next skipped => rw [skipped]; exact ⟨⟨false, rfl⟩, rfl⟩
  next written => rw [written]; exact ⟨⟨true, rfl⟩, rfl⟩

end AnswerSource

/-- A session that saved, and saves the same form again while its path still leads somewhere, leaves
its source and its workspace as they are. -/
theorem Session.save_again (file : AnswerFile) (before after : Session)
    (distinct : before.form.names.Nodup) (isFile : before.source = .onDisk file)
    (done : before.save.1 = .ok ()) (source : after.source = before.save.2.source)
    (form : after.form = before.form) (there : after.workspace.disk.contains file.path = true) :
    after.kept = ⟨.ok (), after.source, after.workspace⟩ := by
  rw [before.save_result, kept] at done
  obtain ⟨⟨wrote, flushed⟩, kept⟩ := AnswerSource.keep_done _ _ done
  rw [isFile] at flushed kept
  obtain ⟨-, again⟩ := AnswerSource.flush_form_again file before.form distinct _ wrote _ rfl flushed
  rw [before.save_source, Session.kept, isFile, kept] at source
  rw [← source] at again
  rw [Session.kept, AnswerSource.keep, form, again after.workspace.disk there]

namespace OpenFile

/-- A file that was just opened from a path that leads somewhere, or just flushed with success,
whatever happened before. -/
inductive Fresh : OpenFile → Prop
  | opened {disk : Disk} {path : Path} {file : AnswerFile}
      (there : disk.contains path = true) (loaded : AnswerFile.load disk path = .ok file) :
      Fresh ⟨file, disk⟩
  | flushed {held : OpenFile} {wrote : Bool} (done : held.flushed.written = .ok wrote) :
      Fresh (held.call .flush)

theorem Fresh.clean_there {held : OpenFile} (fresh : held.Fresh) :
    held.file.dirty = false ∧ held.disk.contains held.file.path = true := by
  cases fresh with
  | @opened disk path file there loaded =>
      obtain ⟨whole, -, -⟩ := AnswerFile.load_ok disk path file loaded
      rw [whole]
      exact ⟨rfl, there⟩
  | @flushed before wrote done =>
      obtain ⟨file, there⟩ := before.file.flush_done before.disk wrote done
      show before.flushed.file.dirty = false ∧
        before.flushed.disk.contains before.flushed.file.path = true
      rw [OpenFile.flushed, file]
      exact ⟨rfl, there⟩

end OpenFile

/-- Saving when there is nothing new. Take the form of a checked definition, bound to any answers
and edited in any way.

A file that was just opened or flushed stays clean when it takes the answers of the form exactly if
it holds each of them: under every name of the form null, or the whole number that is the answer. (A
number in binary form is neither, even if it equals the answer.) Then and only then, as long as its
path leads somewhere, a flush writes nothing: it leaves the source and the whole disk as they are.

After a flush of the form that went well the path leads somewhere; and as long as it does, another
flush of the same answers writes nothing. So does a session that saved and saves the same form
again, whatever was done in it in between. -/
theorem FormDefinition.unchanged_untouched (definition : FormDefinition)
    (answerOf : String → Option Int) (edits : List (Nat × Edit))
    (checked : definition.check = .ok ()) :
    let form := (Form.bind definition answerOf).editAll edits
    (∀ held : OpenFile, held.Fresh →
      (((AnswerSource.onDisk held.file).setAnswers form.answers).isDirty = false ↔
        held.file.ledger.Holds form) ∧
      held.disk.contains held.file.path = true ∧
      ∀ later : Disk, ((AnswerSource.onDisk held.file).setAnswers form.answers).flush later =
          ⟨.ok false, .onDisk held.file, later⟩ ↔
        held.file.ledger.Holds form ∧ later.contains held.file.path = true) ∧
    (∀ (file : AnswerFile) (disk : Disk) (wrote : Bool) (saved : AnswerSource.Flushed),
      ((AnswerSource.onDisk file).setAnswers form.answers).flush disk = saved →
      saved.written = .ok wrote →
        saved.disk.contains file.path = true ∧
        ∀ later : Disk, later.contains file.path = true →
          (saved.source.setAnswers form.answers).flush later =
            ⟨.ok false, saved.source, later⟩) ∧
    ∀ (file : AnswerFile) (before after : Session), before.source = .onDisk file →
      before.form = form → before.save.1 = .ok () →
      after.source = before.save.2.source → after.form = form →
      after.workspace.disk.contains file.path = true →
        after.save.1 = .ok () ∧ after.kept = ⟨.ok (), after.source, after.workspace⟩ := by
  intro form
  have fills : form.Fills definition := (Form.bind_fills definition answerOf).edit_all edits
  have distinct : form.names.Nodup := fills.names ▸ (definition.check_names checked).1
  refine ⟨fun held fresh => ?_, ?_, ?_⟩
  · obtain ⟨clean, there⟩ := fresh.clean_there
    refine ⟨?_, there, AnswerSource.flush_form_idle_iff held.file form clean⟩
    rw [AnswerSource.set_answers_on_disk]
    exact (held.file.set_form_clean_iff form).trans (and_iff_right clean)
  · intro file disk
    exact AnswerSource.flush_form_again file form distinct disk
  · intro file before after isFile filled done source same there
    have names : before.form.names.Nodup := filled ▸ distinct
    have form := same.trans filled.symm
    have idle := before.save_again file after names isFile done source form there
    exact ⟨after.save_result.trans (congrArg Kept.result idle), idle⟩

def looseText : String := "\n\x7b \"b\" : null ,\r\n\t\"x\":7e0,\"a\": 3\x7d"

def looseDisk : Disk where
  entries := [(["tally.json"], .file looseText.toUTF8)]
  workingDirectory := []

def looseFile : AnswerFile where
  path := smallPath
  ledger := ⟨[("b", .absent), ("x", .floating ⟨false, 7881299347898368, -50⟩),
    ("a", .integer 3)], by decide⟩
  dirty := false

def smallSession : Session where
  screen := .ofForm (smallDefinition.bindTo (.onDisk smallFile))
  source := .onDisk smallFile
  workspace := ⟨smallDisk, none⟩
  theme := ⟨{}, default⟩
  bindings := fun _ => default
  showsStatus := true
  savesOnExit := true

def smallSessionLater : Session := (smallSession.save.2.act .increase).act .decrease

theorem unchanged_untouched_loose :
    AnswerFile.load looseDisk smallPath = .ok looseFile ∧
      ((AnswerSource.onDisk looseFile).setAnswers
        ((smallDefinition.bindTo (.onDisk looseFile)).editAll
          [(0, .press .increase), (1, .set (some 2)), (0, .press .decrease),
            (1, .set none)]).answers).flush looseDisk =
        ⟨.ok false, .onDisk looseFile, looseDisk⟩ ∧
      smallSession.kept.workspace.disk.bytesAt ["tally.json"] ≠
        smallDisk.bytesAt ["tally.json"] ∧
      (((AnswerSource.onDisk smallFile).setAnswers smallSession.form.answers).flush
        smallDisk).disk.contains smallPath = true ∧
      smallSessionLater.kept =
        ⟨.ok (), smallSessionLater.source, smallSessionLater.workspace⟩ := by
  have loaded : AnswerFile.load looseDisk smallPath = .ok looseFile :=
    AnswerFile.load_of_ledger _ _ _ (by decide +kernel)
  have there : looseDisk.contains smallPath = true := by decide +kernel
  obtain ⟨opened, -, -⟩ := smallDefinition.unchanged_untouched
    (AnswerSource.onDisk looseFile).answer?
    [(0, .press .increase), (1, .set (some 2)), (0, .press .decrease), (1, .set none)]
    small_checked
  obtain ⟨clean, -, idle⟩ := opened ⟨looseFile, looseDisk⟩ (.opened there loaded)
  have holds := clean.mp (by decide +kernel)
  obtain ⟨-, flushed, again⟩ := smallDefinition.unchanged_untouched
    (AnswerSource.onDisk smallFile).answer? [] small_checked
  have saved : smallSession.save.1 = .ok () := ok_of_to_option _ _ (by decide +kernel)
  have wrote : (((AnswerSource.onDisk smallFile).setAnswers smallSession.form.answers).flush
      smallDisk).written = .ok true := ok_of_to_option _ _ (by decide +kernel)
  have same : smallSessionLater.form = smallSession.form := by decide +kernel
  have still : smallSessionLater.workspace.disk.contains smallFile.path = true := by
    decide +kernel
  refine ⟨loaded, (idle looseDisk).mpr ⟨holds, there⟩, by decide +kernel,
    (flushed smallFile smallDisk true _ rfl wrote).1, ?_⟩
  exact (again smallFile smallSession smallSessionLater rfl rfl saved rfl same still).2

end CounterForms
