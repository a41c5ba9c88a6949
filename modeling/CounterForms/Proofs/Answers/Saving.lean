import CounterForms.Answers.Source
import CounterForms.Proofs.Answers.Loading
import CounterForms.Proofs.Log.Journal

/-!
A file that is opened once and saved any number of times. As long as no save has reached the disk,
the file on the disk is the one that was opened; from then on it is the text of a ledger that holds
the answers of the form that was saved last. A clean file in memory is always the one on the disk,
so that a flush that is skipped never loses anything.
-/

namespace CounterForms

/-- The form that was saved last, after an attempt to save a form. -/
def lastSaved (result : Attempted Unit) (form : Form) (earlier : Option Form) : Option Form :=
  match result with
  | .ok () => some form
  | .error _ => earlier

/-- A file of answers that has been opened for a checked definition, on a disk where a write that
fails leaves files as they are and where nothing else writes to the file. -/
structure Opening where
  definition : FormDefinition
  path : Path
  workspace : Workspace
  file : AnswerFile
  checked : definition.check = .ok ()
  opened : AnswerFile.load workspace.disk path = .ok file
  spares : workspace.disk.SparesFiles
  apart : workspace.Apart path

namespace Opening

def form (opening : Opening) : Form := opening.definition.bindTo (.onDisk opening.file)

inductive Stands (opening : Opening) (Allowed : Form → Prop) :
    AnswerFile → Disk → Option Form → Prop
  | untouched {file : AnswerFile} {disk : Disk} {saved : Option Form}
      (same : opening.workspace.disk.SameFile disk opening.path)
      (clean : file.dirty = false → file = opening.file)
      (holds : ∀ form ∈ saved, Allowed form ∧ opening.file.ledger.Holds form) :
      Stands opening Allowed file disk saved
  | written {file : AnswerFile} {disk : Disk} (form : Form) (ledger : AnswerLedger)
      (allowed : Allowed form) (holds : ledger.Holds form)
      (beside : ledger.AgreesBeside opening.file.ledger opening.definition.names)
      (found : disk.find opening.path = .ok (.file ledger.text.toUTF8))
      (clean : file.dirty = false → file.ledger = ledger) :
      Stands opening Allowed file disk (some form)

/-- What holds of the source and the workspace while the file is filled in, given the form that was
saved last. -/
structure Tracks (opening : Opening) (Allowed : Form → Prop) (source : AnswerSource)
    (workspace : Workspace) (saved : Option Form) : Prop where
  journal : workspace.journal = opening.workspace.journal
  larger : opening.workspace.disk.Extends workspace.disk
  file : ∃ file, source = .onDisk file ∧ file.path = opening.path ∧
    file.ledger.AgreesBeside opening.file.ledger opening.definition.names ∧
    opening.Stands Allowed file workspace.disk saved

variable {opening : Opening} {Allowed : Form → Prop}

def loading (opening : Opening) : Loading where
  definition := opening.definition
  path := opening.path
  disk := opening.workspace.disk
  file := opening.file
  checked := opening.checked
  opened := opening.opened

theorem tracks_start (opening : Opening) (Allowed : Form → Prop) :
    opening.Tracks Allowed (.onDisk opening.file) opening.workspace none where
  journal := rfl
  larger := Disk.Extends.refl _
  file := by
    refine ⟨opening.file, rfl, congrArg AnswerFile.path opening.loading.file_eq, fun _ _ => rfl, ?_⟩
    exact .untouched rfl (fun _ => rfl) (by simp)

theorem Tracks.apart {source : AnswerSource} {workspace : Workspace} {saved : Option Form}
    (tracks : opening.Tracks Allowed source workspace saved) : workspace.Apart opening.path :=
  opening.apart.extend tracks.journal tracks.larger

theorem Stands.quiet {file : AnswerFile} {before after : Disk} {saved : Option Form}
    (stands : opening.Stands Allowed file before saved)
    (larger : opening.workspace.disk.Extends before) (extended : before.Extends after)
    (bytes : before.SameFile after opening.path) : opening.Stands Allowed file after saved := by
  cases stands with
  | untouched same clean holds => exact .untouched (same.trans bytes larger) clean holds
  | written form ledger allowed holds beside found clean =>
      exact .written form ledger allowed holds beside
        (extended.find_same found bytes) clean

theorem Tracks.notes {source : AnswerSource} {workspace after : Workspace} {saved : Option Form}
    (tracks : opening.Tracks Allowed source workspace saved)
    (notes : workspace.Notes after opening.path) :
    opening.Tracks Allowed source after saved where
  journal := notes.journal.trans tracks.journal
  larger := tracks.larger.trans notes.alike.extends
  file := by
    obtain ⟨file, isFile, located, beside, stands⟩ := tracks.file
    exact ⟨file, isFile, located, beside,
      stands.quiet tracks.larger notes.alike.extends notes.bytes⟩

theorem Stands.enter {file : AnswerFile} {disk : Disk} {saved : Option Form} (form : Form)
    (stands : opening.Stands Allowed file disk saved) :
    opening.Stands Allowed (file.setAnswers form.answers) disk saved := by
  cases stands with
  | untouched same clean holds =>
      refine .untouched same (fun isClean => ?_) holds
      have kept := file.set_answers_clean form.answers isClean
      rw [kept] at isClean ⊢
      exact clean isClean
  | written last ledger allowed holds beside found clean =>
      refine .written last ledger allowed holds beside found fun isClean => ?_
      have kept := file.set_answers_clean form.answers isClean
      rw [kept] at isClean ⊢
      exact clean isClean

/-- Where the file in memory is clean and holds the answers of a form, that form is saved. -/
theorem Stands.skip {file : AnswerFile} {disk : Disk} {saved : Option Form} {form : Form}
    (stands : opening.Stands Allowed file disk saved) (allowed : Allowed form)
    (holds : file.ledger.Holds form) (isClean : file.dirty = false) :
    opening.Stands Allowed file disk (some form) := by
  cases stands with
  | untouched same clean before =>
      refine .untouched same clean fun other isForm => ?_
      cases Option.some.inj isForm
      exact ⟨allowed, clean isClean ▸ holds⟩
  | written last ledger _ _ beside found clean =>
      exact .written form ledger allowed (clean isClean ▸ holds) beside found clean

/-- A save keeps track of the file, whether it goes well or not. -/
theorem Tracks.keep {source : AnswerSource} {workspace : Workspace} {saved : Option Form}
    (tracks : opening.Tracks Allowed source workspace saved) (form : Form)
    (fills : form.Fills opening.definition) (allowed : Allowed form) :
    opening.Tracks Allowed ((source.setAnswers form.answers).keep workspace).source
      ((source.setAnswers form.answers).keep workspace).workspace
      (lastSaved ((source.setAnswers form.answers).keep workspace).result form saved) := by
  obtain ⟨journal, larger, file, rfl, located, beside, stands⟩ := tracks
  obtain ⟨filedAt, holds, entered⟩ := opening.loading.filled file form fills located beside
  have stays := stands.enter form
  have outcome := (file.setAnswers form.answers).flush_cases workspace.disk
  rw [AnswerSource.set_answers_on_disk]
  unfold AnswerSource.keep AnswerSource.flush
  generalize file.setAnswers form.answers = filled at holds entered filedAt stays outcome ⊢
  dsimp only
  generalize filled.flush workspace.disk = flushed at outcome ⊢
  cases outcome with
  | skipped isClean there =>
      -- Nothing is lost here: a clean file is the one on the disk, and it holds the answers.
      exact ⟨journal, larger, filled, rfl, filedAt, entered, stays.skip allowed holds isClean⟩
  | failed quiet unwritten =>
      -- What was entered stays in memory and dirty, so that the next save writes it.
      have unharmed := quiet (larger.sparesFiles opening.spares)
      exact ⟨journal, larger.trans unharmed.toExtends, filled, rfl, filedAt, entered,
        stays.quiet larger unharmed.toExtends (unharmed.bytes _)⟩
  | @written after extended found others =>
      rw [filedAt] at found
      have written : opening.Tracks Allowed (.onDisk { filled with dirty := false })
          { workspace with disk := after } (some form) :=
        ⟨journal, larger.trans extended, _, rfl, filedAt, entered,
          .written form filled.ledger allowed holds entered found fun _ => rfl⟩
      exact written.notes (Workspace.note_all_notes _ _ opening.path written.apart)

theorem Tracks.allowed {source : AnswerSource} {workspace : Workspace} {form : Form}
    (tracks : opening.Tracks Allowed source workspace (some form)) : Allowed form := by
  obtain ⟨file, -, -, -, stands⟩ := tracks.file
  cases stands with
  | untouched same clean holds => exact (holds form rfl).1
  | written form ledger allowed _ _ _ _ => exact allowed

theorem Tracks.unsaved {source : AnswerSource} {workspace : Workspace}
    (tracks : opening.Tracks Allowed source workspace none) :
    opening.workspace.disk.SameFile workspace.disk opening.path := by
  obtain ⟨file, -, -, -, stands⟩ := tracks.file
  cases stands with
  | untouched same _ _ => exact same

/-- The file is opened again and bound to the form that was saved last exactly if its bytes are
those of the beginning, or what it held under other names can be written and read again. -/
theorem Tracks.reopens {source : AnswerSource} {workspace : Workspace} {form : Form}
    (tracks : opening.Tracks Allowed source workspace (some form))
    (fills : form.Fills opening.definition) :
    opening.definition.ReopensAs workspace.disk opening.path form ↔
      (opening.workspace.disk.SameFile workspace.disk opening.path ∨
        opening.file.ledger.RereadsBeside opening.definition.names) := by
  obtain ⟨file, -, -, -, stands⟩ := tracks.file
  cases stands with
  | untouched same clean holds =>
      exact iff_of_true (opening.loading.reopens_untouched form fills (holds form rfl).2 _
        tracks.larger same) (.inl same)
  | written form ledger allowed holds beside found clean =>
      exact opening.loading.reopens_written form fills ledger holds beside _ tracks.larger found

end Opening

end CounterForms
