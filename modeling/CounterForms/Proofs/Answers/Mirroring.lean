import CounterForms.Answers.Source
import CounterForms.Proofs.Answers.Loading
import CounterForms.Proofs.Log.Journal

/-!
A file that is saved again and again while saves may fail in any way, also with part of a text left
behind. As long as the file in memory is clean the disk holds what it holds. A save that fails finds
the file dirty and leaves it so, and a save that goes well leaves it clean with the answers saved.
-/

namespace CounterForms

namespace AnswerFile

theorem set_held_answers (file : AnswerFile) (form : Form) (holds : file.ledger.Holds form) :
    file.setAnswers form.answers = file := by
  apply file.set_answers_held
  intro answer member
  obtain ⟨question, isQuestion, rfl⟩ := List.mem_map.mp member
  exact holds question isQuestion

end AnswerFile

/-- A source that is a clean file with the answers of a form. -/
def AnswerSource.Keeps (source : AnswerSource) (form : Form) : Prop :=
  ∃ file, source = .onDisk file ∧ file.dirty = false ∧ file.ledger.Holds form

namespace Loading

/-- How the disk shows what a file holds: it was left alone since it was opened, or was written. -/
inductive Shows (loading : Loading) (file : AnswerFile) (disk : Disk) : Prop
  | untouched (same : file = loading.file) (bytes : loading.disk.SameFile disk loading.path)
  | written (found : disk.find loading.path = .ok (.file file.ledger.text.toUTF8))

/-- What holds of the source and the workspace while the file is filled in and saved. -/
structure Mirrors (loading : Loading) (source : AnswerSource) (workspace : Workspace) : Prop where
  apart : workspace.Apart loading.path
  larger : loading.disk.Extends workspace.disk
  file : ∃ file, source = .onDisk file ∧ file.path = loading.path ∧
    file.ledger.AgreesBeside loading.file.ledger loading.definition.names ∧
    (file.dirty = false → loading.Shows file workspace.disk)

variable {loading : Loading}

theorem mirrors_start (workspace : Workspace) (same : loading.disk = workspace.disk)
    (apart : workspace.Apart loading.path) :
    loading.Mirrors (.onDisk loading.file) workspace where
  apart := apart
  larger := same ▸ Disk.Extends.refl _
  file := by
    refine ⟨loading.file, rfl, congrArg AnswerFile.path loading.file_eq, fun _ _ => rfl, ?_⟩
    exact fun _ => .untouched rfl (same ▸ rfl)

theorem Shows.quiet {file : AnswerFile} {before after : Disk} (shows : loading.Shows file before)
    (larger : loading.disk.Extends before) (extended : before.Extends after)
    (bytes : before.SameFile after loading.path) : loading.Shows file after := by
  cases shows with
  | untouched same left => exact .untouched same (left.trans bytes larger)
  | written found => exact .written (extended.find_same found bytes)

theorem Mirrors.notes {source : AnswerSource} {workspace after : Workspace}
    (mirrors : loading.Mirrors source workspace) (notes : workspace.Notes after loading.path) :
    loading.Mirrors source after where
  apart := mirrors.apart.extend notes.journal notes.alike.extends
  larger := mirrors.larger.trans notes.alike.extends
  file := by
    obtain ⟨file, isFile, located, beside, clean⟩ := mirrors.file
    exact ⟨file, isFile, located, beside, fun isClean =>
      (clean isClean).quiet mirrors.larger notes.alike.extends notes.bytes⟩

theorem Shows.there {file : AnswerFile} {disk : Disk} {form : Form}
    (shows : loading.Shows file disk) (larger : loading.disk.Extends disk)
    (fills : form.Fills loading.definition) (holds : file.ledger.Holds form) :
    disk.contains loading.path = true := by
  cases shows with
  | untouched same bytes =>
      exact (loading.find_untouched form fills (same ▸ holds) disk larger bytes).1
  | written found => exact Disk.contains_find _ _ _ found

/-- Nothing is left to save of a source that keeps the form, and that cannot fail. -/
theorem Mirrors.keep_kept {source : AnswerSource} {workspace : Workspace} {form : Form}
    (mirrors : loading.Mirrors source workspace) (fills : form.Fills loading.definition)
    (kept : source.Keeps form) :
    (source.setAnswers form.answers).keep workspace = ⟨.ok (), source, workspace⟩ := by
  obtain ⟨file, rfl, isClean, holds⟩ := kept
  obtain ⟨-, larger, other, same, located, -, clean⟩ := mirrors
  cases same
  have there := (clean isClean).there larger fills holds
  rw [AnswerSource.set_answers_on_disk, file.set_held_answers form holds]
  simp [AnswerSource.keep, AnswerSource.flush, AnswerFile.flush, isClean, located, there]

/-- A save mirrors the file again. If it goes well the source keeps the form. -/
theorem Mirrors.keep {source : AnswerSource} {workspace : Workspace}
    (mirrors : loading.Mirrors source workspace) (form : Form)
    (fills : form.Fills loading.definition) :
    loading.Mirrors ((source.setAnswers form.answers).keep workspace).source
        ((source.setAnswers form.answers).keep workspace).workspace ∧
      (((source.setAnswers form.answers).keep workspace).result = .ok () →
        ((source.setAnswers form.answers).keep workspace).source.Keeps form) := by
  obtain ⟨apart, larger, file, rfl, located, beside, clean⟩ := mirrors
  obtain ⟨filedAt, holds, entered⟩ := loading.filled file form fills located beside
  -- A file that is clean with the answers in it was clean before and held them.
  have shown : (file.setAnswers form.answers).dirty = false →
      loading.Shows (file.setAnswers form.answers) workspace.disk := by
    intro isClean
    have same := file.set_answers_clean form.answers isClean
    rw [same] at isClean ⊢
    exact clean isClean
  have outcome := (file.setAnswers form.answers).flush_cases workspace.disk
  have extended := ((file.setAnswers form.answers).flush_beside workspace.disk).toExtends
  rw [AnswerSource.set_answers_on_disk]
  unfold AnswerSource.keep AnswerSource.flush
  generalize file.setAnswers form.answers = filled at holds entered filedAt shown outcome extended ⊢
  dsimp only
  generalize filled.flush workspace.disk = flushed at outcome extended ⊢
  cases outcome with
  | skipped isClean there =>
      exact ⟨⟨apart, larger, filled, rfl, filedAt, entered, shown⟩,
        fun _ => ⟨filled, rfl, isClean, holds⟩⟩
  | failed quiet unwritten =>
      refine ⟨⟨apart.extend rfl extended, larger.trans extended, filled, rfl, filedAt, entered,
        fun isClean => ?_⟩, nofun⟩
      have there := (shown isClean).there larger fills holds
      exact absurd ⟨isClean, filedAt ▸ there⟩ unwritten
  | @written after _ found others =>
      have saved : loading.Mirrors (.onDisk { filled with dirty := false })
          { workspace with disk := after } :=
        ⟨apart.extend rfl extended, larger.trans extended, _, rfl, filedAt, entered,
          fun _ => .written (filedAt ▸ found)⟩
      exact ⟨saved.notes (Workspace.note_all_notes _ _ loading.path saved.apart),
        fun _ => ⟨_, rfl, rfl, holds⟩⟩

/-- The file of a source that keeps a form is opened again and bound to the form exactly if its
bytes are those of the beginning, or what it held under other names can be written and read again.
-/
theorem Mirrors.reopens {source : AnswerSource} {workspace : Workspace} {form : Form}
    (mirrors : loading.Mirrors source workspace) (fills : form.Fills loading.definition)
    (kept : source.Keeps form) :
    loading.definition.ReopensAs workspace.disk loading.path form ↔
      (loading.disk.SameFile workspace.disk loading.path ∨
        loading.file.ledger.RereadsBeside loading.definition.names) := by
  obtain ⟨-, larger, file, rfl, located, beside, clean⟩ := mirrors
  obtain ⟨other, same, isClean, holds⟩ := kept
  cases same
  cases clean isClean with
  | untouched same bytes =>
      exact iff_of_true (loading.reopens_untouched form fills (same ▸ holds) _ larger bytes)
        (.inl bytes)
  | written found =>
      exact loading.reopens_written form fills file.ledger holds beside _ larger found

end Loading

end CounterForms
