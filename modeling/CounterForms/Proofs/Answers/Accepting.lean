import CounterForms.Answers.Source
import CounterForms.Proofs.Answers.Merging
import CounterForms.Proofs.Log.Journal

/-!
Disks that take what is written. Nothing lies in wait on such a disk, the directory of the file is
there or can be made, and no directory lies in the place of the file. A flush on it goes well and
leaves a disk that takes the next one.
-/

namespace CounterForms

open Storage

/-- Nothing hinders a write to a path, and its directory is there or can be made. -/
structure Disk.Accepts (disk : Disk) (path : Path) : Prop where
  free : disk.hindrances = []
  prepared : (AnswerFile.makeParent disk path).1 = .ok ()
  writable : ∃ place, (AnswerFile.makeParent disk path).2.writePlace path = .ok place

namespace AnswerFile

theorem make_parent_alike {before after : Disk} (alike : before.Alike after) (path : Path) :
    (makeParent after path).1 = (makeParent before path).1 ∧
      Disk.Alike (makeParent before path).2 (makeParent after path).2 := by
  unfold makeParent
  cases path.parent? with
  | none => exact ⟨rfl, alike⟩
  | some parent =>
      dsimp only
      split
      · exact ⟨rfl, alike⟩
      · obtain ⟨same, made⟩ := alike.make_directories parent
        exact ⟨by rw [same], made⟩

theorem make_parent_again (disk after : Disk) (path : Path)
    (prepared : (makeParent disk path).1 = .ok ())
    (extended : (makeParent disk path).2.Extends after) (free : after.hindrances = []) :
    makeParent after path = (.ok (), after) := by
  revert prepared extended
  unfold makeParent
  cases path.parent? with
  | none => exact fun _ _ => rfl
  | some parent =>
      intro prepared extended
      dsimp only at prepared extended ⊢
      by_cases here : parent.isEmpty = true
      · rw [if_pos here]
      · simp only [here, Bool.false_eq_true, if_false] at prepared extended ⊢
        have made : (disk.makeDirectories parent).1 = .ok () := by
          generalize (disk.makeDirectories parent).1 = outcome at prepared
          cases outcome with
          | ok _ => rfl
          | error fault => cases prepared
        have there : (disk.makeDirectories parent).2.find parent = .ok .directory := by
          revert made
          unfold Disk.makeDirectories
          split
          · intro made
            cases made
          · exact Disk.make_way_found _ _ parent (by simpa using here)
        rw [after.make_directories_there parent free (extended.find_directory there)]
        rfl

end AnswerFile

namespace Disk

theorem Extends.free {before after : Disk} (extended : before.Extends after)
    (free : before.hindrances = []) : after.hindrances = [] :=
  List.suffix_nil.mp (free ▸ extended.hindrances)

theorem Accepts.alike {before after : Disk} {path : Path} (accepts : before.Accepts path)
    (alike : before.Alike after) : after.Accepts path := by
  obtain ⟨same, prepared⟩ := AnswerFile.make_parent_alike alike path
  obtain ⟨place, writable⟩ := accepts.writable
  exact ⟨alike.hindrances.trans accepts.free, same.trans accepts.prepared,
    place, (prepared.write_place path).trans writable⟩

theorem write_place_file (disk : Disk) (path : Path) (bytes : ByteArray)
    (found : disk.find path = .ok (.file bytes)) :
    disk.writePlace path = .ok (disk.placeOf path) := by
  rw [writePlace, find_file.mp found]
  simp

/-- A flush on a disk that takes it goes well, and the disk takes the next one. -/
theorem Accepts.flush {disk : Disk} (file : AnswerFile) (accepts : disk.Accepts file.path) :
    (∃ wrote, (file.flush disk).written = .ok wrote) ∧
      (file.flush disk).disk.Accepts file.path := by
  obtain ⟨place, writable⟩ := accepts.writable
  have quiet := AnswerFile.make_parent_quiet disk file.path
  have again (after : Disk) :=
    AnswerFile.make_parent_again disk after file.path accepts.prepared
  have prepared := accepts.prepared
  unfold AnswerFile.flush
  split
  · exact ⟨⟨false, rfl⟩, accepts⟩
  · generalize AnswerFile.makeParent disk file.path = parent at writable quiet again prepared ⊢
    obtain ⟨outcome, ready⟩ := parent
    dsimp only at writable quiet again prepared ⊢
    subst prepared
    have free := quiet.toExtends.free accepts.free
    have wrote : ready.writeText file.path file.ledger.text =
        (.ok (), ready.put place (.file file.ledger.text.toUTF8)) := by
      simp only [writeText, takeHindrance, free, writable]
    obtain ⟨beside, found⟩ :=
      ready.put_at_path file.path place file.ledger.text.toUTF8 writable
    simp only [wrote]
    have later := beside.toExtends.free free
    refine ⟨⟨true, rfl⟩, later, ?_, ?_⟩
    · rw [again _ beside.toExtends later]
    · rw [again _ beside.toExtends later]
      exact ⟨_, write_place_file _ file.path _ found⟩

end Disk

namespace AnswerFile

theorem set_answers_numbers (file : AnswerFile) (form : Form)
    (numbers : file.ledger.NumbersReread) :
    (file.setAnswers form.answers).ledger.NumbersReread := by
  intro entry member number isNumber
  rcases file.mem_set_answers form member with held | ⟨question, -, rfl⟩
  · exact numbers entry held number isNumber
  · exact AnswerLedger.reread_answer question.counter

end AnswerFile

/-- A workspace in which a file can be opened and written, whose binary numbers are read again as
what they were. -/
structure Workspace.Serves (workspace : Workspace) (path : Path) (file : AnswerFile) : Prop where
  apart : workspace.Apart path
  accepts : workspace.disk.Accepts path
  opened : AnswerFile.load workspace.disk path = .ok file
  numbers : file.ledger.NumbersReread

namespace Workspace.Serves

theorem notes {before after : Workspace} {path : Path} {file : AnswerFile}
    (serves : before.Serves path file) (notes : before.Notes after path) :
    after.Serves path file where
  apart := serves.apart.extend notes.journal notes.alike.extends
  accepts := serves.accepts.alike notes.alike
  opened := (AnswerFile.load_congr before.disk after.disk path notes.find).trans serves.opened
  numbers := serves.numbers

/-- A flush goes well, and afterwards the workspace serves the file with all that was entered. -/
theorem keep {workspace : Workspace} {path : Path} {file : AnswerFile}
    (serves : workspace.Serves path file) (form : Form) :
    (((AnswerSource.onDisk file).setAnswers form.answers).keep workspace).result = .ok () ∧
      (((AnswerSource.onDisk file).setAnswers form.answers).keep workspace).workspace.Serves path
        ⟨path, (file.setAnswers form.answers).ledger, false⟩ := by
  have located : (file.setAnswers form.answers).path = path := by
    rw [file.set_answers_path, (AnswerFile.load_ok _ _ _ serves.opened).1]
  have numbers := file.set_answers_numbers form serves.numbers
  obtain ⟨⟨wrote, flushed⟩, accepts⟩ :=
    Disk.Accepts.flush (file.setAnswers form.answers) (located ▸ serves.accepts)
  have loaded := AnswerFile.load_flushed workspace.disk path file form serves.opened serves.numbers
    wrote flushed
  have outcome := (file.setAnswers form.answers).flush_cases workspace.disk
  rw [located] at accepts
  rw [AnswerSource.set_answers_on_disk]
  unfold AnswerSource.keep AnswerSource.flush
  dsimp only
  generalize (file.setAnswers form.answers).flush workspace.disk = result
    at flushed accepts loaded outcome ⊢
  cases outcome with
  | skipped clean there => exact ⟨rfl, serves.apart, accepts, loaded, numbers⟩
  | failed quiet unwritten => cases flushed
  | @written after extended found others =>
      have written : Workspace.Serves { workspace with disk := after } path
          ⟨path, (file.setAnswers form.answers).ledger, false⟩ :=
        ⟨serves.apart.extend rfl extended, accepts, loaded, numbers⟩
      exact ⟨rfl, written.notes (Workspace.note_all_notes _ _ path written.apart)⟩

end Workspace.Serves

theorem small_accepts : smallDisk.Accepts smallPath where
  free := rfl
  prepared := ok_of_to_option _ _ (by decide +kernel)
  writable := ⟨["tally.json"], ok_of_to_option _ _ (by decide +kernel)⟩

end CounterForms
