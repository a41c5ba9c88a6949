import CounterForms.Answers.Source
import CounterForms.Proofs.Answers.Text
import CounterForms.Proofs.Storage.Writing

/-!
An answers file between the disk and memory. What is read depends on the disk only through what its
path leads to. Entering answers makes a clean file dirty unless it held them all, and a flush either
leaves a clean file alone, or writes what memory holds, or fails and keeps memory as it was.
-/

namespace CounterForms

theorem from_to_utf8 (text : String) : String.fromUTF8? text.toUTF8 = some text := by
  have valid : text.toUTF8.IsValidUTF8 := text.isValidUTF8
  rw [String.fromUTF8?, dif_pos valid]
  rfl

namespace Disk

theorem read_text_find (disk : Disk) (path : Path) (text : String)
    (found : disk.find path = .ok (.file text.toUTF8)) : disk.readText path = .ok text := by
  simp only [readText, found, from_to_utf8]

theorem contains_find (disk : Disk) (path : Path) (entry : Storage.Entry)
    (found : disk.find path = .ok entry) : disk.contains path = true := by
  rw [contains, found]
  rfl

end Disk

namespace AnswerFile

theorem load_congr (before after : Disk) (path : Path) (same : after.find path = before.find path) :
    load after path = load before path := by
  unfold load Disk.contains Disk.readText
  rw [same]

theorem load_text (disk : Disk) (path : Path) (text : String)
    (found : disk.find path = .ok (.file text.toUTF8)) :
    load disk path =
      (during (.parseFile path) (AnswerLedger.ofText text)).map fun ledger =>
        ⟨path, ledger, false⟩ := by
  rw [load, disk.contains_find path _ found, if_pos rfl, disk.read_text_find path text found]
  cases read : AnswerLedger.ofText text with
  | error failure => simp [orFail, during, read, bind, Except.bind, Except.map]
  | ok ledger => simp [orFail, during, read, bind, Except.bind, Except.map]

theorem load_rereads (file : AnswerFile) (disk : Disk)
    (found : disk.find file.path = .ok (.file file.ledger.text.toUTF8))
    (rereads : ∀ entry ∈ file.ledger.entries, entry.2.reread? = some entry.2) :
    load disk file.path = .ok { file with dirty := false } := by
  rw [load_text disk file.path _ found, file.ledger.of_text_of_rereads rereads]
  rfl

/-- A file that was loaded has its path, is clean, and holds what may be stored. -/
theorem load_ok (disk : Disk) (path : Path) (file : AnswerFile)
    (opened : load disk path = .ok file) :
    file = ⟨path, file.ledger, false⟩ ∧ (∀ entry ∈ file.ledger.entries, entry.2.Storable) ∧
      ((disk.contains path = false ∧ file.ledger = Ledger.empty) ∨
        ∃ bytes, disk.find path = .ok (.file bytes)) := by
  unfold load at opened
  split at opened
  next there =>
    cases found : disk.find path with
    | error fault =>
        rw [Disk.contains, found] at there
        cases there
    | ok entry =>
        cases entry with
        | directory =>
            simp only [Disk.readText, found] at opened
            cases opened
        | file bytes =>
            simp only [Disk.readText, found] at opened
            cases text : String.fromUTF8? bytes with
            | none =>
                rw [text] at opened
                cases opened
            | some content =>
                rw [text] at opened
                cases read : AnswerLedger.ofText content with
                | error failure =>
                    simp [orFail, during, read, bind, Except.bind] at opened
                | ok ledger =>
                    simp only [orFail, during, read, bind, Except.bind] at opened
                    cases opened
                    exact ⟨rfl, AnswerLedger.of_text_storable content ledger read,
                      .inr ⟨bytes, rfl⟩⟩
  next missing =>
    cases opened
    refine ⟨rfl, ?_, .inl ⟨by simpa using missing, rfl⟩⟩
    intro entry member
    cases member

theorem load_of_ledger (disk : Disk) (path : Path) (ledger : AnswerLedger)
    (holds : (load disk path).toOption.map AnswerFile.ledger = some ledger) :
    load disk path = .ok ⟨path, ledger, false⟩ := by
  obtain ⟨file, opened, held⟩ := ok_of_map _ _ _ holds
  rw [opened, ← held, ← (load_ok disk path file opened).1]

def setAnswers (file : AnswerFile) (answers : List (String × Option Int)) : AnswerFile :=
  answers.foldl (fun filled answer => filled.setAnswer answer.1 answer.2) file

def storedAnswers (answers : List (String × Option Int)) : List (String × StoredAnswer) :=
  answers.map fun answer => (answer.1, .ofAnswer answer.2)

theorem set_answer_ledger (file : AnswerFile) (name : String) (answer : Option Int) :
    (file.setAnswer name answer).ledger = file.ledger.enter name (.ofAnswer answer) := by
  unfold setAnswer
  by_cases held : file.ledger.get? name = some (.ofAnswer answer)
  · simp only [held, if_true]
    exact (file.ledger.enter_same name _ held).symm
  · simp only [held, if_false]

theorem set_answer_path (file : AnswerFile) (name : String) (answer : Option Int) :
    (file.setAnswer name answer).path = file.path := by
  unfold setAnswer
  dsimp only
  split <;> rfl

theorem set_answers_ledger (file : AnswerFile) (answers : List (String × Option Int)) :
    (file.setAnswers answers).ledger = file.ledger.enterAll (storedAnswers answers) := by
  induction answers generalizing file with
  | nil => rfl
  | cons answer later induction =>
      have rest := induction (file.setAnswer answer.1 answer.2)
      rw [set_answer_ledger] at rest
      exact rest

theorem set_answers_path (file : AnswerFile) (answers : List (String × Option Int)) :
    (file.setAnswers answers).path = file.path := by
  induction answers generalizing file with
  | nil => rfl
  | cons answer later induction =>
      exact (induction (file.setAnswer answer.1 answer.2)).trans (set_answer_path _ _ _)

theorem set_answer_held (file : AnswerFile) (name : String) (answer : Option Int)
    (held : file.ledger.get? name = some (.ofAnswer answer)) :
    file.setAnswer name answer = file := by
  simp only [setAnswer, held, if_true]

theorem set_answer_clean_iff (file : AnswerFile) (name : String) (answer : Option Int) :
    (file.setAnswer name answer).dirty = false ↔
      file.dirty = false ∧ file.ledger.get? name = some (.ofAnswer answer) := by
  unfold setAnswer
  dsimp only
  split
  next held => simp [held]
  next other => simp [other]

theorem set_answer_clean (file : AnswerFile) (name : String) (answer : Option Int)
    (clean : (file.setAnswer name answer).dirty = false) : file.setAnswer name answer = file :=
  file.set_answer_held name answer ((file.set_answer_clean_iff name answer).mp clean).2

theorem set_answers_held (file : AnswerFile) (answers : List (String × Option Int))
    (held : ∀ answer ∈ answers, file.ledger.get? answer.1 = some (.ofAnswer answer.2)) :
    file.setAnswers answers = file := by
  induction answers with
  | nil => rfl
  | cons answer later induction =>
      rw [List.forall_mem_cons] at held
      have first := file.set_answer_held answer.1 answer.2 held.1
      show (file.setAnswer answer.1 answer.2).setAnswers later = file
      rw [first]
      exact induction held.2

/-- A file is clean after answers were entered exactly if it was before and held them all. -/
theorem set_answers_clean_iff (file : AnswerFile) (answers : List (String × Option Int)) :
    (file.setAnswers answers).dirty = false ↔ file.dirty = false ∧
      ∀ answer ∈ answers, file.ledger.get? answer.1 = some (.ofAnswer answer.2) := by
  induction answers generalizing file with
  | nil => simp [setAnswers]
  | cons answer later induction =>
      have rest := induction (file.setAnswer answer.1 answer.2)
      rw [set_answer_clean_iff, and_assoc] at rest
      rw [List.forall_mem_cons]
      refine Iff.trans rest (and_congr_right fun _ => and_congr_right fun held => ?_)
      rw [file.set_answer_held answer.1 answer.2 held]

/-- A file that is clean after answers were entered is the file that it was. -/
theorem set_answers_clean (file : AnswerFile) (answers : List (String × Option Int))
    (clean : (file.setAnswers answers).dirty = false) : file.setAnswers answers = file :=
  file.set_answers_held answers ((file.set_answers_clean_iff answers).mp clean).2

theorem stored_answers_names (answers : List (String × Option Int)) :
    (storedAnswers answers).map Prod.fst = answers.map Prod.fst := by
  simp [storedAnswers, Function.comp_def]

theorem stored_answers_lookup (answers : List (String × Option Int)) (name : String) :
    (storedAnswers answers).lookup name = (answers.lookup name).map StoredAnswer.ofAnswer := by
  induction answers with
  | nil => rfl
  | cons answer later induction =>
      rw [storedAnswers, List.map_cons, lookup_cons, lookup_cons,
        ← storedAnswers, induction]
      split <;> rfl

/-- After answers under different names were entered, each name holds its new answer and all other
names what they held. -/
theorem get_set_answers (file : AnswerFile) (answers : List (String × Option Int))
    (distinct : (answers.map Prod.fst).Nodup) (name : String) :
    (file.setAnswers answers).ledger.get? name =
      ((answers.lookup name).map StoredAnswer.ofAnswer).or (file.ledger.get? name) := by
  rw [set_answers_ledger, Ledger.get_enter_all, stored_answers_lookup]
  rwa [stored_answers_names]

/-- What a flush may do: leave a clean file alone, write it, or fail. -/
inductive Flushes (file : AnswerFile) (disk : Disk) : Flushed → Prop
  | skipped (clean : file.dirty = false) (there : disk.contains file.path = true) :
      Flushes file disk ⟨.ok false, file, disk⟩
  | written {after : Disk} (extended : disk.Extends after)
      (found : after.find file.path = .ok (.file file.ledger.text.toUTF8))
      (others : ∀ place, place ≠ disk.placeOf file.path →
        after.bytesAt place = disk.bytesAt place) :
      Flushes file disk ⟨.ok true, { file with dirty := false }, after⟩
  | failed {failure : Failure} {after : Disk} (quiet : disk.SparesFiles → disk.Quiet after)
      (unwritten : ¬(file.dirty = false ∧ disk.contains file.path = true)) :
      Flushes file disk ⟨.error failure, file, after⟩

theorem make_parent_quiet (disk : Disk) (path : Path) : disk.Quiet (makeParent disk path).2 := by
  unfold makeParent
  split
  · exact Disk.Quiet.refl disk
  next parent named =>
    split
    · exact Disk.Quiet.refl disk
    · exact disk.make_directories_quiet parent

theorem flush_cases (file : AnswerFile) (disk : Disk) : file.Flushes disk (file.flush disk) := by
  unfold flush
  split
  next idle =>
    simp only [Bool.and_eq_true, Bool.not_eq_true'] at idle
    exact .skipped idle.1 idle.2
  next busy =>
    have unwritten : ¬(file.dirty = false ∧ disk.contains file.path = true) := by
      simpa using busy
    have prepared := make_parent_quiet disk file.path
    split
    next failure after made =>
      rw [made] at prepared
      exact .failed (fun _ => prepared) unwritten
    next ready made =>
      rw [made] at prepared
      split
      next fault after wrote =>
        refine .failed (fun spares => ?_) unwritten
        have refused := ready.write_text_error file.path file.ledger.text fault (by rw [wrote])
          (prepared.sparesFiles spares)
        rw [wrote] at refused
        exact prepared.trans refused
      next after wrote =>
        have found := ready.write_text_found file.path file.ledger.text (by rw [wrote])
        have beside := ready.write_text_beside file.path file.ledger.text
        rw [wrote] at found beside
        refine .written (prepared.toExtends.trans beside.toExtends) found fun place apart => ?_
        rw [beside.bytes place (by simpa [prepared.placeOf file.path] using apart),
          prepared.bytes place]

/-- A flush leaves everything as it is exactly if the file is clean and there. -/
theorem flush_idle_iff (file : AnswerFile) (disk : Disk) :
    file.flush disk = ⟨.ok false, file, disk⟩ ↔
      file.dirty = false ∧ disk.contains file.path = true := by
  constructor
  · intro idle
    have outcome := file.flush_cases disk
    rw [idle] at outcome
    cases outcome with
    | skipped clean there => exact ⟨clean, there⟩
  · rintro ⟨clean, there⟩
    rw [flush, clean, there]
    rfl

/-- A flush that goes well leaves the file clean and its path leading somewhere. -/
theorem flush_done (file : AnswerFile) (disk : Disk) (wrote : Bool)
    (done : (file.flush disk).written = .ok wrote) :
    (file.flush disk).file = { file with dirty := false } ∧
      (file.flush disk).disk.contains file.path = true := by
  have outcome := file.flush_cases disk
  generalize file.flush disk = flushed at outcome done ⊢
  cases outcome with
  | skipped clean there =>
      refine ⟨?_, there⟩
      rw [← clean]
  | written extended found others => exact ⟨rfl, Disk.contains_find _ _ _ found⟩
  | failed quiet unwritten => cases done

/-- Whether it works or not, a flush changes no file but its own. -/
theorem flush_beside (file : AnswerFile) (disk : Disk) :
    disk.QuietBeside (file.flush disk).disk (some (disk.placeOf file.path)) := by
  unfold flush
  split
  · exact Disk.QuietBeside.refl disk _
  · have prepared := make_parent_quiet disk file.path
    split
    next failure after made =>
      rw [made] at prepared
      exact prepared.beside _
    next ready made =>
      rw [made] at prepared
      have wrote := ready.write_text_beside file.path file.ledger.text
      rw [prepared.placeOf file.path] at wrote
      split
      next fault after written =>
        rw [written] at wrote
        exact (prepared.beside _).trans wrote
      next after written =>
        rw [written] at wrote
        exact (prepared.beside _).trans wrote

end AnswerFile

namespace AnswerSource

theorem set_answers_on_disk (file : AnswerFile) (answers : List (String × Option Int)) :
    (AnswerSource.onDisk file).setAnswers answers = .onDisk (file.setAnswers answers) := by
  induction answers generalizing file with
  | nil => rfl
  | cons answer later induction => exact induction (file.setAnswer answer.1 answer.2)

end AnswerSource

end CounterForms
