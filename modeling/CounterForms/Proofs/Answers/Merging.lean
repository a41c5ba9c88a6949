import CounterForms.Proofs.Answers.File
import CounterForms.Proofs.Form.Editing
import CounterForms.Proofs.Form.Fitness

/-!
Answers of a form in the ledger of a file. A form that is written to a file puts its answers under
its names and touches no other name, and the names that were there stay in their order. The file
that is flushed and opened again holds exactly that ledger, and binds the definition to the form.
-/

namespace CounterForms

namespace AnswerLedger

/-- A ledger that holds the answer of every question of a form. -/
def Holds (ledger : AnswerLedger) (form : Form) : Prop :=
  ∀ question ∈ form.questions, ledger.get? question.name = some (.ofAnswer question.answer)

/-- The values under names that are not among the given ones are the same. -/
def AgreesBeside (ledger base : AnswerLedger) (names : List String) : Prop :=
  ∀ name, name ∉ names → ledger.get? name = base.get? name

/-- The binary numbers of a ledger are read again as what they were. -/
def NumbersReread (ledger : AnswerLedger) : Prop :=
  ∀ entry ∈ ledger.entries, ∀ number, entry.2 = .floating number →
    entry.2.reread? = some entry.2

/-- The values under names that are not among the given ones can be written and read again. -/
def RereadsBeside (ledger : AnswerLedger) (names : List String) : Prop :=
  ∀ entry ∈ ledger.entries, entry.1 ∉ names → entry.2.reread?.isSome = true

theorem count_fits (bits : Nat) (wide : 63 ≤ bits) (counter : Counter) :
    ∀ held ∈ counter.count, held < Word.count bits := by
  intro held counted
  have bound : held ≤ maxCount := counter.inRange held counted
  have room : maxCount < Word.count 63 := by decide
  have wider : Word.count 63 ≤ Word.count bits := Nat.pow_le_pow_right (by decide) wide
  omega

theorem answer_of_stored (counter : Counter) :
    (StoredAnswer.ofAnswer counter.answer).answer? = counter.answer := by
  rw [Counter.answer]
  cases counted : counter.count with
  | none => rfl
  | some held =>
      have fits : Word.holdsSigned 63 (Int.ofNat held) = true :=
        decide_eq_true (count_fits 63 (by decide) counter held counted)
      show StoredAnswer.answer? (.integer (Int.ofNat held)) = some (Int.ofNat held)
      rw [StoredAnswer.answer?, if_pos fits]

/-- The answer of a counter is written and read again as it was. -/
theorem reread_answer (counter : Counter) :
    (StoredAnswer.ofAnswer counter.answer).reread? = some (.ofAnswer counter.answer) := by
  rw [Counter.answer]
  cases counted : counter.count with
  | none => exact StoredAnswer.reread_absent
  | some held =>
      have fits : Word.holdsEither 63 (Int.ofNat held) = true :=
        decide_eq_true (count_fits 64 (by decide) counter held counted)
      exact StoredAnswer.reread_integer (Int.ofNat held) fits

/-- A definition that is bound to a file that holds the answers of a form is that form. -/
theorem bind_of_holds (definition : FormDefinition) (file : AnswerFile) (form : Form)
    (fills : form.Fills definition) (holds : file.ledger.Holds form) :
    definition.bindTo (.onDisk file) = form := by
  apply form.bind_answers definition fills
  intro question member
  show (file.ledger.get? question.name).bind StoredAnswer.answer? = question.answer
  rw [holds question member, Option.bind_some]
  exact answer_of_stored question.counter

theorem reread_holds (ledger again : AnswerLedger) (form : Form) (holds : ledger.Holds form)
    (read : ofText ledger.text = .ok again) : again.Holds form := by
  intro question member
  rw [get_of_text ledger again read, holds question member, Option.bind_some]
  exact reread_answer question.counter

end AnswerLedger

namespace Form

theorem answers_lookup (form : Form) (distinct : form.names.Nodup) :
    ∀ question ∈ form.questions, form.answers.lookup question.name = some question.answer := by
  intro question member
  apply lookup_of_mem form.answers (form.answers_names ▸ distinct)
  exact List.mem_map.mpr ⟨question, member, rfl⟩

theorem answers_lookup_none (form : Form) (name : String) (absent : name ∉ form.names) :
    form.answers.lookup name = none := by
  rw [lookup_eq_none, form.answers_names]
  exact absent

end Form

namespace AnswerFile

open AnswerLedger

theorem set_answers_holds (file : AnswerFile) (form : Form) (distinct : form.names.Nodup) :
    (file.setAnswers form.answers).ledger.Holds form := by
  intro question member
  rw [file.get_set_answers form.answers (form.answers_names ▸ distinct),
    form.answers_lookup distinct question member]
  rfl

/-- A file that took the answers of a form is clean exactly if it was before and held them all. -/
theorem set_form_clean_iff (file : AnswerFile) (form : Form) :
    (file.setAnswers form.answers).dirty = false ↔
      file.dirty = false ∧ file.ledger.Holds form := by
  rw [set_answers_clean_iff, Form.answers, List.forall_mem_map]
  rfl

/-- Writing a form to a file touches no name beside those of the form. -/
theorem set_answers_beside (file : AnswerFile) (form : Form) (distinct : form.names.Nodup) :
    (file.setAnswers form.answers).ledger.AgreesBeside file.ledger form.names := by
  intro name absent
  rw [file.get_set_answers form.answers (form.answers_names ▸ distinct),
    form.answers_lookup_none name absent]
  rfl

theorem set_answers_names (file : AnswerFile) (form : Form) (distinct : form.names.Nodup) :
    (file.setAnswers form.answers).ledger.names =
      file.ledger.names ++ form.names.filter fun name => name ∉ file.ledger.names := by
  have stored := stored_answers_names form.answers
  rw [form.answers_names] at stored
  rw [set_answers_ledger, Ledger.names_enter_all _ _ (stored ▸ distinct), stored]

theorem mem_set_answers (file : AnswerFile) (form : Form) {entry : String × StoredAnswer}
    (member : entry ∈ (file.setAnswers form.answers).ledger.entries) :
    entry ∈ file.ledger.entries ∨ ∃ question ∈ form.questions,
      entry = (question.name, .ofAnswer question.answer) := by
  rw [set_answers_ledger] at member
  rcases Ledger.mem_enter_all _ _ member with held | entered
  · exact .inl held
  · obtain ⟨answer, isAnswer, rfl⟩ := List.mem_map.mp entered
    obtain ⟨question, isQuestion, rfl⟩ := List.mem_map.mp isAnswer
    exact .inr ⟨question, isQuestion, rfl⟩

theorem reread_storable (ledger : AnswerLedger)
    (storable : ∀ entry ∈ ledger.entries, entry.2.Storable) (numbers : ledger.NumbersReread) :
    ∀ entry ∈ ledger.entries, entry.2.reread? = some entry.2 := by
  rintro ⟨name, stored⟩ member
  cases stored with
  | absent => exact StoredAnswer.reread_absent
  | integer value => exact StoredAnswer.reread_integer value (storable _ member)
  | floating number => exact numbers _ member number rfl

/-- A file that was opened and written to is opened again with all that it held in memory, if the
flush went well. -/
theorem load_flushed (disk : Disk) (path : Path) (file : AnswerFile) (form : Form)
    (opened : load disk path = .ok file) (numbers : file.ledger.NumbersReread) (wrote : Bool)
    (flushed : ((file.setAnswers form.answers).flush disk).written = .ok wrote) :
    load ((file.setAnswers form.answers).flush disk).disk path =
      .ok ⟨path, (file.setAnswers form.answers).ledger, false⟩ := by
  obtain ⟨whole, storable, -⟩ := load_ok disk path file opened
  have located : (file.setAnswers form.answers).path = path := by
    rw [set_answers_path, whole]
  have outcome := (file.setAnswers form.answers).flush_cases disk
  generalize (file.setAnswers form.answers).flush disk = result at outcome flushed ⊢
  cases outcome with
  | skipped clean there =>
      rw [file.set_answers_clean form.answers clean, ← whole]
      exact opened
  | written extended found others =>
      have rereads : ∀ entry ∈ (file.setAnswers form.answers).ledger.entries,
          entry.2.reread? = some entry.2 := by
        intro entry member
        rcases file.mem_set_answers form member with held | ⟨question, -, rfl⟩
        · exact reread_storable file.ledger storable numbers entry held
        · exact reread_answer question.counter
      rw [← located]
      exact load_rereads _ _ found rereads
  | failed quiet unwritten => cases flushed

end AnswerFile

/-- The file at a path can be opened, and binds a definition to a form. -/
def FormDefinition.ReopensAs (definition : FormDefinition) (disk : Disk) (path : Path)
    (form : Form) : Prop :=
  ∃ reopened, AnswerFile.load disk path = .ok reopened ∧
    definition.bindTo (.onDisk reopened) = form

/-- What an opened file becomes when a form of its definition is written to it and flushed: opened
again, it holds the names that it had in their order and behind them the missing names in the order
of the definition; each name of the definition holds the current answer and each other name what it
held; and it binds the definition to the form. -/
theorem FormDefinition.merge_on_flush (definition : FormDefinition) (disk : Disk) (path : Path)
    (file : AnswerFile) (edits : List (Nat × Edit)) (wrote : Bool)
    (checked : definition.check = .ok ()) (opened : AnswerFile.load disk path = .ok file)
    (numbers : file.ledger.NumbersReread)
    (flushed : (((AnswerSource.onDisk file).setAnswers
      ((definition.bindTo (.onDisk file)).editAll edits).answers).flush disk).written = .ok wrote) :
    ∃ reopened,
      AnswerFile.load (((AnswerSource.onDisk file).setAnswers
        ((definition.bindTo (.onDisk file)).editAll edits).answers).flush disk).disk path =
          .ok reopened ∧
      reopened.ledger.names = file.ledger.names ++
        definition.names.filter (fun name => name ∉ file.ledger.names) ∧
      reopened.ledger.Holds ((definition.bindTo (.onDisk file)).editAll edits) ∧
      reopened.ledger.AgreesBeside file.ledger definition.names ∧
      definition.bindTo (.onDisk reopened) =
        (definition.bindTo (.onDisk file)).editAll edits := by
  have fills : ((definition.bindTo (.onDisk file)).editAll edits).Fills definition :=
    (Form.bind_fills definition _).edit_all edits
  generalize (definition.bindTo (.onDisk file)).editAll edits = form at fills flushed ⊢
  have distinct : form.names.Nodup := fills.names ▸ (definition.check_names checked).1
  rw [AnswerSource.set_answers_on_disk] at flushed ⊢
  have holds := file.set_answers_holds form distinct
  refine ⟨_, file.load_flushed disk path form opened numbers wrote flushed, ?_, holds, ?_, ?_⟩
  · rw [← fills.names]
    exact file.set_answers_names form distinct
  · rw [← fills.names]
    exact file.set_answers_beside form distinct
  · exact AnswerLedger.bind_of_holds definition _ form fills holds

def smallDefinition : FormDefinition where
  title := "Tally"
  questions := [{ name := "a", label := "A" }, { name := "b", label := "B", readOnly := true }]

def smallPath : Path := ⟨"tally.json"⟩

def smallDisk : Disk where
  entries := [(["tally.json"], .file "\x7b\"x\": 7.0, \"a\": 3\x7d".toUTF8)]
  workingDirectory := []

def smallFile : AnswerFile where
  path := smallPath
  ledger := ⟨[("x", .floating ⟨false, 7881299347898368, -50⟩), ("a", .integer 3)], by decide⟩
  dirty := false

theorem small_opened : AnswerFile.load smallDisk smallPath = .ok smallFile :=
  AnswerFile.load_of_ledger _ _ _ (by decide +kernel)

theorem small_checked : smallDefinition.check = .ok () := by decide

theorem small_numbers : smallFile.ledger.NumbersReread := by
  have rereads : ∀ entry ∈ smallFile.ledger.entries, entry.2.reread? = some entry.2 := by
    decide +kernel
  exact fun entry member _ _ => rereads entry member

theorem merge_on_flush_small :
    ∃ reopened,
      AnswerFile.load (((AnswerSource.onDisk smallFile).setAnswers
        ((smallDefinition.bindTo (.onDisk smallFile)).editAll
          [(0, .press .increase), (1, .set (some 9))]).answers).flush smallDisk).disk smallPath =
          .ok reopened ∧
      reopened.ledger.names = ["x", "a", "b"] ∧
      reopened.ledger.get? "x" = smallFile.ledger.get? "x" := by
  have flushed : (((AnswerSource.onDisk smallFile).setAnswers
      ((smallDefinition.bindTo (.onDisk smallFile)).editAll
        [(0, .press .increase), (1, .set (some 9))]).answers).flush smallDisk).written =
          .ok true :=
    ok_of_to_option _ _ (by decide +kernel)
  obtain ⟨reopened, loaded, names, -, beside, -⟩ := smallDefinition.merge_on_flush smallDisk
    smallPath smallFile [(0, .press .increase), (1, .set (some 9))] true small_checked small_opened
    small_numbers flushed
  exact ⟨reopened, loaded, names, beside "x" (by decide)⟩

end CounterForms
