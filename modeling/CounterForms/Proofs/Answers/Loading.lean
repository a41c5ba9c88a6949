import CounterForms.Proofs.Answers.Merging

/-!
Opening an answers file again. A file that holds the answers of a form is bound to that form if it
can be opened; and it can be opened as long as its bytes were left alone, or if every value under a
name that the definition does not declare can be read again after it was written.
-/

namespace CounterForms

structure Loading where
  definition : FormDefinition
  path : Path
  disk : Disk
  file : AnswerFile
  checked : definition.check = .ok ()
  opened : AnswerFile.load disk path = .ok file

/-- Where the text of a ledger lies that holds the answers of a form, the file is opened again and
bound to that form exactly if the text is accepted. -/
theorem FormDefinition.reopens_text (definition : FormDefinition) (disk : Disk) (path : Path)
    (form : Form) (ledger : AnswerLedger) (fills : form.Fills definition)
    (holds : ledger.Holds form) (found : disk.find path = .ok (.file ledger.text.toUTF8)) :
    definition.ReopensAs disk path form ↔ ∃ again, AnswerLedger.ofText ledger.text = .ok again := by
  rw [FormDefinition.ReopensAs, AnswerFile.load_text disk path ledger.text found]
  cases read : AnswerLedger.ofText ledger.text with
  | error failure => simp [during, Except.map]
  | ok again =>
      have again_holds := AnswerLedger.reread_holds ledger again form holds read
      simp only [during, Except.map, Except.ok.injEq, exists_eq', iff_true]
      exact ⟨_, rfl, AnswerLedger.bind_of_holds definition _ form fills again_holds⟩

namespace Loading

variable (loading : Loading)

def form : Form := loading.definition.bindTo (.onDisk loading.file)

theorem file_eq : loading.file = ⟨loading.path, loading.file.ledger, false⟩ :=
  (AnswerFile.load_ok _ _ _ loading.opened).1

theorem opened_cases :
    loading.file.ledger = Ledger.empty ∨
      ∃ bytes, loading.disk.find loading.path = .ok (.file bytes) :=
  (AnswerFile.load_ok _ _ _ loading.opened).2.2.imp And.right id

theorem holds_filled (form : Form) (fills : form.Fills loading.definition) (ledger : AnswerLedger)
    (holds : ledger.Holds form) : ledger ≠ Ledger.empty := by
  rintro rfl
  have filled := fills.filled (loading.definition.check_names loading.checked).2
  obtain ⟨question, later, isFirst⟩ := List.exists_cons_of_ne_nil filled
  have held := holds question (by simp [isFirst])
  cases held

/-- A file stays at its path, holds the answers of a form and touches no name beside them once they
are entered. -/
theorem filled (file : AnswerFile) (form : Form) (fills : form.Fills loading.definition)
    (located : file.path = loading.path)
    (beside : file.ledger.AgreesBeside loading.file.ledger loading.definition.names) :
    (file.setAnswers form.answers).path = loading.path ∧
      (file.setAnswers form.answers).ledger.Holds form ∧
      (file.setAnswers form.answers).ledger.AgreesBeside loading.file.ledger
        loading.definition.names := by
  have names : form.names = loading.definition.names := fills.names
  have distinct : form.names.Nodup := names ▸ (loading.definition.check_names loading.checked).1
  refine ⟨(file.set_answers_path form.answers).trans located,
    file.set_answers_holds form distinct, fun name absent => ?_⟩
  exact (file.set_answers_beside form distinct name (names ▸ absent)).trans (beside name absent)

/-- A ledger with the answers of a form is accepted again exactly if the values under names that the
definition does not declare are. -/
theorem accepted_iff (form : Form) (ledger : AnswerLedger) (fills : form.Fills loading.definition)
    (holds : ledger.Holds form)
    (beside : ledger.AgreesBeside loading.file.ledger loading.definition.names) :
    (∃ again, AnswerLedger.ofText ledger.text = .ok again) ↔
      loading.file.ledger.RereadsBeside loading.definition.names := by
  rw [AnswerLedger.of_text_accepted]
  constructor
  · rintro accepted ⟨name, stored⟩ member absent
    have kept := beside name absent
    rw [(Ledger.get_eq_some _ _ _).mpr member] at kept
    exact accepted (name, stored) ((Ledger.get_eq_some _ _ _).mp kept)
  · rintro others ⟨name, stored⟩ member
    have found := (Ledger.get_eq_some ledger name stored).mpr member
    by_cases declared : name ∈ loading.definition.names
    · rw [← fills.names] at declared
      obtain ⟨question, isQuestion, rfl⟩ := List.mem_map.mp declared
      rw [holds question isQuestion] at found
      cases Option.some.inj found
      exact Option.isSome_of_eq_some (AnswerLedger.reread_answer question.counter)
    · rw [beside name declared] at found
      exact others (name, stored) ((Ledger.get_eq_some _ _ _).mp found) declared

/-- A file that holds something lies on the disk, and still does if its bytes were left alone. -/
theorem find_untouched (form : Form) (fills : form.Fills loading.definition)
    (holds : loading.file.ledger.Holds form) (disk : Disk) (larger : loading.disk.Extends disk)
    (same : loading.disk.SameFile disk loading.path) :
    disk.contains loading.path = true ∧
      AnswerFile.load disk loading.path = .ok loading.file := by
  rcases loading.opened_cases with isEmpty | ⟨bytes, there⟩
  · exact absurd isEmpty (loading.holds_filled form fills _ holds)
  · have found := larger.find_same there same
    refine ⟨Disk.contains_find _ _ _ found, ?_⟩
    rw [AnswerFile.load_congr loading.disk _ _ (found.trans there.symm)]
    exact loading.opened

/-- A file whose bytes were left alone is opened again, and bound to the form that it holds. -/
theorem reopens_untouched (form : Form) (fills : form.Fills loading.definition)
    (holds : loading.file.ledger.Holds form) (disk : Disk) (larger : loading.disk.Extends disk)
    (same : loading.disk.SameFile disk loading.path) :
    loading.definition.ReopensAs disk loading.path form := by
  obtain ⟨-, loaded⟩ := loading.find_untouched form fills holds disk larger same
  exact ⟨loading.file, loaded,
    AnswerLedger.bind_of_holds loading.definition loading.file form fills holds⟩

/-- A file that was written is opened again, and bound to the form that it holds, exactly if its
bytes are those of the beginning, or what it held under other names can be written and read again.
-/
theorem reopens_written (form : Form) (fills : form.Fills loading.definition)
    (ledger : AnswerLedger) (holds : ledger.Holds form)
    (beside : ledger.AgreesBeside loading.file.ledger loading.definition.names) (disk : Disk)
    (larger : loading.disk.Extends disk)
    (found : disk.find loading.path = .ok (.file ledger.text.toUTF8)) :
    loading.definition.ReopensAs disk loading.path form ↔
      (loading.disk.SameFile disk loading.path ∨
        loading.file.ledger.RereadsBeside loading.definition.names) := by
  have accepted := loading.accepted_iff form ledger fills holds beside
  rw [loading.definition.reopens_text _ _ form ledger fills holds found, accepted]
  refine ⟨.inr, fun either => ?_⟩
  rcases either with same | others
  · rcases loading.opened_cases with isEmpty | ⟨bytes, there⟩
    · -- An empty file held nothing that could be misread.
      intro entry member
      rw [isEmpty] at member
      cases member
    · have held := Disk.find_file_bytes found
      rw [larger.placeOf loading.path] at held
      rw [← accepted]
      have bytesSame : bytes = ledger.text.toUTF8 := by
        have before := Disk.find_file_bytes there
        exact Option.some.inj (before.symm.trans (same.symm.trans held))
      subst bytesSame
      have read := loading.opened
      rw [AnswerFile.load_text _ _ _ there] at read
      cases again : AnswerLedger.ofText ledger.text with
      | ok reread => exact ⟨reread, rfl⟩
      | error failure =>
          rw [again] at read
          cases read
  · exact others

end Loading

end CounterForms
