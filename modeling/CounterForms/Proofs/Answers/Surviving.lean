import CounterForms.Proofs.Answers.Counting
import CounterForms.Proofs.Answers.Saving

/-!
What saving does to answers that nobody edited. A form hands back the answers of all its questions
when it is saved. A count that is stored as a whole number comes back as it was; a stored number
that equals no count is no answer, and null may take its place. Nothing is said here of a count that
is stored as a binary number.
-/

namespace CounterForms

namespace StoredAnswer

/-- What becomes of a stored value that was not edited: it stays, or null takes the place of nothing
or of a number that equals no count. -/
def Survives (before after : Option StoredAnswer) : Prop :=
  after = before ∨ after = some absent ∧
    ∀ stored value, before = some stored → stored.Equals value → ¬Counter.InRange value

/-- A count is stored as a binary number. -/
def BinaryCount (stored : Option StoredAnswer) : Prop :=
  ∃ number value, stored = some (floating number) ∧ (floating number).Equals value ∧
    Counter.InRange value

theorem Survives.trans {before between after : Option StoredAnswer}
    (first : Survives before between) (second : Survives between after) :
    Survives before after := by
  rcases second with rfl | ⟨rfl, second⟩
  · exact first
  · rcases first with rfl | ⟨-, first⟩
    · exact .inr ⟨rfl, second⟩
    · exact .inr ⟨rfl, first⟩

theorem Survives.no_binary_count {before after : Option StoredAnswer}
    (survives : Survives before after) (plain : ¬BinaryCount before) : ¬BinaryCount after := by
  rcases survives with rfl | ⟨rfl, -⟩
  · exact plain
  · rintro ⟨number, value, same, -⟩
    cases same

/-- A stored value survives being bound to a counter and handed back. -/
theorem survives_bound (stored : Option StoredAnswer) (plain : ¬BinaryCount stored) :
    Survives stored (some (ofAnswer (Counter.ofAnswer (stored.bind answer?)).answer)) := by
  cases answered : (Counter.ofAnswer (stored.bind answer?)).answer with
  | some value =>
      left
      exact ((counter_answer stored value).mp answered).1.symm
  | none =>
      -- Without an answer there is no whole number in range, and there was no binary one before.
      refine .inr ⟨rfl, fun held value same equals inRange => ?_⟩
      cases held with
      | absent => exact equals
      | integer whole =>
          cases equals
          rw [(counter_answer stored value).mpr ⟨same, inRange⟩] at answered
          cases answered
      | floating number => exact plain ⟨number, value, same, equals, inRange⟩

end StoredAnswer

namespace Opening

/-- A workspace in which the answers file has the bytes that it had when it was opened, or is the
text of a ledger that holds a form, and in which whatever the file held for a question survives that
is read-only or whose name is not among the targets, counts in binary numbers aside. -/
structure Carries (opening : Opening) (targets : List String) (workspace : Workspace) : Prop where
  journal : workspace.journal = opening.workspace.journal
  larger : opening.workspace.disk.Extends workspace.disk
  carried : opening.workspace.disk.SameFile workspace.disk opening.path ∨
    ∃ (form : Form) (ledger : AnswerLedger), form.Fills opening.definition ∧ ledger.Holds form ∧
      workspace.disk.find opening.path = .ok (.file ledger.text.toUTF8) ∧
      ∀ declaration ∈ opening.definition.questions,
        declaration.readOnly = true ∨ declaration.name ∉ targets →
        ¬StoredAnswer.BinaryCount (opening.file.ledger.get? declaration.name) →
        StoredAnswer.Survives (opening.file.ledger.get? declaration.name)
          (ledger.get? declaration.name)

/-- In a ledger that holds a form which spares questions of the opened form, what the file held for
those questions survives. -/
theorem survives_of_spares (opening : Opening) (targets : List String) (form : Form)
    (ledger : AnswerLedger) (spares : opening.form.Spares form targets)
    (holds : ledger.Holds form) :
    ∀ declaration ∈ opening.definition.questions,
      declaration.readOnly = true ∨ declaration.name ∉ targets →
      ¬StoredAnswer.BinaryCount (opening.file.ledger.get? declaration.name) →
      StoredAnswer.Survives (opening.file.ledger.get? declaration.name)
        (ledger.get? declaration.name) := by
  intro declaration declared spared plain
  obtain ⟨index, found⟩ := List.mem_iff_getElem?.mp declared
  have bound : opening.form.question? index =
      some (.ofDeclaration declaration (opening.file.answer? declaration.name)) := by
    show (List.map _ _)[index]? = _
    rw [List.getElem?_map, found]
    rfl
  have stays := spares index _ bound spared
  have held := holds _ (List.mem_of_getElem? stays)
  have survives := StoredAnswer.survives_bound (opening.file.ledger.get? declaration.name) plain
  have same : ledger.get? declaration.name = some (.ofAnswer
      (Counter.ofAnswer (opening.file.answer? declaration.name)).answer) := held
  rw [same]
  exact survives

theorem Tracks.carries {opening : Opening} {targets : List String} {source : AnswerSource}
    {workspace : Workspace} {saved : Option Form}
    (tracks : opening.Tracks
      (fun form => form.Fills opening.definition ∧ opening.form.Spares form targets)
      source workspace saved) :
    opening.Carries targets workspace where
  journal := tracks.journal
  larger := tracks.larger
  carried := by
    obtain ⟨file, -, -, -, stands⟩ := tracks.file
    cases stands with
    | untouched same _ _ => exact .inl same
    | written form ledger allowed holds beside found clean =>
        exact .inr ⟨form, ledger, allowed.1, holds, found,
          opening.survives_of_spares targets form ledger allowed.2 holds⟩

end Opening

end CounterForms
