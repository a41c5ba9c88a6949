import CounterForms.Proofs.Answers.Merging
import CounterForms.Proofs.Answers.RoundTrip

/-!
The order of the names in a file of answers. A name that the file held keeps its place and a new one
goes to the end, so the names of a form come in the order of the form exactly if those that the file
held are the first of the form.
-/

namespace CounterForms

namespace AnswerLedger

def namesAmong (ledger : AnswerLedger) (names : List String) : List String :=
  ledger.names.filter (· ∈ names)

/-- The ledger holds all of some names, one behind the other as they are given. -/
def FollowsOrder (ledger : AnswerLedger) (names : List String) : Prop :=
  ledger.namesAmong names = names

instance (ledger : AnswerLedger) (names : List String) : Decidable (ledger.FollowsOrder names) :=
  inferInstanceAs (Decidable (ledger.namesAmong names = names))

/-- The names of the object that the text of a ledger is read as are those of the ledger. -/
theorem read_object_names (ledger : AnswerLedger) (members : List (String × Json))
    (read : Json.readObject ledger.text = .ok members) :
    members.map Prod.fst = ledger.names := by
  have option := ledger.read_object_text
  rw [read] at option
  exact map_m_names member? member_name ledger.entries members option.symm

/-- Names that are put behind others, unless they are among them, stand behind those of them that
are. -/
theorem filter_behind (held names : List String) :
    (held ++ names.filter (· ∉ held)).filter (· ∈ names) =
      held.filter (· ∈ names) ++ names.filter (· ∉ held) := by
  rw [List.filter_append, List.filter_filter]
  congr 1
  apply List.filter_congr
  intro name isName
  simp [isName]

/-- Some names in the order in which they are held, and the missing ones in their own order, are all
in their own order exactly if the held ones come first in it. -/
theorem held_first_iff (held names : List String) (distinct : names.Nodup) :
    held.filter (· ∈ names) ++ names.filter (· ∉ held) = names ↔
      held.filter (· ∈ names) <+: names := by
  constructor
  · intro ordered
    exact ⟨_, ordered⟩
  · rintro ⟨rest, split⟩
    rw [← split, List.nodup_append] at distinct
    obtain ⟨-, -, apart⟩ := distinct
    have front : (held.filter (· ∈ names)).filter (· ∉ held) = [] := by
      rw [List.filter_eq_nil_iff]
      intro name isFront
      simpa using (List.mem_filter.mp isFront).1
    have back : rest.filter (· ∉ held) = rest := by
      rw [List.filter_eq_self]
      intro name isRest
      have isName : name ∈ names := split ▸ List.mem_append_right _ isRest
      rw [decide_eq_true_eq]
      intro isHeld
      have isFront : name ∈ held.filter (· ∈ names) := List.mem_filter.mpr ⟨isHeld, by simpa⟩
      exact apart name isFront name isRest rfl
    have missing : names.filter (· ∉ held) = rest := by
      conv_lhs => rw [← split]
      rw [List.filter_append, front, back, List.nil_append]
    rw [missing, split]

end AnswerLedger

/-- The order of a file that was written. A checked definition is bound to an opened file and edited
in any way; then the answers are written back, and the flush writes. The file has the text of a
ledger, one line for each name in its order, and an object that it is read as has these names in
this order. Those names of the definition that the file held before stand in the order in which it
held them, and the others behind them in the order of the definition; so all names of the definition
come in its order exactly if those that the file held are the first of the definition. -/
theorem FormDefinition.written_in_order (definition : FormDefinition) (disk : Disk) (path : Path)
    (file : AnswerFile) (edits : List (Nat × Edit)) (checked : definition.check = .ok ())
    (opened : AnswerFile.load disk path = .ok file)
    (wrote : (((AnswerSource.onDisk file).setAnswers
      ((definition.bindTo (.onDisk file)).editAll edits).answers).flush disk).written =
        .ok true) :
    ∃ ledger : AnswerLedger,
      (((AnswerSource.onDisk file).setAnswers
        ((definition.bindTo (.onDisk file)).editAll edits).answers).flush disk).disk.readText path =
          .ok ledger.text ∧
      (∀ members, Json.readObject ledger.text = .ok members →
        members.map Prod.fst = ledger.names) ∧
      ledger.namesAmong definition.names =
        file.ledger.namesAmong definition.names ++
          definition.names.filter (· ∉ file.ledger.names) ∧
      (ledger.FollowsOrder definition.names ↔
        file.ledger.namesAmong definition.names <+: definition.names) := by
  have fills : ((definition.bindTo (.onDisk file)).editAll edits).Fills definition :=
    (Form.bind_fills definition _).edit_all edits
  generalize (definition.bindTo (.onDisk file)).editAll edits = form at fills wrote ⊢
  have distinct : definition.names.Nodup := (definition.check_names checked).1
  rw [AnswerSource.set_answers_on_disk] at wrote ⊢
  have found := (file.setAnswers form.answers).flush_wrote disk wrote
  have located : (file.setAnswers form.answers).path = path := by
    rw [file.set_answers_path, (AnswerFile.load_ok disk path file opened).1]
  rw [located] at found
  have names := file.set_answers_names form (fills.names ▸ distinct)
  rw [fills.names] at names
  have among : (file.setAnswers form.answers).ledger.namesAmong definition.names =
      file.ledger.namesAmong definition.names ++
        definition.names.filter (· ∉ file.ledger.names) := by
    rw [AnswerLedger.namesAmong, names]
    exact AnswerLedger.filter_behind file.ledger.names definition.names
  refine ⟨_, Disk.read_text_find _ path _ found, AnswerLedger.read_object_names _, among, ?_⟩
  rw [AnswerLedger.FollowsOrder, among]
  exact AnswerLedger.held_first_iff file.ledger.names definition.names distinct

/-- The small file holds the first name of the small form, and another name before it. -/
theorem written_in_order_small :
    ∃ ledger : AnswerLedger,
      (((AnswerSource.onDisk smallFile).setAnswers
        ((smallDefinition.bindTo (.onDisk smallFile)).editAll
          [(0, .press .increase)]).answers).flush smallDisk).disk.readText smallPath =
          .ok ledger.text ∧
      ledger.namesAmong ["a", "b"] = ["a", "b"] ∧ ledger.FollowsOrder ["a", "b"] := by
  have wrote : (((AnswerSource.onDisk smallFile).setAnswers
      ((smallDefinition.bindTo (.onDisk smallFile)).editAll
        [(0, .press .increase)]).answers).flush smallDisk).written = .ok true :=
    ok_of_to_option _ _ (by decide +kernel)
  obtain ⟨ledger, text, -, among, inOrder⟩ := smallDefinition.written_in_order smallDisk smallPath
    smallFile [(0, .press .increase)] small_checked small_opened wrote
  exact ⟨ledger, text, among, inOrder.mpr (by decide)⟩

def swappedDisk : Disk where
  entries := [(["tally.json"], .file "\x7b\"b\": 1, \"a\": 2\x7d".toUTF8)]
  workingDirectory := []

def swappedFile : AnswerFile where
  path := smallPath
  ledger := ⟨[("b", .integer 1), ("a", .integer 2)], by decide⟩
  dirty := false

/-- The names of a checked form do not come in its order in a file that was opened with them in
another order and written. -/
theorem swapped_order_kept :
    smallDefinition.check = .ok () ∧
    AnswerFile.load swappedDisk smallPath = .ok swappedFile ∧
    (((AnswerSource.onDisk swappedFile).setAnswers
      ((smallDefinition.bindTo (.onDisk swappedFile)).editAll
        [(0, .press .increase)]).answers).flush swappedDisk).written = .ok true ∧
    (((AnswerSource.onDisk swappedFile).setAnswers
      ((smallDefinition.bindTo (.onDisk swappedFile)).editAll
        [(0, .press .increase)]).answers).flush swappedDisk).disk.readText smallPath =
      .ok "\x7b\n  \"b\": 1,\n  \"a\": 3\n\x7d\n" ∧
    (Json.readObject "\x7b\n  \"b\": 1,\n  \"a\": 3\n\x7d\n").toOption.map
      (List.map Prod.fst) = some ["b", "a"] ∧
    ["b", "a"].filter (· ∈ smallDefinition.names) ≠ smallDefinition.names := by
  have opened : AnswerFile.load swappedDisk smallPath = .ok swappedFile :=
    AnswerFile.load_of_ledger _ _ _ (by decide +kernel)
  refine ⟨small_checked, opened, ok_of_to_option _ _ (by decide +kernel),
    ok_of_to_option _ _ (by decide +kernel), by decide +kernel, by decide⟩

end CounterForms
