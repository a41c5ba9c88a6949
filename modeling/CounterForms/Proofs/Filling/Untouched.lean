import CounterForms.Proofs.CommandLine.Answer
import CounterForms.Proofs.Session.Targets

/-!
What filling in a form leaves alone. A question that is read-only, or that nothing in a run aims at,
keeps what the answers file holds for it, whether the form is filled in on the screen or by
commands. Only a stored number that equals no count may give way to null, since it is no answer. A
count that is stored as a binary number is left out.
-/

namespace CounterForms

/-- The answers file has the bytes that it had, or is the text of a ledger in which whatever it held
for a question survives that is read-only or not among the targets. Of a count that was stored as a
binary number nothing is said. -/
def FormDefinition.LeavesAlone (definition : FormDefinition) (path : Path) (targets : List String)
    (before : Disk) (file : AnswerFile) (after : Disk) : Prop :=
  before.SameFile after path ∨
    ∃ ledger : AnswerLedger, after.readText path = .ok ledger.text ∧
      ∀ declaration ∈ definition.questions,
        declaration.readOnly = true ∨ declaration.name ∉ targets →
        ¬StoredAnswer.BinaryCount (file.ledger.get? declaration.name) →
        StoredAnswer.Survives (file.ledger.get? declaration.name)
          (ledger.get? declaration.name)

theorem Opening.Carries.leaves_alone {opening : Opening} {targets : List String}
    {workspace : Workspace} (carries : opening.Carries targets workspace) :
    opening.definition.LeavesAlone opening.path targets opening.workspace.disk opening.file
      workspace.disk := by
  rcases carries.carried with same | ⟨form, ledger, fills, holds, found, survives⟩
  · exact .inl same
  · exact .inr ⟨ledger, workspace.disk.read_text_find opening.path ledger.text found, survives⟩

/-- A run leaves alone what it does not aim at: a session with any keys, and any commands one after
the other, whether their saves succeed or fail. For commands, which open the file again and again,
the path has to be settled. -/
theorem runs_leave_alone (definition : FormDefinition) (path : Path) (workspace : Workspace)
    (file : AnswerFile) (checked : definition.check = .ok ())
    (opened : AnswerFile.load workspace.disk path = .ok file)
    (spares : workspace.disk.SparesFiles) (apart : workspace.Apart path) :
    (∀ (config : Config) (session : Session) (events : List KeyEvent),
      Session.start config (definition.bindTo (.onDisk file)) (.onDisk file) workspace =
        .ok session →
      definition.LeavesAlone path (session.opened.targets events) workspace.disk file
        (session.opened.takeAll events).leave.2.workspace.disk) ∧
    (workspace.disk.Settled path → ∀ commands : List (String × Operation),
      definition.LeavesAlone path (commandTargets commands) workspace.disk file
        (definition.answerEach path workspace commands).2.disk) := by
  let opening : Opening := ⟨definition, path, workspace, file, checked, opened, spares, apart⟩
  constructor
  · intro config session events started
    have carried := Session.leave_carries opening config session events started
    exact carried.leaves_alone
  · intro settled commands
    have begun : opening.Carries (commandTargets commands) workspace :=
      ⟨rfl, Disk.Extends.refl _, .inl rfl⟩
    have carried := begun.answer_each settled commands (List.Subset.refl _)
    exact carried.leaves_alone

theorem runs_leave_alone_small :
    (∃ session,
      Session.start {} (smallDefinition.bindTo (.onDisk smallFile)) (.onDisk smallFile)
        ⟨smallDisk, none⟩ = .ok session ∧
      smallDefinition.LeavesAlone smallPath (session.opened.targets Session.smallKeys) smallDisk
        smallFile (session.opened.takeAll Session.smallKeys).leave.2.workspace.disk) ∧
    smallDefinition.LeavesAlone smallPath (commandTargets [("b", .set 4), ("a", .look)]) smallDisk
      smallFile (smallDefinition.answerEach smallPath ⟨smallDisk, none⟩
        [("b", .set 4), ("a", .look)]).2.disk := by
  have spares : smallDisk.SparesFiles := by
    intro hindrance waits
    cases waits
  obtain ⟨session, started⟩ := Session.small_started
  obtain ⟨sessions, commands⟩ := runs_leave_alone smallDefinition smallPath ⟨smallDisk, none⟩
    smallFile small_checked small_opened spares (Workspace.apart_unkept _ _)
  have settled : smallDisk.Settled smallPath :=
    smallDisk.settled_of_write_place smallPath ["tally.json"] (by rfl)
  exact ⟨⟨session, started, sessions {} session Session.smallKeys started⟩, commands settled _⟩

def negativeDisk : Disk where
  entries := [(["tally.json"], .file "\x7b\"a\": -5, \"b\": 3\x7d".toUTF8)]
  workingDirectory := []

def openDefinition : FormDefinition where
  title := "Tally"
  questions := [{ name := "a", label := "A" }, { name := "b", label := "B" }]

def heldAt (disk : Disk) (path : Path) (name : String) : Option StoredAnswer :=
  (AnswerFile.load disk path).toOption.bind fun file => file.ledger.get? name

/-- A path that leads nowhere as long as a directory is missing, and to the answers file of a disk
once it is made; the write after that is hindered. -/
def roundabout : Path := ⟨"gone/../tally.json"⟩

def roundaboutDisk : Disk where
  entries := [(["tally.json"], .file "\x7b\"b\": 3\x7d".toUTF8)]
  workingDirectory := []
  hindrances := [none, some ⟨.noSpace, none⟩]

/-- Where a path is not settled, what lies at its place may turn up between two commands: the file
that is opened first holds nothing, and in the end it holds a count for a question that no command
aimed at. -/
theorem unsettled_value_turns_up :
    (AnswerFile.load roundaboutDisk roundabout).toOption.map AnswerFile.ledger =
        some Ledger.empty ∧
      "b" ∉ commandTargets [("a", .increase), ("a", .increase)] ∧
      heldAt (openDefinition.answerEach roundabout ⟨roundaboutDisk, none⟩
        [("a", .increase), ("a", .increase)]).2.disk roundabout "b" = some (.integer 3) := by
  decide +kernel

/-- Not every stored value survives: a negative number gives way to null when another question is
increased, and when a session is left without any edit. A count does not survive either where a
write fails half-way and empties the file, or where the journal is kept in the answers file. -/
theorem stored_value_lost :
    heldAt negativeDisk smallPath "a" = some (.integer (-5)) ∧
    heldAt negativeDisk smallPath "b" = some (.integer 3) ∧
    heldAt (openDefinition.answerEach smallPath ⟨negativeDisk, none⟩ [("b", .increase)]).2.disk
      smallPath "a" = some .absent ∧
    ((AnswerFile.load negativeDisk smallPath).toOption.bind fun file =>
      (Session.start {} (openDefinition.bindTo (.onDisk file)) (.onDisk file)
        ⟨negativeDisk, none⟩).toOption.bind fun session =>
          heldAt session.opened.leave.2.workspace.disk smallPath "a") = some .absent ∧
    heldAt (openDefinition.answerEach smallPath
      ⟨{ negativeDisk with hindrances := [some ⟨.noSpace, some .empty⟩] }, none⟩
      [("a", .increase)]).2.disk smallPath "b" = none ∧
    ((AnswerFile.load negativeDisk smallPath).toOption.bind fun file =>
      (Session.start { saveOnExit := false } (openDefinition.bindTo (.onDisk file)) (.onDisk file)
        ⟨negativeDisk, some ⟨["tally.json"], LogFilter.ofVariable none⟩⟩).toOption.bind
          fun session => heldAt session.opened.leave.2.workspace.disk smallPath "b") = none := by
  decide +kernel

end CounterForms
