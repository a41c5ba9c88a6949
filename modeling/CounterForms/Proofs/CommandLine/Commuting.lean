import CounterForms.Proofs.Answers.Accepting
import CounterForms.Proofs.Answers.Mirroring
import CounterForms.Proofs.CommandLine.Reply
import Mathlib.Data.List.Nodup

/-!
Commands in another order. Where files can be written, a run of commands shows the replies of the
form that it started from, and the file in the end is the one that was there, if no command made a
form that it did not hold, or else the text of the form that all commands make. Both depend on the
commands on each name in their order, and not on how commands on different names take turns.
-/

namespace CounterForms

namespace Form

theorem asked_of_mem (form : Form) (distinct : form.names.Nodup) (question : Question)
    (member : question ∈ form.questions) : form.asked? question.name = some question := by
  have named : question.name ∈ form.names := List.mem_map.mpr ⟨question, member, rfl⟩
  cases found : form.indexOf? question.name with
  | none => exact absurd named (form.index_of_none question.name found)
  | some index =>
      obtain ⟨other, there, same⟩ := form.index_of_some question.name index found
      obtain ⟨inside, isOther⟩ := List.getElem?_eq_some_iff.mp there
      have isMember : other ∈ form.questions := List.mem_of_getElem? there
      rw [List.inj_on_of_nodup_map distinct isMember member same] at there
      exact form.asked_at question.name index question found there

/-- Forms of one definition are the same if they have the same under every name. -/
theorem Fills.eq_of_asked {one other : Form} {definition : FormDefinition}
    (fills : one.Fills definition) (filled : other.Fills definition)
    (distinct : definition.names.Nodup) (same : ∀ name, one.asked? name = other.asked? name) :
    one = other := by
  let answerOf (name : String) : Option Int := (one.asked? name).bind Question.answer
  have first : bind definition answerOf = one := by
    apply one.bind_answers definition fills
    intro question member
    simp only [answerOf, one.asked_of_mem (fills.names ▸ distinct) question member,
      Option.bind_some]
  have second : bind definition answerOf = other := by
    apply other.bind_answers definition filled
    intro question member
    simp only [answerOf, same, other.asked_of_mem (filled.names ▸ distinct) question member,
      Option.bind_some]
  exact first.symm.trans second

theorem obey_all_kept (form : Form) (commands : List (String × Operation))
    (kept : ∀ command ∈ commands, form.obey command = form) : form.obeyAll commands = form := by
  induction commands with
  | nil => rfl
  | cons command later induction =>
      show (form.obey command).obeyAll later = form
      rw [kept command (by simp)]
      exact induction fun other member => kept other (by simp [member])

end Form

def commandsOn (name : String) (commands : List (String × Operation)) :
    List (String × Operation) :=
  commands.filter fun command => command.1 == name

/-- What is shown for the commands on a name. -/
def shownOn (name : String) (commands : List (String × Operation))
    (shown : List (Attempted String)) : List (Attempted String) :=
  ((commands.zip shown).filter fun pair => pair.1.1 == name).map Prod.snd

section OneName

variable (name : String) (command : String × Operation) (later : List (String × Operation))

theorem commands_on_same (same : command.1 = name) :
    commandsOn name (command :: later) = command :: commandsOn name later := by
  simp [commandsOn, same]

theorem commands_on_other (other : command.1 ≠ name) :
    commandsOn name (command :: later) = commandsOn name later := by
  simp [commandsOn, other]

theorem shown_on_same (same : command.1 = name) (reply : Attempted String)
    (others : List (Attempted String)) :
    shownOn name (command :: later) (reply :: others) = reply :: shownOn name later others := by
  simp [shownOn, same]

theorem shown_on_other (other : command.1 ≠ name) (reply : Attempted String)
    (others : List (Attempted String)) :
    shownOn name (command :: later) (reply :: others) = shownOn name later others := by
  simp [shownOn, other]

end OneName

theorem mem_of_commands_on {commands others : List (String × Operation)}
    (same : ∀ name, commandsOn name commands = commandsOn name others) :
    ∀ command, command ∈ commands ↔ command ∈ others := by
  intro command
  have here := congrArg (fun filtered => command ∈ filtered) (same command.1)
  simpa [commandsOn] using here

namespace Form

/-- What is under a name after commands is what the commands on that name make of it. -/
theorem asked_obey_all (name : String) (commands : List (String × Operation)) {one other : Form}
    (same : one.asked? name = other.asked? name) :
    (one.obeyAll commands).asked? name = (other.obeyAll (commandsOn name commands)).asked? name := by
  induction commands generalizing one other with
  | nil => exact same
  | cons command later induction =>
      by_cases here : command.1 = name
      · rw [commands_on_same name command later here]
        apply induction
        rw [asked_obey, asked_obey, same]
      · rw [commands_on_other name command later here]
        apply induction
        rw [one.asked_obey_other command name (Ne.symm here), same]

/-- Commands on one name are replied to as if there were no others. -/
theorem replies_on (name : String) (commands : List (String × Operation)) {one other : Form}
    (title : one.title = other.title) (same : one.asked? name = other.asked? name) :
    shownOn name commands (one.replies commands) = other.replies (commandsOn name commands) := by
  induction commands generalizing one other with
  | nil => rfl
  | cons command later induction =>
      by_cases here : command.1 = name
      · have reply : one.reply command = other.reply command := by
          rw [reply, reply, here, same, title]
        rw [commands_on_same name command later here, replies, replies,
          shown_on_same name command later here, reply]
        congr 1
        apply induction
        · rw [obey_title, obey_title, title]
        · rw [asked_obey, asked_obey, same]
      · rw [commands_on_other name command later here, replies,
          shown_on_other name command later here]
        apply induction
        · rw [obey_title, title]
        · rw [one.asked_obey_other command name (Ne.symm here), same]

theorem obey_all_order {form : Form} {definition : FormDefinition} (fills : form.Fills definition)
    (distinct : definition.names.Nodup) {commands others : List (String × Operation)}
    (same : ∀ name, commandsOn name commands = commandsOn name others) :
    form.obeyAll commands = form.obeyAll others := by
  apply (fills.obey_all commands).eq_of_asked (fills.obey_all others) distinct
  intro name
  rw [form.asked_obey_all name commands rfl, form.asked_obey_all name others rfl, same]

end Form

namespace AnswerFile

/-- Writing a form over another one of the same names leaves nothing of the other. -/
theorem set_answers_again (file again : AnswerFile) (one other : Form)
    (names : one.names = other.names) (distinct : other.names.Nodup)
    (held : again.ledger = (file.setAnswers one.answers).ledger) :
    (again.setAnswers other.answers).ledger = (file.setAnswers other.answers).ledger := by
  have first := file.set_answers_names one (names ▸ distinct)
  apply Ledger.eq_of_get
  · rw [again.set_answers_names other distinct, file.set_answers_names other distinct, held, first,
      names, List.append_assoc]
    congr 1
    rw [List.append_right_eq_self, List.filter_eq_nil_iff]
    intro name declared
    by_cases known : name ∈ file.ledger.names <;> simp [known, declared]
  · intro name
    rw [again.get_set_answers _ (other.answers_names ▸ distinct),
      file.get_set_answers _ (other.answers_names ▸ distinct), held]
    by_cases declared : name ∈ other.names
    · obtain ⟨question, member, rfl⟩ := List.mem_map.mp declared
      rw [other.answers_lookup distinct question member]
      rfl
    · rw [other.answers_lookup_none name declared]
      exact file.set_answers_beside one (names ▸ distinct) name (names ▸ declared)

theorem keep_dirty (file : AnswerFile) (workspace : Workspace) (apart : workspace.Apart file.path)
    (dirty : file.dirty = true)
    (done : ((AnswerSource.onDisk file).keep workspace).result = .ok ()) :
    workspace.disk.Extends ((AnswerSource.onDisk file).keep workspace).workspace.disk ∧
      ((AnswerSource.onDisk file).keep workspace).workspace.disk.find file.path =
        .ok (.file file.ledger.text.toUTF8) := by
  have outcome := file.flush_cases workspace.disk
  unfold AnswerSource.keep AnswerSource.flush at done ⊢
  dsimp only at done ⊢
  generalize file.flush workspace.disk = flushed at outcome done ⊢
  cases outcome with
  | skipped clean there =>
      rw [clean] at dirty
      cases dirty
  | failed quiet unwritten => cases done
  | @written after extended found others =>
      have notes := Workspace.note_all_notes { workspace with disk := after }
        (AnswerSource.onDisk { file with dirty := false }).writtenEvents file.path
        (apart.extend rfl extended)
      exact ⟨extended.trans notes.alike.extends, notes.find.trans found⟩

end AnswerFile

namespace FormDefinition

/-- None of the commands that may write makes a form that a file does not hold. -/
def Settled (definition : FormDefinition) (file : AnswerFile)
    (commands : List (String × Operation)) : Prop :=
  ∀ command ∈ commands, (definition.bindTo (.onDisk file)).Writes command →
    file.ledger.Holds ((definition.bindTo (.onDisk file)).obey command)

variable {definition : FormDefinition} {file : AnswerFile}

theorem settled_cons (command : String × Operation) (later : List (String × Operation)) :
    definition.Settled file (command :: later) ↔
      ((definition.bindTo (.onDisk file)).Writes command →
        file.ledger.Holds ((definition.bindTo (.onDisk file)).obey command)) ∧
      definition.Settled file later :=
  List.forall_mem_cons

theorem obey_held (command : String × Operation)
    (held : (definition.bindTo (.onDisk file)).Writes command →
      file.ledger.Holds ((definition.bindTo (.onDisk file)).obey command)) :
    (definition.bindTo (.onDisk file)).obey command = definition.bindTo (.onDisk file) := by
  by_cases writes : (definition.bindTo (.onDisk file)).Writes command
  · have fills := (Form.bind_fills definition (AnswerSource.answer? (.onDisk file))).obey command
    exact (AnswerLedger.bind_of_holds definition file _ fills (held writes)).symm
  · exact Form.obey_refrained _ command writes

theorem Settled.obey_all {commands : List (String × Operation)}
    (settled : definition.Settled file commands) :
    (definition.bindTo (.onDisk file)).obeyAll commands = definition.bindTo (.onDisk file) := by
  apply Form.obey_all_kept
  intro command member
  exact obey_held command (settled command member)

theorem answer_each_cons (path : Path) (workspace : Workspace) (command : String × Operation)
    (later : List (String × Operation)) :
    definition.answerEach path workspace (command :: later) =
      ((definition.answerOnce path workspace command).1 ::
          (definition.answerEach path (definition.answerOnce path workspace command).2 later).1,
        (definition.answerEach path (definition.answerOnce path workspace command).2 later).2) :=
  rfl

end FormDefinition

namespace Workspace.Serves

variable {workspace : Workspace} {path : Path} {file : AnswerFile}

theorem answered (serves : workspace.Serves path file) (definition : FormDefinition)
    (command : String × Operation) :
    ∃ answered : Answered,
      definition.answerOnce path workspace command = (answered.shown, answered.workspace) ∧
      (definition.bindTo (.onDisk file)).Answers (.onDisk file) workspace command answered := by
  refine ⟨_, ?_, (definition.bindTo (.onDisk file)).answer_answers (.onDisk file) workspace
    command.1 command.2⟩
  rw [FormDefinition.answerOnce, serves.opened]

/-- A command that makes no form but the one that the file holds changes the journal at most. -/
theorem answer_held (serves : workspace.Serves path file) (definition : FormDefinition)
    (command : String × Operation)
    (held : (definition.bindTo (.onDisk file)).Writes command →
      file.ledger.Holds ((definition.bindTo (.onDisk file)).obey command)) :
    (definition.answerOnce path workspace command).1 =
        (definition.bindTo (.onDisk file)).reply command ∧
      workspace.Notes (definition.answerOnce path workspace command).2 path := by
  obtain ⟨answered, ran, answers⟩ := serves.answered definition command
  rw [ran]
  cases answers with
  | refrained refrains events =>
      exact ⟨rfl, workspace.note_all_notes events path serves.apart⟩
  | wrote writes text replied events =>
      have holds := held writes
      have clean : file.dirty = false := by rw [(AnswerFile.load_ok _ _ _ serves.opened).1]
      have unwritten : (AnswerSource.onDisk file).keepForm
          ((definition.bindTo (.onDisk file)).obey command) (workspace.noteAll events) =
            ⟨.ok (), .onDisk file, workspace.noteAll events⟩ := by
        simp only [AnswerSource.keepForm, AnswerSource.set_answers_on_disk,
          file.set_held_answers _ holds, AnswerSource.isDirty, clean, Bool.false_eq_true, if_false]
      rw [unwritten]
      exact ⟨replied.symm, workspace.note_all_notes events path serves.apart⟩

/-- A command that makes a form that the file does not hold writes that form. -/
theorem answer_fresh (serves : workspace.Serves path file) (definition : FormDefinition)
    (command : String × Operation) (form : Form)
    (made : (definition.bindTo (.onDisk file)).obey command = form)
    (writes : (definition.bindTo (.onDisk file)).Writes command)
    (fresh : ¬file.ledger.Holds form) :
    let after := (definition.answerOnce path workspace command).2
    (definition.answerOnce path workspace command).1 =
        (definition.bindTo (.onDisk file)).reply command ∧
      workspace.disk.Extends after.disk ∧
      after.Serves path ⟨path, (file.setAnswers form.answers).ledger, false⟩ ∧
      after.disk.find path = .ok (.file (file.setAnswers form.answers).ledger.text.toUTF8) := by
  have fills : form.Fills definition := made ▸ (Form.bind_fills definition _).obey command
  obtain ⟨answered, ran, answers⟩ := serves.answered definition command
  rw [ran]
  cases answers with
  | refrained refrains events => exact absurd writes refrains
  | wrote _ text replied events =>
      have notes := workspace.note_all_notes events path serves.apart
      have noted := serves.notes notes
      have dirty : (file.setAnswers form.answers).dirty = true := by
        rw [← Bool.not_eq_false, file.set_form_clean_iff form]
        exact fun clean => fresh clean.2
      have located : (file.setAnswers form.answers).path = path := by
        rw [file.set_answers_path, (AnswerFile.load_ok _ _ _ serves.opened).1]
      have kept : (AnswerSource.onDisk file).keepForm form (workspace.noteAll events) =
          ((AnswerSource.onDisk file).setAnswers form.answers).keep
            (workspace.noteAll events) := by
        simp only [AnswerSource.keepForm, AnswerSource.set_answers_on_disk, AnswerSource.isDirty,
          dirty, if_true]
      obtain ⟨done, served⟩ := noted.keep form
      have lies := AnswerFile.keep_dirty (file.setAnswers form.answers)
        (workspace.noteAll events) (located ▸ noted.apart) dirty
        (AnswerSource.set_answers_on_disk file form.answers ▸ done)
      rw [← AnswerSource.set_answers_on_disk, located] at lies
      rw [made, kept, done]
      exact ⟨replied.symm, notes.alike.extends.trans lies.1, served, lies.2⟩

structure Leaves (workspace : Workspace) (path : Path) (file : AnswerFile)
    (definition : FormDefinition) (commands : List (String × Operation)) : Prop where
  shown : (definition.answerEach path workspace commands).1 =
    (definition.bindTo (.onDisk file)).replies commands
  larger : workspace.disk.Extends (definition.answerEach path workspace commands).2.disk
  spared : definition.Settled file commands →
    workspace.disk.SameFile (definition.answerEach path workspace commands).2.disk path
  written : ¬definition.Settled file commands →
    (definition.answerEach path workspace commands).2.disk.find path =
      .ok (.file (file.setAnswers
        ((definition.bindTo (.onDisk file)).obeyAll commands).answers).ledger.text.toUTF8)

theorem Leaves.after_held (serves : workspace.Serves path file) (definition : FormDefinition)
    (command : String × Operation) (later : List (String × Operation))
    (held : (definition.bindTo (.onDisk file)).Writes command →
      file.ledger.Holds ((definition.bindTo (.onDisk file)).obey command))
    (rest : Leaves (definition.answerOnce path workspace command).2 path file definition later) :
    Leaves workspace path file definition (command :: later) := by
  obtain ⟨shown, notes⟩ := serves.answer_held definition command held
  have kept := FormDefinition.obey_held command held
  refine ⟨?_, notes.alike.extends.trans rest.larger, fun settled => ?_, fun unsettled => ?_⟩
  · rw [FormDefinition.answer_each_cons, Form.replies, kept, shown, rest.shown]
  · have settledLater := ((FormDefinition.settled_cons command later).mp settled).2
    exact notes.bytes.trans (rest.spared settledLater) notes.alike.extends
  · have unsettledLater : ¬definition.Settled file later := fun settled =>
      unsettled ((FormDefinition.settled_cons command later).mpr ⟨held, settled⟩)
    have found := rest.written unsettledLater
    rw [Form.obeyAll, List.foldl_cons, kept]
    exact found

theorem Leaves.after_fresh (serves : workspace.Serves path file) (definition : FormDefinition)
    (distinct : definition.names.Nodup) (command : String × Operation)
    (later : List (String × Operation)) (form : Form)
    (made : (definition.bindTo (.onDisk file)).obey command = form)
    (writes : (definition.bindTo (.onDisk file)).Writes command)
    (fresh : ¬file.ledger.Holds form)
    (rest : Leaves (definition.answerOnce path workspace command).2 path
      ⟨path, (file.setAnswers form.answers).ledger, false⟩ definition later) :
    Leaves workspace path file definition (command :: later) := by
  obtain ⟨shown, larger, -, found⟩ :=
    serves.answer_fresh definition command form made writes fresh
  have fills : form.Fills definition := made ▸ (Form.bind_fills definition _).obey command
  have unsettled : ¬definition.Settled file (command :: later) := by
    intro settled
    have holds := ((FormDefinition.settled_cons command later).mp settled).1 writes
    exact fresh (made ▸ holds)
  -- What the command wrote holds the form that it made, so the later commands start from there.
  have bound : definition.bindTo
      (.onDisk ⟨path, (file.setAnswers form.answers).ledger, false⟩) = form := by
    apply AnswerLedger.bind_of_holds definition _ form fills
    exact file.set_answers_holds form (fills.names ▸ distinct)
  refine ⟨?_, larger.trans rest.larger, fun settled => absurd settled unsettled, fun _ => ?_⟩
  · rw [FormDefinition.answer_each_cons, Form.replies, made, shown, rest.shown, bound]
  · rw [FormDefinition.answer_each_cons, Form.obeyAll, List.foldl_cons, made, ← Form.obeyAll]
    by_cases settled : definition.Settled
        ⟨path, (file.setAnswers form.answers).ledger, false⟩ later
    · have kept := settled.obey_all
      rw [bound] at kept
      rw [kept]
      exact rest.larger.find_same found (rest.spared settled)
    · have last := (fills.obey_all later).names
      have again := file.set_answers_again
        ⟨path, (file.setAnswers form.answers).ledger, false⟩ form (form.obeyAll later)
        (fills.names.trans last.symm) (last ▸ distinct) rfl
      rw [rest.written settled, bound, again]

theorem leaves (serves : workspace.Serves path file) (definition : FormDefinition)
    (distinct : definition.names.Nodup) (commands : List (String × Operation)) :
    Leaves workspace path file definition commands := by
  -- The file may be another one after each command, but one that the workspace serves again.
  induction commands generalizing workspace file with
  | nil =>
      refine ⟨rfl, Disk.Extends.refl _, fun _ => rfl, fun unsettled => ?_⟩
      exact absurd (fun command member => by cases member) unsettled
  | cons command later induction =>
      by_cases held : (definition.bindTo (.onDisk file)).Writes command →
          file.ledger.Holds ((definition.bindTo (.onDisk file)).obey command)
      · have notes := (serves.answer_held definition command held).2
        exact Leaves.after_held serves definition command later held
          (induction (serves.notes notes))
      · obtain ⟨writes, fresh⟩ := Classical.not_imp.mp held
        have served := (serves.answer_fresh definition command _ rfl writes fresh).2.2.1
        exact Leaves.after_fresh serves definition distinct command later _ rfl writes fresh
          (induction served)

theorem shown_alone (serves : workspace.Serves path file) (definition : FormDefinition)
    (distinct : definition.names.Nodup) (name : String) (commands : List (String × Operation)) :
    shownOn name commands (definition.answerEach path workspace commands).1 =
      (definition.answerEach path workspace (commandsOn name commands)).1 := by
  rw [(serves.leaves definition distinct commands).shown,
    (serves.leaves definition distinct (commandsOn name commands)).shown]
  exact Form.replies_on name commands rfl rfl

/-- Runs of commands that have the same commands on each name, in the same order, leave the same
bytes and show the same for each name. -/
theorem order_free (serves : workspace.Serves path file) (definition : FormDefinition)
    (distinct : definition.names.Nodup) (commands others : List (String × Operation))
    (same : ∀ name, commandsOn name commands = commandsOn name others) :
    (definition.answerEach path workspace commands).2.disk.bytesAt (workspace.disk.placeOf path) =
        (definition.answerEach path workspace others).2.disk.bytesAt
          (workspace.disk.placeOf path) ∧
      ∀ name, shownOn name commands (definition.answerEach path workspace commands).1 =
        shownOn name others (definition.answerEach path workspace others).1 := by
  have one := serves.leaves definition distinct commands
  have other := serves.leaves definition distinct others
  constructor
  -- Both runs write or neither does, since they have the same commands.
  · by_cases settled : definition.Settled file commands
    · have settledToo : definition.Settled file others := fun command member =>
        settled command ((mem_of_commands_on same command).mpr member)
      exact Eq.trans (one.spared settled) (other.spared settledToo).symm
    · have unsettled : ¬definition.Settled file others := fun settledToo =>
        settled fun command member => settledToo command ((mem_of_commands_on same command).mp member)
      have form := Form.obey_all_order
        (Form.bind_fills definition (AnswerSource.answer? (.onDisk file))) distinct same
      have first := Disk.find_file_bytes (one.written settled)
      have second := Disk.find_file_bytes (other.written unsettled)
      rw [one.larger.placeOf path] at first
      rw [other.larger.placeOf path] at second
      rw [first, second]
      exact congrArg (fun form : Form =>
        some (file.setAnswers form.answers).ledger.text.toUTF8) form
  · intro name
    rw [serves.shown_alone definition distinct name commands,
      serves.shown_alone definition distinct name others, same]

end Workspace.Serves

/-- A list takes its elements in turns, now from one list and now from another. -/
inductive Interleaves {Element : Type} : List Element → List Element → List Element → Prop
  | nil : Interleaves [] [] []
  | left {element : Element} {first second merged : List Element}
      (rest : Interleaves first second merged) :
      Interleaves (element :: first) second (element :: merged)
  | right {element : Element} {first second merged : List Element}
      (rest : Interleaves first second merged) :
      Interleaves first (element :: second) (element :: merged)

namespace Interleaves

variable {Element : Type} {first second merged : List Element}

theorem symm (interleaves : Interleaves first second merged) :
    Interleaves second first merged := by
  induction interleaves with
  | nil => exact .nil
  | left rest induction => exact .right induction
  | right rest induction => exact .left induction

theorem filter_first (interleaves : Interleaves first second merged) (picks : Element → Bool)
    (apart : ∀ element ∈ second, picks element = false) :
    merged.filter picks = first.filter picks := by
  induction interleaves with
  | nil => rfl
  | left rest induction => rw [List.filter_cons, List.filter_cons, induction apart]
  | right rest induction =>
      rw [List.filter_cons, apart _ (by simp), if_neg Bool.false_ne_true]
      exact induction fun element member => apart element (List.mem_cons_of_mem _ member)

end Interleaves

theorem commands_on_interleaved {one other : String} (different : one ≠ other)
    {ones others : List Operation} {merged remerged : List (String × Operation)}
    (first : Interleaves (ones.map fun operation => (one, operation))
      (others.map fun operation => (other, operation)) merged)
    (second : Interleaves (ones.map fun operation => (one, operation))
      (others.map fun operation => (other, operation)) remerged) (name : String) :
    commandsOn name merged = commandsOn name remerged := by
  have apart (same : String) (isOther : same ≠ name) (operations : List Operation) :
      ∀ command ∈ operations.map fun operation => (same, operation),
        (command.1 == name) = false := by
    intro command member
    obtain ⟨operation, -, rfl⟩ := List.mem_map.mp member
    simpa using isOther
  by_cases here : one = name
  · have elsewhere := apart other (fun same => different (here.trans same.symm)) others
    exact (first.filter_first _ elsewhere).trans (second.filter_first _ elsewhere).symm
  · have elsewhere := apart one here ones
    exact (first.symm.filter_first _ elsewhere).trans
      (second.symm.filter_first _ elsewhere).symm

/-- Commands on two different names, each list in its order: however the two lists take turns, the
answers file has the same bytes in the end, and each list is shown the same texts and failures. -/
theorem interleavings_agree (definition : FormDefinition) (path : Path) (workspace : Workspace)
    (file : AnswerFile) (checked : definition.check = .ok ())
    (opened : AnswerFile.load workspace.disk path = .ok file)
    (numbers : file.ledger.NumbersReread) (accepts : workspace.disk.Accepts path)
    (apart : workspace.Apart path) (one other : String) (different : one ≠ other)
    (ones others : List Operation) (merged remerged : List (String × Operation))
    (first : Interleaves (ones.map fun operation => (one, operation))
      (others.map fun operation => (other, operation)) merged)
    (second : Interleaves (ones.map fun operation => (one, operation))
      (others.map fun operation => (other, operation)) remerged) :
    let run := definition.answerEach path workspace merged
    let rerun := definition.answerEach path workspace remerged
    run.2.disk.bytesAt (workspace.disk.placeOf path) =
        rerun.2.disk.bytesAt (workspace.disk.placeOf path) ∧
      shownOn one merged run.1 = shownOn one remerged rerun.1 ∧
      shownOn other merged run.1 = shownOn other remerged rerun.1 := by
  have distinct := (definition.check_names checked).1
  have serves : workspace.Serves path file := ⟨apart, accepts, opened, numbers⟩
  have same := commands_on_interleaved different first second
  obtain ⟨bytes, shown⟩ := serves.order_free definition distinct merged remerged same
  exact ⟨bytes, shown one, shown other⟩

def smallOrder : List (String × Operation) :=
  [("a", .increase), ("b", .look), ("a", .look), ("b", .clear)]

def smallReorder : List (String × Operation) :=
  [("b", .look), ("b", .clear), ("a", .increase), ("a", .look)]

theorem interleavings_agree_small :
    let run := smallDefinition.answerEach smallPath ⟨smallDisk, none⟩ smallOrder
    let rerun := smallDefinition.answerEach smallPath ⟨smallDisk, none⟩ smallReorder
    run.2.disk.bytesAt ["tally.json"] = rerun.2.disk.bytesAt ["tally.json"] ∧
      shownOn "a" smallOrder run.1 = shownOn "a" smallReorder rerun.1 ∧
      shownOn "b" smallOrder run.1 = shownOn "b" smallReorder rerun.1 := by
  have first : Interleaves ([Operation.increase, .look].map fun operation => ("a", operation))
      ([Operation.look, .clear].map fun operation => ("b", operation)) smallOrder :=
    .left (.right (.left (.right .nil)))
  have second : Interleaves ([Operation.increase, .look].map fun operation => ("a", operation))
      ([Operation.look, .clear].map fun operation => ("b", operation)) smallReorder :=
    .right (.right (.left (.left .nil)))
  exact interleavings_agree smallDefinition smallPath ⟨smallDisk, none⟩ smallFile small_checked
    small_opened small_numbers small_accepts (Workspace.apart_unkept _ _) "a" "b" (by decide)
    [.increase, .look] [.look, .clear] smallOrder smallReorder first second

end CounterForms
