import CounterForms.Proofs.Answers.Mirroring
import CounterForms.Proofs.CommandLine.Elsewhere
import CounterForms.Proofs.CommandLine.Validating

/-!
Runs that answer one question, and the files that they leave. A run that looks, or that fails before
it writes, leaves every file but the journal alone. A run that changes an answer and goes well is
read back: as long as the configuration and the form are found as before, the next run shows the
text that this one showed.
-/

namespace CounterForms

open Storage

namespace Loading

variable {loading : Loading}

/-- Whatever else happens to a disk that extends, a file is mirrored as long as its bytes stay. -/
theorem Mirrors.later {source : AnswerSource} {workspace after : Workspace}
    (mirrors : loading.Mirrors source workspace) (apart : after.Apart loading.path)
    (extended : workspace.disk.Extends after.disk)
    (bytes : workspace.disk.SameFile after.disk loading.path) : loading.Mirrors source after where
  apart := apart
  larger := mirrors.larger.trans extended
  file := by
    obtain ⟨file, isFile, located, beside, clean⟩ := mirrors.file
    exact ⟨file, isFile, located, beside, fun isClean =>
      (clean isClean).quiet mirrors.larger extended bytes⟩

theorem Mirrors.keep_form {source : AnswerSource} {workspace : Workspace}
    (mirrors : loading.Mirrors source workspace) (form : Form)
    (fills : form.Fills loading.definition) :
    loading.Mirrors (source.keepForm form workspace).source
        (source.keepForm form workspace).workspace ∧
      ((source.keepForm form workspace).result = .ok () →
        (source.keepForm form workspace).source.Keeps form) := by
  unfold AnswerSource.keepForm
  dsimp only
  split
  · exact mirrors.keep form fills
  next clean =>
    obtain ⟨file, rfl, located, beside, -⟩ := mirrors.file
    rw [AnswerSource.set_answers_on_disk] at clean ⊢
    have isClean : (file.setAnswers form.answers).dirty = false := Bool.eq_false_iff.mpr clean
    obtain ⟨-, holds, -⟩ := loading.filled file form fills located beside
    refine ⟨?_, fun _ => ⟨_, rfl, isClean, holds⟩⟩
    rw [file.set_answers_clean form.answers isClean]
    exact mirrors

/-- After a command that changed an answer, whoever opens the file and looks is shown the text that
the command showed. -/
theorem shown_again (loading : Loading) (workspace : Workspace)
    (same : loading.disk = workspace.disk) (apart : workspace.Apart loading.path)
    (others : loading.file.ledger.RereadsBeside loading.definition.names) (name : String)
    (operation : Operation) (changes : operation ≠ .look) (text : String)
    (shown : (loading.form.answer (.onDisk loading.file) workspace name operation).shown =
      .ok text) :
    workspace.disk.Extends
        (loading.form.answer (.onDisk loading.file) workspace name operation).workspace.disk ∧
      ∀ later : Workspace, later.Apart loading.path →
        (loading.form.answer (.onDisk loading.file) workspace name
          operation).workspace.disk.Extends later.disk →
        (loading.form.answer (.onDisk loading.file) workspace name
          operation).workspace.disk.SameFile later.disk loading.path →
        ∃ file, AnswerFile.load later.disk loading.path = .ok file ∧
          (loading.definition.bindTo (.onDisk file)).reply (name, .look) = .ok text := by
  have answers := loading.form.answer_answers (.onDisk loading.file) workspace name operation
  generalize loading.form.answer (.onDisk loading.file) workspace name operation = answered
    at answers shown ⊢
  cases answers with
  | refrained refrains events =>
      exact absurd (loading.form.writes_of_reply name operation text changes shown) refrains
  | wrote writes reply replied events =>
      have fills : (loading.form.obey (name, operation)).Fills loading.definition :=
        (Form.bind_fills loading.definition _).obey (name, operation)
      have started := (mirrors_start workspace same apart).notes
        (workspace.note_all_notes events loading.path apart)
      obtain ⟨mirrors, keeps⟩ := started.keep_form _ fills
      generalize (AnswerSource.onDisk loading.file).keepForm (loading.form.obey (name, operation))
        (workspace.noteAll events) = kept at shown mirrors keeps ⊢
      obtain ⟨result, source, last⟩ := kept
      cases result with
      | error failure => cases shown
      | ok _ =>
          cases shown
          refine ⟨same ▸ mirrors.larger, ?_⟩
          intro later laterApart extended bytes
          have still := mirrors.later laterApart extended bytes
          obtain ⟨file, opened, bound⟩ := (still.reopens fills (keeps rfl)).mpr (.inr others)
          refine ⟨file, opened, ?_⟩
          rw [bound, loading.form.look_after (name, operation) writes, replied]

end Loading

namespace CommandLine

theorem Arguments.Reads.read_back {arguments : Arguments} {environment : Environment}
    {disk : Disk} {plan : Plan} {definition : FormDefinition} {file : AnswerFile}
    (reads : arguments.Reads environment (openWorkspace environment disk).2.disk plan definition
      file)
    (spares : plan.SparesJournal environment disk)
    (others : file.ledger.RereadsBeside definition.names) (question : String)
    (operation : Operation) (changes : operation ≠ .look) (outcome : Outcome)
    (ran : arguments.answer environment disk question operation = outcome)
    (done : outcome.ending = .done)
    (finds : arguments.FindsAgain environment plan (openWorkspace environment disk).2.disk
      (openWorkspace environment outcome.disk).2.disk) :
    (arguments.answer environment outcome.disk question .look).ending = .done ∧
      (arguments.answer environment outcome.disk question .look).printed = outcome.printed := by
  have started := (open_workspace_beside environment disk).1.toExtends
  obtain ⟨after, notes, first⟩ := reads.answer spares question operation
  have apart := (spares.apart plan.answers (by simp)).extend notes.journal notes.alike.extends
  let loading : Loading :=
    { definition := definition, path := plan.answers, disk := after.disk, file := file
      checked := FormDefinition.load_checked _ _ definition reads.defined
      opened := (AnswerFile.load_congr _ _ _ notes.find).trans reads.opened }
  have again := loading.shown_again after rfl apart others question operation changes
  change arguments.answer environment disk question operation = .ofAnswered _
    (loading.form.answer (.onDisk loading.file) after question operation) at first
  generalize loading.form.answer (.onDisk loading.file) after question operation = answered
    at first again
  obtain ⟨shown, source, last⟩ := answered
  cases ran.symm.trans first
  cases shown with
  | error failure => cases done
  | ok text =>
      obtain ⟨larger, reopens⟩ := again text rfl
      dsimp only [Outcome.ofAnswered] at larger reopens finds ⊢
      -- The next run opens its journal on the disk that this one left.
      have extended := started.trans (notes.alike.extends.trans larger)
      have respares := spares.later extended
      have restarted := (open_workspace_beside environment last.disk).1
      have bytes : last.disk.SameFile (openWorkspace environment last.disk).2.disk plan.answers :=
        restarted.bytes _ (respares plan.answers (by simp))
      obtain ⟨reopened, opened, replied⟩ :=
        reopens _ (respares.apart plan.answers (by simp)) restarted.toExtends bytes
      obtain ⟨relooked, -, second⟩ := (reads.again finds opened).answer respares question .look
      rw [second, Outcome.ofAnswered, Form.answer_look, replied]
      exact ⟨rfl, rfl⟩

/-- What a run that answers a question leaves. If it looks, or fails before it writes, no file but
the journal gets other bytes or is made. If it changes an answer and goes well, the next run shows
the same text and again leaves all files but the journal alone; this takes that neither form nor
answers are the journal, that the form and the configuration are files beside the answers and the
journal, or are found as they were all the same, and that every value under a name that the form
does not declare can be read again after it was written. -/
theorem answering_leaves (arguments : Arguments) (environment : Environment) (disk : Disk)
    (question : String) (operation : Operation) (outcome : Outcome)
    (ran : arguments.answer environment disk question operation = outcome) :
    (operation = .look ∨ outcome.FailsUnwritten →
      ∀ place, some place ≠ Journal.placeIn? environment disk →
        outcome.disk.bytesAt place = disk.bytesAt place) ∧
    ∀ plan definition file,
      arguments.Reads environment (openWorkspace environment disk).2.disk plan definition file →
      plan.SparesJournal environment disk →
      file.ledger.RereadsBeside definition.names →
      arguments.KeepsInputs environment plan disk outcome.disk →
      operation ≠ .look → outcome.ending = .done →
      (arguments.answer environment outcome.disk question .look).ending = .done ∧
        (arguments.answer environment outcome.disk question .look).printed = outcome.printed ∧
        ∀ place, some place ≠ Journal.placeIn? environment outcome.disk →
          (arguments.answer environment outcome.disk question .look).disk.bytesAt place =
            outcome.disk.bytesAt place := by
  subst ran
  constructor
  · intro spared place elsewhere
    exact (answer_beside arguments environment disk question operation spared).bytes place elsewhere
  · intro plan definition file reads spares others keeps changes done
    have finds := keeps.finds_again reads.planned
    obtain ⟨goes, shows⟩ := reads.read_back spares others question operation changes _ rfl done
      finds
    refine ⟨goes, shows, ?_⟩
    exact (answer_beside arguments environment _ question .look (.inl rfl)).bytes

def formText : String := "questions = [[\"a\", \"A\"]]\ntitle = \"Tally\"\n"

/-- A disk with a form, a configuration that says nothing, and an answers file with a number that is
misread after it was written. -/
def formDisk : Disk where
  entries := [(["form.toml"], .file formText.toUTF8), (["plain.toml"], .file "".toUTF8),
    (["far.json"], .file "\x7b\"x\": 1801439850948199e0\x7d".toUTF8)]
  workingDirectory := []

def formDefinition : FormDefinition where
  title := "Tally"
  questions := [{ name := "a", label := "A" }]

theorem form_text_read : FormDefinition.ofText formText = .ok formDefinition := by
  -- The keys of the document are in their order, so that nothing is left to sort.
  have steps : (Toml.readDocument formText).map (fun entries => (entries.map Prod.fst,
      (entries.foldlM (Toml.takeEntry FormDefinition.definitionFields) {} :
        Toml.Decoded FormDefinition.DraftDefinition).toOption.map
          fun draft => (draft.title, draft.questions))) =
      some (["questions", "title"], some (some "Tally", formDefinition.questions)) := by
    decide +kernel
  cases document : Toml.readDocument formText with
  | none =>
      rw [document] at steps
      cases steps
  | some entries =>
      rw [document] at steps
      simp only [Option.map_some, Option.some.injEq, Prod.mk.injEq] at steps
      obtain ⟨keys, drafted⟩ := steps
      have ordered : (entries.map Prod.fst).Pairwise fun one other =>
          (!decide (other < one)) = true := by
        rw [keys]
        decide
      have sorted : Toml.inKeyOrder entries = entries :=
        List.mergeSort_of_pairwise (List.pairwise_map.mp ordered)
      obtain ⟨⟨title, questions⟩, folded, fields⟩ := ok_of_map _ _ _ drafted
      cases fields
      simp only [FormDefinition.ofText, Toml.decodeDocument, document,
        FormDefinition.decodeDefinition, Toml.decodeRecord, sorted, folded, bind, Except.bind,
        FormDefinition.required]
      rfl

def answeringIn (answers : Path) : Arguments where
  places := { config := some ⟨"plain.toml"⟩, form := some ⟨"form.toml"⟩, answers := some answers }

def FormPlanned (answers : Path) (environment : Environment) (disk : Disk) : Prop :=
  ((answeringIn answers).plan environment (openWorkspace environment disk).2.disk).toOption.map
      (fun plan => (plan.form, plan.answers)) = some (⟨"form.toml"⟩, answers) ∧
    (openWorkspace environment disk).2.disk.find ⟨"form.toml"⟩ = .ok (.file formText.toUTF8) ∧
    ((openWorkspace environment disk).2.note
      (.resolvedPaths ⟨"form.toml"⟩ answers)).disk.find ⟨"form.toml"⟩ = .ok (.file formText.toUTF8)

instance (answers : Path) (environment : Environment) (disk : Disk) :
    Decidable (FormPlanned answers environment disk) :=
  inferInstanceAs (Decidable (_ ∧ _))

theorem FormPlanned.answer {answers : Path} {environment : Environment} {disk : Disk}
    (planned : FormPlanned answers environment disk) (question : String) (operation : Operation) :
    (answeringIn answers).answer environment disk question operation =
      answerDefined formDefinition ⟨"form.toml"⟩ answers (openWorkspace environment disk)
        question operation := by
  obtain ⟨plans, -, found⟩ := planned
  obtain ⟨⟨config, form, place⟩, isPlan, paths⟩ := ok_of_map _ _ _ plans
  cases paths
  apply Arguments.answer_defined _ _ _ _ _ _ _ isPlan
  exact FormDefinition.load_text _ _ formText formDefinition found form_text_read (by decide)

theorem FormPlanned.reads {answers : Path} {environment : Environment} {disk : Disk}
    (planned : FormPlanned answers environment disk) (file : AnswerFile)
    (opened : AnswerFile.load (openWorkspace environment disk).2.disk answers = .ok file) :
    ∃ config, (answeringIn answers).Reads environment (openWorkspace environment disk).2.disk
      ⟨config, ⟨"form.toml"⟩, answers⟩ formDefinition file := by
  obtain ⟨plans, found, -⟩ := planned
  obtain ⟨⟨config, form, place⟩, isPlan, paths⟩ := ok_of_map _ _ _ plans
  cases paths
  refine ⟨config, isPlan, ?_, opened⟩
  exact FormDefinition.load_text _ _ formText formDefinition found form_text_read (by decide)

def increased (answers : Path) : Outcome :=
  answerDefined formDefinition ⟨"form.toml"⟩ answers (openWorkspace {} formDisk) "a" .increase

theorem form_planned :
    ∀ answers ∈ [Path.mk "tally.json", ⟨"plain.toml"⟩, ⟨"far.json"⟩],
      FormPlanned answers {} formDisk := by
  decide +kernel

theorem Ending.done_of_code (ending : Ending) (zero : ending.code = 0) : ending = .done := by
  cases ending with
  | done => rfl
  | failed failure => cases zero
  | misused fault => cases zero

/-- The form and the configuration are files beside the answers. -/
theorem form_keeps_inputs (config : Config) (last : Disk) :
    (answeringIn ⟨"tally.json"⟩).KeepsInputs {} ⟨config, ⟨"form.toml"⟩, ⟨"tally.json"⟩⟩ formDisk
      last := by
  have beside : ∀ path ∈ Path.mk "form.toml" :: (answeringIn ⟨"tally.json"⟩).configPaths {},
      formDisk.find path ∈ [.ok (.file formText.toUTF8), .ok (.file "".toUTF8)] ∧
        formDisk.placeOf path ≠ formDisk.placeOf ⟨"tally.json"⟩ := by
    decide +kernel
  intro path listed
  obtain ⟨found, apart⟩ := beside path listed
  have there : ∃ bytes, formDisk.find path = .ok (.file bytes) := by
    simp only [List.mem_cons, List.not_mem_nil, or_false] at found
    rcases found with found | found
    · exact ⟨_, found⟩
    · exact ⟨_, found⟩
  exact .inl ⟨there, apart, nofun⟩

theorem answering_leaves_small :
    (answeringIn ⟨"tally.json"⟩).answer {} formDisk "a" .increase = increased ⟨"tally.json"⟩ ∧
      (increased ⟨"tally.json"⟩).printed = "0\n" ∧
      ((answeringIn ⟨"tally.json"⟩).answer {} (increased ⟨"tally.json"⟩).disk "a"
        .look).printed = "0\n" ∧
      ((answeringIn ⟨"tally.json"⟩).answer {} (increased ⟨"tally.json"⟩).disk "a"
        .look).disk.bytesAt ["tally.json"] =
          (increased ⟨"tally.json"⟩).disk.bytesAt ["tally.json"] := by
  have planned := form_planned ⟨"tally.json"⟩ (by simp)
  have evaluated : (AnswerFile.load formDisk ⟨"tally.json"⟩).toOption.map AnswerFile.ledger =
        some Ledger.empty ∧
      (increased ⟨"tally.json"⟩).printed = "0\n" ∧
      (increased ⟨"tally.json"⟩).ending.code = 0 := by
    decide +kernel
  obtain ⟨ledger, printed, code⟩ := evaluated
  obtain ⟨config, reads⟩ := planned.reads ⟨⟨"tally.json"⟩, Ledger.empty, false⟩
    (AnswerFile.load_of_ledger _ _ _ ledger)
  have spares : Plan.SparesJournal ⟨config, ⟨"form.toml"⟩, ⟨"tally.json"⟩⟩ {} formDisk := by
    intro path listed same
    cases same
  have others : AnswerLedger.RereadsBeside Ledger.empty formDefinition.names := by
    intro entry member
    cases member
  obtain ⟨-, reread⟩ := answering_leaves (answeringIn ⟨"tally.json"⟩) {} formDisk "a" .increase
    (increased ⟨"tally.json"⟩) (planned.answer "a" .increase)
  have keeps := form_keeps_inputs config (increased ⟨"tally.json"⟩).disk
  obtain ⟨-, shown, bytes⟩ := reread _ formDefinition _ reads spares others keeps (by decide)
    (Ending.done_of_code _ code)
  exact ⟨planned.answer "a" .increase, printed, shown.trans printed, bytes ["tally.json"] nofun⟩

/-- Answers that are the journal are made by a run that only looks. Answers that are the
configuration, or that hold a number which is misread after it was written, are not read back after
a run that went well. -/
theorem answering_not_read_back :
    (((answeringIn ⟨"/home/.local/share/tally/tally.log"⟩).answer homeEnvironment formDisk "a"
        .look).ending.code = 0 ∧
      formDisk.bytesAt ["home", ".local", "share", "tally", "tally.log"] = none ∧
      ((answeringIn ⟨"/home/.local/share/tally/tally.log"⟩).answer homeEnvironment formDisk "a"
        .look).disk.bytesAt ["home", ".local", "share", "tally", "tally.log"] = some .empty) ∧
    ∀ answers ∈ [Path.mk "plain.toml", ⟨"far.json"⟩],
      ((answeringIn answers).answer {} formDisk "a" .increase).ending.code = 0 ∧
      ((answeringIn answers).answer {} ((answeringIn answers).answer {} formDisk "a"
        .increase).disk "a" .look).ending.code = 1 := by
  have planned : FormPlanned ⟨"/home/.local/share/tally/tally.log"⟩ homeEnvironment formDisk ∧
      FormPlanned ⟨"far.json"⟩ {} (increased ⟨"far.json"⟩).disk := by
    decide +kernel
  have increases (answers : Path) (listed : answers ∈ [Path.mk "plain.toml", ⟨"far.json"⟩]) :
      (answeringIn answers).answer {} formDisk "a" .increase = increased answers :=
    (form_planned answers (List.mem_cons_of_mem _ listed)).answer "a" .increase
  have plain := increases ⟨"plain.toml"⟩ (by simp)
  have far := increases ⟨"far.json"⟩ (by simp)
  have evaluated :
      (answerDefined formDefinition ⟨"form.toml"⟩ ⟨"/home/.local/share/tally/tally.log"⟩
        (openWorkspace homeEnvironment formDisk) "a" .look).ending.code = 0 ∧
      (answerDefined formDefinition ⟨"form.toml"⟩ ⟨"/home/.local/share/tally/tally.log"⟩
        (openWorkspace homeEnvironment formDisk) "a" .look).disk.bytesAt
          ["home", ".local", "share", "tally", "tally.log"] = some .empty ∧
      (increased ⟨"plain.toml"⟩).ending.code = 0 ∧
      ((answeringIn ⟨"plain.toml"⟩).answer {} (increased ⟨"plain.toml"⟩).disk "a"
        .look).ending.code = 1 ∧
      (increased ⟨"far.json"⟩).ending.code = 0 ∧
      (answerDefined formDefinition ⟨"form.toml"⟩ ⟨"far.json"⟩
        (openWorkspace {} (increased ⟨"far.json"⟩).disk) "a" .look).ending.code = 1 := by
    decide +kernel
  obtain ⟨looked, made, plainDone, plainLost, farDone, farLost⟩ := evaluated
  rw [planned.1.answer "a" .look]
  refine ⟨⟨looked, by decide, made⟩, ?_⟩
  intro answers listed
  rw [increases answers listed]
  simp only [List.mem_cons, List.not_mem_nil, or_false] at listed
  rcases listed with rfl | rfl
  · exact ⟨plainDone, plainLost⟩
  · rw [planned.2.answer "a" .look]
    exact ⟨farDone, farLost⟩

end CommandLine

end CounterForms
