import CounterForms.Proofs.CommandLine.Answer

/-!
What a command replies, and what it makes of a form, told without any file. A command that may write
makes the form that it writes; any other command leaves the form as it is. What is under a name in a
form depends on the commands on that name alone, and on their order.
-/

namespace CounterForms

namespace Question

def obey (question : Question) (operation : Operation) : Question :=
  (question.apply operation).toOption.getD question

def reply (question : Question) (operation : Operation) : Attempted String :=
  (orFail .readOnly (question.apply operation)).map text

def Takes (question : Question) (operation : Operation) : Prop :=
  question.readOnly = false ∧ operation ≠ .look

instance (question : Question) (operation : Operation) : Decidable (question.Takes operation) :=
  inferInstanceAs (Decidable (_ ∧ _))

theorem apply_taken (question : Question) (operation : Operation)
    (takes : question.Takes operation) :
    question.apply operation = .ok (operation.perform question) := by
  rw [apply, takes.1]
  rfl

theorem obey_taken (question : Question) (operation : Operation)
    (takes : question.Takes operation) : question.obey operation = operation.perform question := by
  rw [obey, question.apply_taken operation takes]
  rfl

theorem reply_taken (question : Question) (operation : Operation)
    (takes : question.Takes operation) :
    question.reply operation = .ok (operation.perform question).text := by
  rw [reply, question.apply_taken operation takes]
  rfl

@[simp] theorem apply_look (question : Question) : question.apply .look = .ok question := by
  simp [apply, Operation.perform, pure, Except.pure]

@[simp] theorem obey_look (question : Question) : question.obey .look = question := by
  rw [obey, apply_look]
  rfl

@[simp] theorem reply_look (question : Question) : question.reply .look = .ok question.text := by
  rw [reply, apply_look]
  rfl

theorem apply_untaken (question : Question) (operation : Operation)
    (untaken : ¬question.Takes operation) (changes : operation ≠ .look) :
    question.apply operation = .error ⟨question.name⟩ := by
  have readOnly : question.readOnly = true := by
    cases held : question.readOnly with
    | true => rfl
    | false => exact absurd ⟨held, changes⟩ untaken
  simp [apply, readOnly, changes, throw, throwThe, MonadExceptOf.throw]

theorem obey_untaken (question : Question) (operation : Operation)
    (untaken : ¬question.Takes operation) : question.obey operation = question := by
  by_cases look : operation = .look
  · rw [look, obey_look]
  · rw [obey, question.apply_untaken operation untaken look]
    rfl

theorem obey_keeps (operation : Operation) : Keeps fun question => question.obey operation := by
  intro question
  dsimp only
  by_cases takes : question.Takes operation
  · rw [question.obey_taken operation takes]
    exact operation_keeps operation question
  · rw [question.obey_untaken operation takes]

theorem look_after (question : Question) (operation : Operation)
    (takes : question.Takes operation) :
    (question.obey operation).reply .look = question.reply operation := by
  rw [reply_look, question.obey_taken operation takes, question.reply_taken operation takes]

end Question

namespace Form

/-- The question that a command on a name reaches. -/
def asked? (form : Form) (name : String) : Option Question :=
  (form.indexOf? name).bind form.question?

def obey (form : Form) (command : String × Operation) : Form :=
  match form.indexOf? command.1 with
  | some index => form.modify index fun question => question.obey command.2
  | none => form

def reply (form : Form) (command : String × Operation) : Attempted String :=
  match form.asked? command.1 with
  | some question => question.reply command.2
  | none => failBy (.unknownQuestion command.1 form.title)

/-- A command that its question takes. Only such a command may write. -/
def Writes (form : Form) (command : String × Operation) : Prop :=
  ∃ question ∈ form.asked? command.1, question.Takes command.2

def obeyAll (form : Form) (commands : List (String × Operation)) : Form := commands.foldl obey form

/-- What commands are answered with, one after the other. -/
def replies : Form → List (String × Operation) → List (Attempted String)
  | _, [] => []
  | form, command :: later => form.reply command :: (form.obey command).replies later

theorem asked_at (form : Form) (name : String) (index : Nat) (question : Question)
    (found : form.indexOf? name = some index) (there : form.question? index = some question) :
    form.asked? name = some question := by
  rw [asked?, found, Option.bind_some, there]

theorem index_of_names (form : Form) (name : String) :
    form.indexOf? name = form.names.findIdx? (· == name) := by
  rw [names, List.findIdx?_map]
  rfl

theorem reply_asked (form : Form) (name : String) (operation : Operation) (question : Question)
    (asked : form.asked? name = some question) :
    form.reply (name, operation) = question.reply operation := by
  simp only [reply, asked]

theorem reply_unasked (form : Form) (name : String) (operation : Operation)
    (unasked : form.asked? name = none) :
    form.reply (name, operation) = failBy (.unknownQuestion name form.title) := by
  simp only [reply, unasked]

theorem writes_asked (form : Form) (name : String) (operation : Operation) (question : Question)
    (asked : form.asked? name = some question) :
    form.Writes (name, operation) ↔ question.Takes operation := by
  simp [Writes, asked]

/-- A change that is not refused is one that may write. -/
theorem writes_of_reply (form : Form) (name : String) (operation : Operation) (text : String)
    (changes : operation ≠ .look) (replied : form.reply (name, operation) = .ok text) :
    form.Writes (name, operation) := by
  cases asked : form.asked? name with
  | none =>
      rw [form.reply_unasked name operation asked] at replied
      cases replied
  | some question =>
      rw [form.writes_asked name operation question asked]
      by_contra untaken
      rw [form.reply_asked name operation question asked, Question.reply,
        question.apply_untaken operation untaken changes] at replied
      cases replied

theorem index_of_modify (form : Form) (index : Nat) (change : Question → Question)
    (keeps : Question.Keeps change) (name : String) :
    (form.modify index change).indexOf? name = form.indexOf? name := by
  have fills : form.Fills ⟨form.title, form.questions.map Question.toDeclaration⟩ := ⟨rfl, rfl⟩
  have names := (fills.modify index change keeps).names.trans fills.names.symm
  rw [index_of_names, index_of_names, names]

theorem Fills.obey {form : Form} {definition : FormDefinition} (fills : form.Fills definition)
    (command : String × Operation) : (form.obey command).Fills definition := by
  unfold Form.obey
  split
  · exact fills.modify _ _ (Question.obey_keeps command.2)
  · exact fills

theorem Fills.obey_all {form : Form} {definition : FormDefinition} (fills : form.Fills definition)
    (commands : List (String × Operation)) : (form.obeyAll commands).Fills definition := by
  induction commands generalizing form with
  | nil => exact fills
  | cons command later induction => exact induction (fills.obey command)

/-- A command reaches the question of its name and no other. -/
theorem asked_obey (form : Form) (command : String × Operation) (name : String) :
    (form.obey command).asked? name =
      if name = command.1 then (form.asked? name).map fun question => question.obey command.2
      else form.asked? name := by
  unfold obey
  split
  next index found =>
    unfold asked?
    rw [form.index_of_modify index _ (Question.obey_keeps command.2)]
    split
    next same =>
      rw [same, found, Option.bind_some, Option.bind_some, question_modify, if_pos rfl]
    next other =>
      cases elsewhere : form.indexOf? name with
      | none => rfl
      | some place =>
          -- Two names that lead to one place are the name of the question there.
          have apart : index ≠ place := by
            intro same
            obtain ⟨one, there, named⟩ := form.index_of_some command.1 index found
            obtain ⟨two, here, called⟩ := form.index_of_some name place elsewhere
            rw [← same, there] at here
            cases Option.some.inj here
            exact other (called.symm.trans named)
          rw [Option.bind_some, Option.bind_some, question_modify, if_neg apart]
  next missing =>
    split
    next same =>
      rw [same, asked?, missing]
      rfl
    next => rfl

theorem asked_obey_other (form : Form) (command : String × Operation) (name : String)
    (other : name ≠ command.1) : (form.obey command).asked? name = form.asked? name := by
  rw [asked_obey, if_neg other]

theorem obey_title (form : Form) (command : String × Operation) :
    (form.obey command).title = form.title := by
  unfold obey
  split <;> rfl

theorem obey_refrained (form : Form) (command : String × Operation)
    (refrains : ¬form.Writes command) : form.obey command = form := by
  unfold obey
  split
  next index found =>
    apply form.modify_unchanged index
    intro question there
    apply question.obey_untaken
    exact fun takes => refrains ⟨question, form.asked_at command.1 index question found there, takes⟩
  next => rfl

/-- A look at a question after a command that it took shows what the command was answered with. -/
theorem look_after (form : Form) (command : String × Operation) (writes : form.Writes command) :
    (form.obey command).reply (command.1, .look) = form.reply command := by
  obtain ⟨question, asked, takes⟩ := writes
  simp only [Option.mem_def] at asked
  have after : (form.obey command).asked? command.1 = some (question.obey command.2) := by
    rw [asked_obey, if_pos rfl, asked, Option.map_some]
  simp only [reply, after, asked, question.look_after command.2 takes]

/-- What becomes of a command: it notes some events and gives its reply, or it writes the form that
it makes as well. -/
inductive Answers (form : Form) (source : AnswerSource) (workspace : Workspace)
    (command : String × Operation) : Answered → Prop
  | refrained (refrains : ¬form.Writes command) (events : List LogEvent) :
      Answers form source workspace command
        ⟨form.reply command, source, workspace.noteAll events⟩
  | wrote (writes : form.Writes command) (text : String) (replied : form.reply command = .ok text)
      (events : List LogEvent) :
      Answers form source workspace command
        ⟨(source.keepForm (form.obey command) (workspace.noteAll events)).result.map fun _ => text,
          (source.keepForm (form.obey command) (workspace.noteAll events)).source,
          (source.keepForm (form.obey command) (workspace.noteAll events)).workspace⟩

theorem perform_apply (form : Form) (index : Nat) (operation : Operation) (question : Question) :
    form.perform index operation question =
      (orFail .readOnly (question.apply operation)).map fun after =>
        (form.modify index fun _ => after, after) := by
  rw [perform]
  cases question.apply operation <;> rfl

theorem answer_answers (form : Form) (source : AnswerSource) (workspace : Workspace)
    (name : String) (operation : Operation) :
    form.Answers source workspace (name, operation)
      (form.answer source workspace name operation) := by
  unfold answer
  cases found : form.indexOf? name with
  | none =>
      have unasked : form.asked? name = none := by rw [asked?, found, Option.bind_none]
      rw [← form.reply_unasked name operation unasked]
      exact .refrained (by simp [Writes, unasked]) []
  | some index =>
      obtain ⟨question, there, -⟩ := form.index_of_some name index found
      have asked := form.asked_at name index question found there
      have replied := form.reply_asked name operation question asked
      have writes := form.writes_asked name operation question asked
      simp only [there, perform_apply]
      by_cases takes : question.Takes operation
      · have obeyed : form.obey (name, operation) =
            form.modify index fun _ => operation.perform question := by
          simp only [obey, found]
          exact form.modify_congr index question there _ _ (question.obey_taken operation takes)
        rw [question.apply_taken operation takes]
        simp only [orFail, Except.map, takes.2, if_false, ← obeyed]
        exact .wrote (writes.mpr takes) _ (replied.trans (question.reply_taken operation takes)) _
      · have refrains : ¬form.Writes (name, operation) := mt writes.mp takes
        by_cases look : operation = .look
        · subst look
          rw [question.apply_look]
          simp only [orFail, Except.map, if_true]
          rw [← question.reply_look, ← replied]
          exact .refrained refrains _
        · have refused := question.apply_untaken operation takes look
          rw [Question.reply, refused] at replied
          simp only [refused, orFail, failBy, Except.map] at replied ⊢
          rw [← replied]
          exact .refrained refrains []

theorem answer_look (form : Form) (source : AnswerSource) (workspace : Workspace) (name : String) :
    (form.answer source workspace name .look).shown = form.reply (name, .look) := by
  have answers := form.answer_answers source workspace name .look
  generalize form.answer source workspace name .look = answered at answers ⊢
  cases answers with
  | refrained refrains events => rfl
  | wrote writes text replied events =>
      obtain ⟨question, -, -, changes⟩ := writes
      exact absurd rfl changes

end Form

end CounterForms
