import CounterForms.Proofs.Answers.Merging

/-!
Which stored numbers answer a question. A number may be stored as a whole number or, if it was
written with a point, an exponent or as a negative zero, as a binary number; either way it equals
one whole number. A question takes its answer from a whole number in range that is stored as such,
and from nothing else.
-/

namespace CounterForms

namespace Binary64

/-- The numerator of the number over the denominator of its magnitude. -/
def numerator (number : Binary64) : Int :=
  if number.negative then -(number.ratio.1 : Int) else number.ratio.1

theorem numerator_of_whole (number : Binary64) (whole : number.isWhole = true) :
    ∃ value, number.numerator = value * number.ratio.2 := by
  have divides : number.ratio.1 % number.ratio.2 = 0 := by simpa [isWhole] using whole
  have product := Nat.div_mul_cancel (Nat.dvd_of_mod_eq_zero divides)
  have magnitude : (number.ratio.1 : Int) =
      ((number.ratio.1 / number.ratio.2 : Nat) : Int) * number.ratio.2 := by
    exact_mod_cast product.symm
  unfold numerator
  split
  · refine ⟨-((number.ratio.1 / number.ratio.2 : Nat) : Int), ?_⟩
    rw [Int.neg_mul, ← magnitude]
  · exact ⟨_, magnitude⟩

end Binary64

def Counter.InRange (value : Int) : Prop := 0 ≤ value ∧ value ≤ maxCount

instance (value : Int) : Decidable (Counter.InRange value) := inferInstanceAs (Decidable (_ ∧ _))

namespace StoredAnswer

def Equals : StoredAnswer → Int → Prop
  | absent, _ => False
  | integer stored, value => stored = value
  | floating number, value => number.numerator = value * number.ratio.2

instance (stored : StoredAnswer) (value : Int) : Decidable (stored.Equals value) := by
  cases stored <;> unfold Equals <;> infer_instance

theorem equals_of_storable (stored : StoredAnswer) (storable : stored.Storable) :
    stored = absent ∨ ∃ value, stored.Equals value := by
  cases stored with
  | absent => exact .inl rfl
  | integer value => exact .inr ⟨value, rfl⟩
  | floating number => exact .inr (number.numerator_of_whole storable)

theorem holds_signed_of_count (value : Int) (positive : 0 ≤ value)
    (bound : value.toNat ≤ maxCount) : Word.holdsSigned 63 value = true := by
  obtain ⟨count, rfl⟩ := Int.eq_ofNat_of_zero_le positive
  have room : maxCount < Word.count 63 := by decide
  have fits : count < Word.count 63 := Nat.lt_of_le_of_lt (by simpa using bound) room
  exact decide_eq_true fits

/-- A counter takes what is stored as a whole number in range, and nothing else. -/
theorem counter_answer (stored : Option StoredAnswer) (value : Int) :
    (Counter.ofAnswer (stored.bind answer?)).answer = some value ↔
      stored = some (integer value) ∧ Counter.InRange value := by
  rcases stored with _ | _ | held | number
  · simp [Counter.ofAnswer, Counter.answer, Counter.unanswered]
  · simp [answer?, Counter.ofAnswer, Counter.answer, Counter.unanswered]
  · by_cases count : 0 ≤ held ∧ held.toNat ≤ maxCount
    · have signed := holds_signed_of_count held count.1 count.2
      have inRange : Counter.InRange held := ⟨count.1, by omega⟩
      rw [Option.bind_some, answer?, if_pos signed, Counter.answer_of_answer, if_pos count]
      constructor
      · intro same
        cases same
        exact ⟨rfl, inRange⟩
      · rintro ⟨same, -⟩
        cases same
        rfl
    · have unanswered : (Counter.ofAnswer (answer? (integer held))).answer = none := by
        rw [answer?]
        split
        · rw [Counter.answer_of_answer, if_neg count]
        · rfl
      rw [Option.bind_some, unanswered]
      simp only [reduceCtorEq, Option.some.injEq, integer.injEq, false_iff, not_and]
      rintro rfl ⟨positive, bound⟩
      exact count ⟨positive, by omega⟩
  · simp [answer?, Counter.ofAnswer, Counter.answer, Counter.unanswered]

end StoredAnswer

theorem Form.bind_answer (definition : FormDefinition) (answerOf : String → Option Int)
    (question : Question) (bound : question ∈ (Form.bind definition answerOf).questions) :
    question.answer = (Counter.ofAnswer (answerOf question.name)).answer := by
  obtain ⟨declaration, -, rfl⟩ := List.mem_map.mp bound
  rfl

/-- Which stored numbers are read. In a file that was opened every stored value is null or equals a
whole number. A question of a form that is bound to the file has a count for its answer exactly if
that count is stored as a whole number; so it has the answer that its stored number equals, as long
as no count is stored as a binary number. -/
theorem FormDefinition.counts_read (definition : FormDefinition) (disk : Disk) (path : Path)
    (file : AnswerFile) (opened : AnswerFile.load disk path = .ok file) :
    ∀ question ∈ (definition.bindTo (.onDisk file)).questions,
      (∀ stored ∈ file.ledger.get? question.name,
        stored = .absent ∨ ∃ value, stored.Equals value) ∧
      (∀ value, question.answer = some value ↔
        file.ledger.get? question.name = some (.integer value) ∧ Counter.InRange value) ∧
      ((∀ value, question.answer = some value ↔
          ∃ stored ∈ file.ledger.get? question.name, stored.Equals value ∧
            Counter.InRange value) ↔
        ∀ number value, file.ledger.get? question.name = some (.floating number) →
          (StoredAnswer.floating number).Equals value → ¬Counter.InRange value) := by
  intro question bound
  obtain ⟨-, storable, -⟩ := AnswerFile.load_ok disk path file opened
  have answered := Form.bind_answer definition _ question bound
  have reads (value : Int) : question.answer = some value ↔
      file.ledger.get? question.name = some (.integer value) ∧ Counter.InRange value := by
    rw [answered]
    exact StoredAnswer.counter_answer (file.ledger.get? question.name) value
  refine ⟨fun stored held => ?_, reads, ?_⟩
  · apply StoredAnswer.equals_of_storable
    exact storable _ ((Ledger.get_eq_some file.ledger question.name stored).mp held)
  · constructor
    · intro claimed number value held equals inRange
      obtain ⟨whole, -⟩ := (reads value).mp ((claimed value).mpr ⟨_, held, equals, inRange⟩)
      rw [held] at whole
      cases whole
    · intro spared value
      rw [reads]
      constructor
      · rintro ⟨held, inRange⟩
        exact ⟨_, held, rfl, inRange⟩
      · rintro ⟨stored, held, equals, inRange⟩
        cases stored with
        | absent => cases equals
        | integer whole =>
            cases equals
            exact ⟨held, inRange⟩
        | floating number => exact absurd inRange (spared number value held equals)

def spelledDefinition : FormDefinition where
  title := "Tally"
  questions := [{ name := "a", label := "A" }, { name := "b", label := "B" },
    { name := "c", label := "C" }, { name := "d", label := "D" }]

def spelledDisk : Disk where
  entries := [(["tally.json"],
    .file "\x7b\"a\": 5, \"b\": 5.0, \"c\": -0, \"d\": 0.5e1\x7d".toUTF8)]
  workingDirectory := []

def binaryFive : Binary64 := ⟨false, 5629499534213120, -50⟩

def spelledFile : AnswerFile where
  path := smallPath
  ledger := ⟨[("a", .integer 5), ("b", .floating binaryFive), ("c", .floating (.zero true)),
    ("d", .floating binaryFive)], by decide⟩
  dirty := false

theorem spelled_opened : AnswerFile.load spelledDisk smallPath = .ok spelledFile :=
  AnswerFile.load_of_ledger _ _ _ (by decide +kernel)

theorem counts_read_spelled :
    AnswerFile.load spelledDisk smallPath = .ok spelledFile ∧
    ∀ question ∈ (spelledDefinition.bindTo (.onDisk spelledFile)).questions,
      (question.name = "a" → question.answer = some 5) ∧
      (question.name = "b" → ∀ value, question.answer ≠ some value) := by
  refine ⟨spelled_opened, fun question bound => ?_⟩
  obtain ⟨-, reads, -⟩ := FormDefinition.counts_read spelledDefinition spelledDisk smallPath
    spelledFile spelled_opened question bound
  constructor
  · intro named
    rw [reads, named]
    exact ⟨by decide, by decide⟩
  · intro named value
    rw [ne_eq, reads, named]
    rintro ⟨held, -⟩
    cases held

/-- A file that is opened may store counts that no question gets for its answer: five and zero,
where they are stored as binary numbers. -/
theorem stored_count_unread :
    (AnswerFile.load spelledDisk smallPath).toOption.map AnswerFile.ledger =
      some spelledFile.ledger ∧
    (StoredAnswer.floating binaryFive).Equals 5 ∧ Counter.InRange 5 ∧
    (StoredAnswer.floating (.zero true)).Equals 0 ∧ Counter.InRange 0 ∧
    (spelledDefinition.bindTo (.onDisk spelledFile)).answers =
      [("a", some 5), ("b", none), ("c", none), ("d", none)] := by
  decide +kernel

end CounterForms
