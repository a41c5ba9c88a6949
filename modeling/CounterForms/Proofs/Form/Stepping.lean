import CounterForms.Proofs.Form.Binding
import CounterForms.Proofs.Text.Basic

/-!
Counters that are stepped and set, over and over. What a counter answers after any run is reckoned
in whole numbers from what it was made from: steps up stop at the largest count, steps down at zero,
and an answer out of range is dropped. The state and the text of a counter tell its answer.
-/

namespace CounterForms

inductive CounterStep
  | set (answer : Option Int)
  | increment
  | decrement
  | clear
deriving DecidableEq

/-- What a step makes of an answer, reckoned in whole numbers. -/
def CounterStep.reckon : CounterStep → Option Int → Option Int
  | set answer, _ => answer.filter fun value => 0 ≤ value ∧ value ≤ 999999999
  | increment, none => some 0
  | increment, some value => some (min (value + 1) 999999999)
  | decrement, answer => answer.map fun value => max (value - 1) 0
  | clear, _ => none

namespace Counter

def step (counter : Counter) : CounterStep → Counter
  | .set answer => ofAnswer answer
  | .increment => counter.increment
  | .decrement => counter.decrement
  | .clear => unanswered

def run (counter : Counter) (steps : List CounterStep) : Counter := steps.foldl step counter

theorem run_cons (counter : Counter) (first : CounterStep) (later : List CounterStep) :
    counter.run (first :: later) = (counter.step first).run later := rfl

theorem run_replicate_succ (counter : Counter) (step : CounterStep) (number : Nat) :
    counter.run (List.replicate (number + 1) step) =
      (counter.run (List.replicate number step)).step step := by
  rw [run, List.replicate_succ', List.foldl_append]
  rfl

theorem of_answer_filter (answer : Option Int) :
    (ofAnswer answer).answer = answer.filter fun value => 0 ≤ value ∧ value ≤ 999999999 := by
  cases answer with
  | none => rfl
  | some value =>
      rw [answer_of_answer]
      have bounds : (0 ≤ value ∧ value.toNat ≤ maxCount) ↔ 0 ≤ value ∧ value ≤ 999999999 := by
        unfold maxCount
        omega
      by_cases fits : 0 ≤ value ∧ value ≤ 999999999
      · rw [if_pos (bounds.mpr fits), Option.filter_some, if_pos (by simpa using fits)]
      · rw [if_neg (mt bounds.mp fits), Option.filter_some, if_neg (by simpa using fits)]

theorem answer_bounds (counter : Counter) (value : Int) (held : counter.answer = some value) :
    0 ≤ value ∧ value ≤ 999999999 := by
  rw [← counter.of_answer_answer, of_answer_filter, Option.filter_eq_some_iff] at held
  simpa using held.2

/-- One step makes of the answer what is reckoned. -/
theorem step_answer (counter : Counter) (step : CounterStep) :
    (counter.step step).answer = step.reckon counter.answer := by
  obtain ⟨count, inRange⟩ := counter
  cases step with
  | set answer => exact of_answer_filter answer
  | clear => rfl
  | increment =>
      cases count with
      | none => rfl
      | some held =>
          have capped : ((min (held + 1) maxCount : Nat) : Int) =
              min ((held : Int) + 1) 999999999 := by
            unfold maxCount
            omega
          exact congrArg some capped
  | decrement =>
      cases count with
      | none => rfl
      | some held =>
          have floored : ((held - 1 : Nat) : Int) = max ((held : Int) - 1) 0 := by omega
          exact congrArg some floored

/-- What a counter answers after any run is reckoned step by step. -/
theorem run_answer (counter : Counter) (steps : List CounterStep) :
    (counter.run steps).answer =
      steps.foldl (fun answer step => step.reckon answer) counter.answer := by
  induction steps generalizing counter with
  | nil => rfl
  | cons first later induction =>
      rw [run_cons, induction, step_answer]
      rfl

theorem increments_held (counter : Counter) (value : Int) (held : counter.answer = some value)
    (number : Nat) :
    (counter.run (List.replicate number .increment)).answer =
      some (min (value + number) 999999999) := by
  induction number with
  | zero =>
      have bounds := counter.answer_bounds value held
      have same : min (value + (0 : Nat)) 999999999 = value := by omega
      rw [same]
      exact held
  | succ number induction =>
      rw [run_replicate_succ, step_answer, induction]
      have capped : min (min (value + number) 999999999 + 1) 999999999 =
          min (value + (number + 1 : Nat)) 999999999 := by omega
      exact congrArg some capped

/-- The first step of an unanswered counter only reaches zero. -/
theorem increments_unanswered (counter : Counter) (unanswered : counter.answer = none)
    (number : Nat) :
    (counter.run (List.replicate (number + 1) .increment)).answer =
      some (min (number : Int) 999999999) := by
  have first : (counter.step .increment).answer = some 0 := by
    rw [step_answer, unanswered]
    rfl
  rw [List.replicate_succ, run_cons, increments_held _ 0 first, Int.zero_add]

theorem decrements (counter : Counter) (number : Nat) :
    (counter.run (List.replicate number .decrement)).answer =
      counter.answer.map fun value => max (value - (number : Int)) 0 := by
  induction number with
  | zero =>
      cases held : counter.answer with
      | none => exact held
      | some value =>
          have bounds := counter.answer_bounds value held
          have same : max (value - (0 : Nat)) 0 = value := by omega
          rw [Option.map_some, same]
          exact held
  | succ number induction =>
      rw [run_replicate_succ, step_answer, induction]
      cases counter.answer with
      | none => rfl
      | some value =>
          have floored : max (max (value - number) 0 - 1) 0 =
              max (value - (number + 1 : Nat)) 0 := by omega
          exact congrArg some floored

inductive Shows : Option Int → CounterState → Prop
  | unanswered : Shows none .unanswered
  | lowest : Shows (some 0) .lowest
  | highest : Shows (some 999999999) .highest
  | between (value : Int) (above : 0 < value) (below : value < 999999999) :
      Shows (some value) .between

theorem state_shows (counter : Counter) : Shows counter.answer counter.state := by
  obtain ⟨count, inRange⟩ := counter
  cases count with
  | none => exact .unanswered
  | some held =>
      have bound : held ≤ maxCount := inRange held rfl
      unfold state
      dsimp only
      split
      next isZero =>
        subst isZero
        exact .lowest
      next notZero =>
        split
        next isMost =>
          subst isMost
          exact .highest
        next notMost =>
          unfold maxCount at bound notMost
          exact .between held (by omega) (by omega)

theorem state_iff (counter : Counter) (state : CounterState) :
    counter.state = state ↔ Shows counter.answer state := by
  have shows := counter.state_shows
  constructor
  · rintro rfl
    exact shows
  · intro other
    generalize counter.answer = answer at shows other
    generalize counter.state = told at shows
    cases shows <;> cases other <;> first | rfl | contradiction

theorem text_empty_iff (counter : Counter) : counter.text = "" ↔ counter.answer = none := by
  obtain ⟨count, inRange⟩ := counter
  cases count with
  | none => exact iff_of_true rfl rfl
  | some held =>
      apply iff_of_false
      · intro empty
        have digits : Text.natNumeral held = [] := String.ofList_injective empty
        exact Text.nat_numeral_ne_nil held digits
      · intro unanswered
        cases unanswered

/-- The text of an answered counter is the one spelling of its answer. -/
theorem text_iff (counter : Counter) (value : Int) (held : counter.answer = some value)
    (text : String) :
    text = counter.text ↔ ∃ count : Nat, (count : Int) = value ∧ Text.Spells text.toList count := by
  obtain ⟨count, inRange⟩ := counter
  cases count with
  | none => cases held
  | some kept =>
      have same : (kept : Int) = value := Option.some.inj held
      have shown : text = Text.natText kept ↔ text.toList = Text.natNumeral kept := by
        rw [Text.natText, ← String.toList_inj, String.toList_ofList]
      rw [show (Counter.mk (some kept) inRange).text = Text.natText kept from rfl, shown,
        ← Text.spells_iff]
      constructor
      · intro spells
        exact ⟨kept, same, spells⟩
      · rintro ⟨other, isValue, spells⟩
        have isKept : other = kept := Int.ofNat.inj (isValue.trans same.symm)
        rw [← isKept]
        exact spells

/-- Counters after any run. The answer is what the steps are reckoned to make of the one that the
counter began with, and it is in range; an answer that is set is kept if it is in range and dropped
if it is not. However often a counter is then stepped up or down, it stops at the ends of the range.
State and text tell the answer: the text is empty without one, and is its one spelling if there is
one. -/
theorem runs_reckoned (initial : Option Int) (steps : List CounterStep) :
    let counter := (ofAnswer initial).run steps
    (counter.answer =
      steps.foldl (fun answer step => step.reckon answer)
        (initial.filter fun value => 0 ≤ value ∧ value ≤ 999999999)) ∧
    (∀ value, counter.answer = some value → 0 ≤ value ∧ value ≤ 999999999) ∧
    (∀ answer value, (counter.step (.set answer)).answer = some value ↔
      answer = some value ∧ 0 ≤ value ∧ value ≤ 999999999) ∧
    (∀ value, counter.answer = some value → ∀ number : Nat,
      (counter.run (List.replicate number .increment)).answer =
        some (min (value + number) 999999999)) ∧
    (counter.answer = none → ∀ number : Nat,
      (counter.run (List.replicate (number + 1) .increment)).answer =
        some (min (number : Int) 999999999)) ∧
    (∀ number : Nat, (counter.run (List.replicate number .decrement)).answer =
      counter.answer.map fun value => max (value - (number : Int)) 0) ∧
    (∀ state, counter.state = state ↔ Shows counter.answer state) ∧
    (counter.text = "" ↔ counter.answer = none) ∧
    (∀ value, counter.answer = some value → ∀ text : String,
      text = counter.text ↔
        ∃ count : Nat, (count : Int) = value ∧ Text.Spells text.toList count) := by
  intro counter
  have reckoned : counter.answer = steps.foldl (fun answer step => step.reckon answer)
      (ofAnswer initial).answer := run_answer (ofAnswer initial) steps
  have set (answer : Option Int) (value : Int) :
      (counter.step (.set answer)).answer = some value ↔
        answer = some value ∧ 0 ≤ value ∧ value ≤ 999999999 := by
    show (ofAnswer answer).answer = some value ↔ _
    rw [of_answer_filter, Option.filter_eq_some_iff, decide_eq_true_eq]
  rw [of_answer_filter] at reckoned
  exact ⟨reckoned, counter.answer_bounds, set, counter.increments_held,
    counter.increments_unanswered, counter.decrements, counter.state_iff, counter.text_empty_iff,
    counter.text_iff⟩

/-- An answer out of range, a step up from nothing, and then more steps than the range has left. -/
theorem runs_reckoned_capped :
    let counter := (ofAnswer (some (-5))).run [.increment, .decrement, .set (some 999999997)]
    counter.answer = some 999999997 ∧
      (counter.run (List.replicate 7 .increment)).answer = some 999999999 ∧
      (counter.run (List.replicate 7 .decrement)).answer = some 999999990 ∧
      counter.state = .between ∧ counter.text = "999999997" := by
  obtain ⟨reckoned, -, -, ups, -, downs, states, -, texts⟩ :=
    runs_reckoned (some (-5)) [.increment, .decrement, .set (some 999999997)]
  have held : ((ofAnswer (some (-5))).run
      [.increment, .decrement, .set (some 999999997)]).answer = some 999999997 :=
    reckoned.trans rfl
  refine ⟨held, ups _ held 7, ?_, ?_, ?_⟩
  · rw [downs, held]
    rfl
  · rw [states, held]
    exact .between _ (by decide) (by decide)
  · have spelled : Text.Spells "999999997".toList 999999997 :=
      ⟨by decide, List.all_eq_true.mp (by decide), by decide, by decide⟩
    exact ((texts _ held "999999997").mpr ⟨999999997, rfl, spelled⟩).symm

end Counter

end CounterForms
