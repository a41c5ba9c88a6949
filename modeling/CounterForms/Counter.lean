import CounterForms.Text.Basic

/-!
A counter: a bounded count, or no answer yet. Having no answer is different from having counted to
zero. Steps stop at the ends of the range, and a count from outside is taken only if it is in range.
-/

namespace CounterForms

def maxCount : Nat := 999999999

/-- A count up to `maxCount`, or no answer. -/
structure Counter where
  count : Option Nat
  inRange : ∀ held ∈ count, held ≤ maxCount
deriving DecidableEq

inductive CounterState
  | unanswered
  | lowest
  | between
  | highest
deriving DecidableEq

namespace Counter

def unanswered : Counter := ⟨none, by simp⟩

def holding (held : Nat) (bound : held ≤ maxCount) : Counter := ⟨some held, by simpa using bound⟩

instance : Inhabited Counter := ⟨unanswered⟩

/-- The counter that an answer from outside gives. An answer out of range counts as none. -/
def ofAnswer : Option Int → Counter
  | none => unanswered
  | some answer =>
      if fits : 0 ≤ answer ∧ answer.toNat ≤ maxCount then holding answer.toNat fits.2
      else unanswered

def answer (counter : Counter) : Option Int := counter.count.map Int.ofNat

/-- One more, up to the largest count. The first step of an unanswered counter reaches zero. -/
def increment (counter : Counter) : Counter :=
  match counter.count with
  | none => holding 0 (Nat.zero_le _)
  | some held => holding (min (held + 1) maxCount) (Nat.min_le_right _ _)

/-- One less, down to zero. An unanswered counter stays as it is. -/
def decrement (counter : Counter) : Counter :=
  ⟨counter.count.map (· - 1), by
    intro held member
    obtain ⟨before, kept, rfl⟩ := Option.map_eq_some_iff.mp member
    exact Nat.le_trans (Nat.sub_le _ _) (counter.inRange before kept)⟩

def canIncrement (counter : Counter) : Bool :=
  match counter.count with
  | none => true
  | some held => held < maxCount

def canDecrement (counter : Counter) : Bool :=
  match counter.count with
  | none => false
  | some held => 0 < held

def state (counter : Counter) : CounterState :=
  match counter.count with
  | none => .unanswered
  | some held => if held = 0 then .lowest else if held = maxCount then .highest else .between

def text (counter : Counter) : String :=
  match counter.count with
  | none => ""
  | some held => Text.natText held

end Counter

end CounterForms
