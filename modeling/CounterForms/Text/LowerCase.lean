import CounterForms.Text.CaseContextTable
import CounterForms.Text.CaseTable

/-!
Small letters for capitals, by the full Unicode rule. Two capitals need more than the table: the
dotted capital I becomes a small i with a combining dot, and a capital sigma at the end of a word
becomes the final form of its small letter. Which characters are capitals is the Unicode property
Uppercase.
-/

namespace CounterForms.Text

def CapitalRun.small? (run : CapitalRun) (code : Nat) : Option Nat :=
  if run.first ≤ code && code ≤ run.last && (code - run.first) % run.stride == 0 then
    some (run.small + (code - run.first))
  else none

def smallCode? : List CapitalRun → Nat → Option Nat
  | [], _ => none
  | run :: later, code =>
      match run.small? code with
      | some small => some small
      | none => smallCode? later code

def smallLetter (character : Char) : Char :=
  match smallCode? capitalRuns character.toNat with
  | some small => Char.ofNat small
  | none => character

/-- Whether Unicode counts the character as upper case. -/
def isUpperCase (character : Char) : Bool :=
  loneCapitalRanges.has character ||
    ((smallCode? capitalRuns character.toNat).isSome && !titleRanges.has character)

def isCased (character : Char) : Bool := casedRanges.has character

def isCaseIgnorable (character : Char) : Bool := caseIgnorableRanges.has character

/-- Whether a letter with case is the first thing that counts in a run of neighbours. -/
def meetsCased (neighbours : List Char) : Bool :=
  match neighbours.dropWhile isCaseIgnorable with
  | neighbour :: _ => isCased neighbour
  | [] => false

/-- Small letters of `characters`; `before` holds what stands before them, the nearest first. -/
def lowerAfter (before : List Char) : List Char → List Char
  | [] => []
  | character :: later =>
      let small :=
        if character = 'Σ' then
          [if meetsCased before && !meetsCased later then 'ς' else 'σ']
        else if character = 'İ' then ['i', '\u0307']
        else [smallLetter character]
      small ++ lowerAfter (character :: before) later

def lowerCase (text : String) : String := String.ofList (lowerAfter [] text.toList)

end CounterForms.Text
