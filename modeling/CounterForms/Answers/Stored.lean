import CounterForms.Answers.Ledger
import CounterForms.Decimal.Binary64
import CounterForms.Failure
import CounterForms.Json.Reader

/-!
The text of an answers file: an object that gives every name a whole number or null. A number may be
written with a point or an exponent and may be beyond every counter; it is kept as it is until a new
answer takes its place. Names that the form does not know are kept with their values.
-/

namespace CounterForms

inductive StoredAnswer
  | absent
  | integer (value : Int)
  /-- A whole number in the form of a binary floating number. -/
  | floating (value : Binary64)
deriving DecidableEq, Inhabited

namespace StoredAnswer

def ofAnswer : Option Int → StoredAnswer
  | none => absent
  | some value => integer value

/-- The answer that a stored value gives: whole numbers of 64 bits with a sign count, floating
numbers do not. -/
def answer? : StoredAnswer → Option Int
  | absent => none
  | integer value => if Word.holdsSigned 63 value then some value else none
  | floating _ => none

/-- What may be stored: null and whole numbers. -/
def ofJson? : Json → Option StoredAnswer
  | .null => some absent
  | .integer value => some (integer value)
  | .number value => if value.isWhole then some (floating value) else none
  | _ => none

def text : StoredAnswer → List Char
  | absent => ['n', 'u', 'l', 'l']
  | integer value => Text.intNumeral value
  | floating value => Json.numberText value

end StoredAnswer

abbrev AnswerLedger := Ledger StoredAnswer

namespace AnswerLedger

/-- What an entry of the file gives, or why it may not be stored. -/
def classify (entry : String × Json) : Attempted (String × StoredAnswer) :=
  match StoredAnswer.ofJson? entry.2 with
  | some stored => .ok (entry.1, stored)
  | none => failBy (.answerKind entry.1 entry.2)

def classifyAll : List (String × Json) → Attempted (List (String × StoredAnswer))
  | [] => .ok []
  | entry :: later => do
      let stored ← classify entry
      let others ← classifyAll later
      .ok (stored :: others)

/-- Reads the text of an answers file. A blank text holds no answers; of several values under one
name the last counts, at the place of the first. -/
def ofText (text : String) : Attempted AnswerLedger :=
  if Text.isBlankText text then .ok Ledger.empty
  else do
    let members ← orFail .json (Json.readObject text)
    let stored ← classifyAll (Ledger.ofList members).entries
    .ok (Ledger.ofList stored)

def entryLine (entry : String × StoredAnswer) : List Char :=
  ['\n', ' ', ' '] ++ Json.quote entry.1 ++ [':', ' '] ++ entry.2.text

/-- The text of an answers file: one line for every name, and a line break at the end. -/
def characters (ledger : AnswerLedger) : List Char :=
  if ledger.entries.isEmpty then ['\x7b', '\x7d', '\n']
  else
    '\x7b' :: ([','].intercalate (ledger.entries.map entryLine) ++ ['\n', '\x7d', '\n'])

def text (ledger : AnswerLedger) : String := String.ofList ledger.characters

end AnswerLedger

end CounterForms
