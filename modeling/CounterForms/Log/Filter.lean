import CounterForms.Log.Event
import CounterForms.Text.Basic
import CounterForms.Text.Pieces
import CounterForms.Text.WordTable

/-!
Which events go into the log. A filter is a list of directives separated by commas; each gives the
level up to which events are noted, for all targets or for those that start with a given text, and
perhaps only for events with a given field. Of several directives that fit an event the one with the
longest target decides, and then one that asks for a field.
-/

namespace CounterForms

/-- A directive: the start of the targets it is for, a field that events must have, and the rank up
to which events are noted. -/
structure LogDirective where
  target : String
  field : Option String := none
  rank : Nat
deriving DecidableEq

/-- How far down the scale of levels an event stands. -/
def LogLevel.rank : LogLevel → Nat
  | .warn => 2
  | .info => 3
  | .debug => 4

abbrev LogFilter := List LogDirective

namespace LogFilter

def all : Nat := 5

def rankNames : List (String × Nat) :=
  [("off", 0), ("error", 1), ("warn", 2), ("info", 3), ("debug", 4), ("trace", 5)]

def numericRank? (written : List Char) : Option Nat :=
  let digits := match written with
    | '+' :: rest => rest
    | _ => written
  let rank := Text.digitsValue 10 digits
  if !digits.isEmpty && digits.all Text.isDigit && rank ≤ all then some rank else none

def rank? (written : List Char) : Option Nat :=
  match numericRank? written with
  | some rank => some rank
  | none => rankNames.lookup (String.ofList (written.map Char.toLower))

def startsDirective (character : Char) : Bool :=
  character == '[' || character == '-' || character == ':' || character == '_' ||
    Text.wordRanges.has character

/-- The rank behind an equals sign, or everything if there is nothing behind it. -/
def givenRank? (written : List Char) : Option Nat :=
  if written.isEmpty then some all else rank? written

inductive Condition
  /-- A span, which no event is in, or the value of a field. -/
  | unmet
  | field (name : String)
deriving DecidableEq

/-- Reads what stands behind an opening bracket, up to the closing one. -/
def readCondition (inside : List Char) : Option (Condition × List Char) :=
  let span := inside.takeWhile fun character => character != ']' && character != '\x7b'
  match inside.drop span.length with
  | ']' :: behind => some (.unmet, behind)
  | '\x7b' :: rest =>
      let name := rest.takeWhile (· != '\x7d')
      match rest.drop name.length with
      | '\x7d' :: ']' :: behind =>
          if name.isEmpty then none
          else if span.isEmpty && !name.contains '=' then
            some (.field (String.ofList name), behind)
          else some (.unmet, behind)
      | _ => none
  | _ => none

def Condition.directives (condition : Condition) (target : List Char) (rank : Nat) : LogFilter :=
  match condition with
  | .unmet => []
  | .field name => [⟨String.ofList target, some name, rank⟩]

/-- A directive without a rank of its own: a rank for all targets, or a target. -/
def bareDirective (written : List Char) : LogDirective :=
  match rank? written with
  | some rank => ⟨"", none, rank⟩
  | none => ⟨String.ofList written, none, all⟩

/-- Reads one directive. The places of its parts are found in the text without the blanks around it,
and the parts are taken from these places of the text with the blanks. -/
def readDirective (written : List Char) : Option LogFilter :=
  let seen := Text.trimBlanks written
  let start := seen.takeWhile fun character => character != '=' && character != '['
  if !((seen.head?.map startsDirective).getD false) then none
  else
    match seen.drop start.length with
    | [] => some [bareDirective written]
    | '[' :: inside => do
        let (condition, behind) ← readCondition inside
        let target := written.take start.length
        match behind with
        | [] => some (condition.directives target all)
        | '=' :: given =>
            let rank ← givenRank? (written.drop (seen.length - given.length))
            some (condition.directives target rank)
        | _ => none
    | _ => do
        let rank ← givenRank? (written.drop (start.length + 1))
        some [⟨String.ofList (written.take start.length), none, rank⟩]

def standard : LogFilter := [⟨"tally", none, 3⟩]

/-- Reads a filter. One that cannot be read gives way to the standard one. -/
def ofText (text : String) : LogFilter :=
  let written := (Text.pieces ',' text.toList).filter (!·.isEmpty)
  match written.mapM readDirective with
  | some directives => directives.flatten
  | none => standard

def ofVariable : Option String → LogFilter
  | some text => ofText text
  | none => standard

end LogFilter

namespace LogDirective

def messageField : String := "message"

def fits (directive : LogDirective) (event : LogEvent) : Bool :=
  directive.target.toList.isPrefixOf event.target.toList &&
    match directive.field with
    | none => true
    | some name => (messageField :: event.fields.map Prod.fst).contains name

/-- Whether a directive decides before another one that fits the same event. -/
def goesBefore (one other : LogDirective) : Bool :=
  match compare one.target.length other.target.length with
  | .gt => true
  | .lt => false
  | .eq =>
      match one.field, other.field with
      | none, none => true
      | none, some _ => false
      | some _, none => true
      | some name, some otherName => !decide (name < otherName)

end LogDirective

namespace LogFilter

/-- The directive that decides about an event. Of equal ones the last counts. -/
def deciding (filter : LogFilter) (event : LogEvent) : Option LogDirective :=
  (filter.filter fun directive => directive.fits event).foldl
    (fun best directive =>
      match best with
      | some other => if directive.goesBefore other then some directive else best
      | none => some directive)
    none

def admits (filter : LogFilter) (event : LogEvent) : Bool :=
  match filter.deciding event with
  | some directive => event.level.rank ≤ directive.rank
  | none => false

end LogFilter

end CounterForms
