import CounterForms.Text.Basic
import CounterForms.Text.ClusterTable

/-!
Visible characters and lines. A visible character is a run of code points that are drawn as one, by
the rules for extended grapheme clusters: two neighbours stay together if a rule ties them, and part
otherwise. A line break ends a line and may have a carriage return before it; behind the last line
break no further line begins unless something follows it.
-/

namespace CounterForms.Text

inductive BreakKind
  | carriageReturn
  | lineFeed
  | control
  | extend
  | joiner
  | flagLetter
  | prepend
  | spacing
  | leadingJamo
  | vowelJamo
  | trailingJamo
  | openSyllable
  | closedSyllable
  | other
deriving DecidableEq

/-- The kind of Korean letters and syllables, which follows from their number. -/
def koreanKind? (code : Nat) : Option BreakKind :=
  let within (first last : Nat) : Bool := first ≤ code && code ≤ last
  if within 0x1100 0x115F || within 0xA960 0xA97C then some .leadingJamo
  else if within 0x1160 0x11A7 || within 0xD7B0 0xD7C6 then some .vowelJamo
  else if code = 0x16D63 || within 0x16D67 0x16D6A then some .vowelJamo
  else if within 0x11A8 0x11FF || within 0xD7CB 0xD7FB then some .trailingJamo
  else if within 0xAC00 0xD7A3 then
    some (if (code - 0xAC00) % 28 = 0 then .openSyllable else .closedSyllable)
  else none

def breakKind (character : Char) : BreakKind :=
  let code := character.toNat
  if code = 0xD then .carriageReturn
  else if code = 0xA then .lineFeed
  else if controlRanges.covers code then .control
  else if code < 0xA9 then .other
  else if extendRanges.covers code then .extend
  else if code = 0x200D then .joiner
  else if 0x1F1E6 ≤ code && code ≤ 0x1F1FF then .flagLetter
  else if prependRanges.covers code then .prepend
  else if spacingRanges.covers code then .spacing
  else (koreanKind? code).getD .other

inductive Progress
  | none
  | opened
  | tied
deriving DecidableEq

structure ClusterState where
  last : BreakKind
  /-- An odd number of flag letters stands before the border. -/
  oddFlags : Bool
  /-- A picture, marks, and then a joiner. -/
  picture : Progress
  /-- A consonant, marks, and among them a linker. -/
  conjunct : Progress

def pictureAfter (before : Progress) (character : Char) (kind : BreakKind) : Progress :=
  if pictureRanges.has character then .opened
  else
    match before, kind with
    | .opened, .extend => .opened
    | .opened, .joiner => .tied
    | _, _ => .none

def conjunctAfter (before : Progress) (character : Char) : Progress :=
  if conjunctConsonantRanges.has character then .opened
  else
    match before with
    | .none => .none
    | _ =>
        if conjunctLinkerRanges.has character then .tied
        else if conjunctExtendRanges.has character || character = '\u200D' then before
        else .none

def stateAfter (before : Option ClusterState) (character : Char) : ClusterState :=
  let kind := breakKind character
  {
    last := kind
    oddFlags := kind = .flagLetter && !(before.map ClusterState.oddFlags).getD false
    picture := pictureAfter ((before.map ClusterState.picture).getD .none) character kind
    conjunct := conjunctAfter ((before.map ClusterState.conjunct).getD .none) character
  }

/-- Whether a kind stands alone whatever its neighbours are. -/
def BreakKind.standsAlone (kind : BreakKind) : Bool :=
  kind = .carriageReturn || kind = .lineFeed || kind = .control

/-- Whether the syllables of Korean tie two kinds together. -/
def tiesJamo (before after : BreakKind) : Bool :=
  match before, after with
  | .leadingJamo, .leadingJamo | .leadingJamo, .vowelJamo => true
  | .leadingJamo, .openSyllable | .leadingJamo, .closedSyllable => true
  | .openSyllable, .vowelJamo | .openSyllable, .trailingJamo => true
  | .vowelJamo, .vowelJamo | .vowelJamo, .trailingJamo => true
  | .closedSyllable, .trailingJamo | .trailingJamo, .trailingJamo => true
  | _, _ => false

/-- Whether a character belongs to the visible character before it. -/
def belongs (state : ClusterState) (character : Char) : Bool :=
  let kind := breakKind character
  if state.last = .carriageReturn && kind = .lineFeed then true
  else if state.last.standsAlone || kind.standsAlone then false
  else
    tiesJamo state.last kind || kind = .extend || kind = .joiner || kind = .spacing ||
      state.last = .prepend ||
      (state.conjunct = .tied && conjunctConsonantRanges.has character) ||
      (state.picture = .tied && pictureRanges.has character) ||
      (state.oddFlags && kind = .flagLetter)

/-- Splits a text, of which `current` is the visible character begun last, its end first. -/
def clustersFrom (state : ClusterState) (current : List Char) : List Char → List (List Char)
  | [] => [current.reverse]
  | character :: rest =>
      if belongs state character then
        clustersFrom (stateAfter (some state) character) (character :: current) rest
      else
        current.reverse :: clustersFrom (stateAfter (some state) character) [character] rest

def clusters : List Char → List (List Char)
  | [] => []
  | first :: rest => clustersFrom (stateAfter none first) [first] rest

def dropReturn (line : List Char) : List Char :=
  if line.getLast? = some '\r' then line.dropLast else line

/-- Splits at line breaks; `current` is the line begun last, its end first. -/
def linesFrom (current : List Char) : List Char → List (List Char)
  | [] => if current.isEmpty then [] else [current.reverse]
  | '\n' :: rest => dropReturn current.reverse :: linesFrom [] rest
  | character :: rest => linesFrom (character :: current) rest

def lines (characters : List Char) : List (List Char) := linesFrom [] characters

/-- The lines of a text that is shown: even a text without any has one, which is empty. -/
def shownLines (characters : List Char) : List (List Char) :=
  if characters.isEmpty then [[]] else lines characters

/-- Whether a character controls the terminal and is never shown. -/
def isControl (character : Char) : Bool :=
  character.toNat < 0x20 || (0x7F ≤ character.toNat && character.toNat < 0xA0)

def symbols (line : List Char) : List (List Char) :=
  (clusters line).filter fun cluster => !cluster.any isControl

end CounterForms.Text
