import CounterForms.Text.Basic
import CounterForms.Text.Cluster
import CounterForms.Text.Width

/-!
Breaking lines to a width. A line is broken between words, and the blanks at the break are dropped;
a word that is wider than the line is broken inside. Symbols wider than the line are left out.
-/

namespace CounterForms.Wrapping

abbrev Symbol := List Char

/-- Whether a line may be broken at a symbol: at blanks other than the no-break space, and at the
break that takes no cell. -/
def isBreak (symbol : Symbol) : Bool :=
  symbol = ['\u200B'] || (symbol.all Text.isBlank && symbol ≠ ['\u00A0'])

/-- A line that is being broken: the lines that are finished, the last one first, the line begun,
and the blanks and the word behind it that have no line yet. -/
structure State where
  finished : List (List Symbol) := []
  line : List Symbol := []
  /-- The cells counted for the line begun. -/
  lineWidth : Nat := 0
  blanks : List Symbol := []
  /-- The cells counted for the blanks. -/
  blankWidth : Nat := 0
  word : List Symbol := []
  wordWidth : Nat := 0
  /-- The symbol before was no blank. -/
  afterWord : Bool := false

def State.commit (state : State) : State :=
  let (line, lineWidth) :=
    if state.line.isEmpty then (state.line, state.lineWidth)
    else (state.line ++ state.blanks, state.lineWidth + state.blankWidth)
  { state with
    line := line ++ state.word
    lineWidth := lineWidth + state.wordWidth
    blanks := []
    blankWidth := 0
    word := []
    wordWidth := 0 }

/-- Drops blanks from the front as long as they would have fitted on the line before. -/
def dropFitting : Nat → Nat → List Symbol → List Symbol × Nat
  | _, width, [] => ([], width)
  | room, width, symbol :: later =>
      let taken := Text.width symbol
      if room < taken then (symbol :: later, width)
      else dropFitting (room - taken) (width - taken) later

def State.endLine (state : State) (limit : Nat) : State :=
  let (blanks, blankWidth) := dropFitting (limit - state.lineWidth) state.blankWidth state.blanks
  { state with
    finished := state.line :: state.finished
    line := []
    lineWidth := 0
    blanks := blanks
    blankWidth := blankWidth }

def State.append (state : State) (symbol : Symbol) : State :=
  if isBreak symbol then
    { state with
      blanks := state.blanks ++ [symbol]
      blankWidth := state.blankWidth + Text.width symbol
      afterWord := false }
  else
    { state with
      word := state.word ++ [symbol]
      wordWidth := state.wordWidth + Text.width symbol
      afterWord := true }

def State.take (limit : Nat) (state : State) (symbol : Symbol) : State :=
  let width := Text.width symbol
  if limit < width then state
  else
    let wordEnds := state.afterWord && isBreak symbol
    let wordOverflows := state.line.isEmpty && limit < state.wordWidth + width
    let blanksOverflow := state.line.isEmpty && limit < state.blankWidth + width
    let committed := if wordEnds || wordOverflows || blanksOverflow then state.commit else state
    let lineFull := limit ≤ committed.lineWidth
    let wordFull :=
      0 < width && limit ≤ committed.lineWidth + committed.blankWidth + committed.wordWidth
    if lineFull || wordFull then
      let broken := committed.endLine limit
      if isBreak symbol && broken.blanks.isEmpty then broken else broken.append symbol
    else committed.append symbol

/-- The lines once all symbols are taken. Blanks alone make a line of their own that is empty. -/
def State.finish (state : State) : List (List Symbol) :=
  let onlyBlanks := state.line.isEmpty && state.word.isEmpty && !state.blanks.isEmpty
  let finished := if onlyBlanks then [] :: state.finished else state.finished
  let last := (if state.line.isEmpty then [] else state.line ++ state.blanks) ++ state.word
  let all := if last.isEmpty then finished else last :: finished
  if all.isEmpty then [[]] else all.reverse

def wrapLine (limit : Nat) (symbols : List Symbol) : List (List Symbol) :=
  (symbols.foldl (State.take limit) {}).finish

def cutLine (limit : Nat) : Nat → List Symbol → List Symbol
  | _, [] => []
  | used, symbol :: later =>
      let width := Text.width symbol
      if limit < width then cutLine limit used later
      else if limit < used + width then []
      else symbol :: cutLine limit (used + width) later

end CounterForms.Wrapping
