import CounterForms.Key.Report

/-!
Keys as a terminal sends them: bytes, of which several may stand for one key. Control letters are
sent as control characters, keys without a character as sequences that start with an escape
character, and a key with Alt as an escape character in front of it. An escape character is judged
by the byte behind it.
-/

namespace CounterForms

namespace Terminal

inductive KeyInput
  | nothing
  | escape
  /-- The characters behind the start of a sequence, the last one first. -/
  | sequence (backward : List Char)
  /-- The bytes of a character. -/
  | character (bytes : ByteArray)

def numberedKeys : List (Nat × KeyCode) :=
  [(1, .home), (2, .insert), (3, .delete), (4, .last), (5, .pageUp), (6, .pageDown), (7, .home),
    (8, .last), (11, .function 1), (12, .function 2), (13, .function 3), (14, .function 4),
    (15, .function 5), (17, .function 6), (18, .function 7), (19, .function 8),
    (20, .function 9), (21, .function 10), (23, .function 11), (24, .function 12)]

def letterKeys : List (Char × KeyCode) :=
  [('A', .up), ('B', .down), ('C', .right), ('D', .left), ('H', .home), ('F', .last),
    ('Z', .backTab), ('P', .function 1), ('Q', .function 2), ('R', .function 3),
    ('S', .function 4)]

/-- The modifiers of a number in a sequence: one more than the sum of the modifiers' own numbers. -/
def numberedModifiers (number : Nat) : ReportedModifiers :=
  let held := number - 1
  { shift := held % 2 == 1
    alt := held / 2 % 2 == 1
    control := held / 4 % 2 == 1
    superKey := held / 8 % 2 == 1
    hyperKey := held / 16 % 2 == 1
    metaKey := held / 32 % 2 == 1 }

/-- The chord of a sequence with its last character. -/
def sequenceChord (parameters : List Char) (last : Char) : Option ReportedChord :=
  let number := Text.digitsValue 10 (parameters.takeWhile Text.isDigit)
  let behind := (parameters.dropWhile (· != ';')).drop 1
  let modifiers := numberedModifiers (Text.digitsValue 10 (behind.takeWhile Text.isDigit))
  let code := if last == '~' then numberedKeys.lookup number else letterKeys.lookup last
  code.map fun code => ⟨.known code, modifiers⟩

def byteChord (byte : UInt8) : Chord :=
  if byte == 0x0D then ⟨.enter, {}⟩
  else if byte == 0x09 then ⟨.tab, {}⟩
  else if byte == 0x7F then ⟨.backspace, {}⟩
  else if byte == 0x1B then ⟨.escape, {}⟩
  else if byte == 0 then ⟨.character ' ', { control := true }⟩
  else if byte < 0x1B then ⟨.character (Char.ofNat (byte.toNat + 0x60)), { control := true }⟩
  else if byte < 0x20 then ⟨.character (Char.ofNat (byte.toNat + 0x18)), { control := true }⟩
  else
    let character := Char.ofNat byte.toNat
    ⟨.character character, { shift := character.isUpper }⟩

namespace KeyInput

def longestCharacter : Nat := 4

def ofBytes (bytes : ByteArray) : KeyInput × Option ReportedChord :=
  match (String.fromUTF8? bytes).map String.toList with
  | some [typed] => (.nothing, some (.typed typed))
  | _ => (if bytes.size < longestCharacter then .character bytes else .nothing, none)

def receive (input : KeyInput) (byte : UInt8) : KeyInput × Option ReportedChord :=
  match input with
  | .nothing =>
      if byte == 0x1B then (.escape, none)
      else if byte < 0x80 then (.nothing, some (byteChord byte))
      else ofBytes (.mk #[byte])
  | .escape =>
      if byte == 0x5B || byte == 0x4F then (.sequence [], none)
      else if byte == 0x1B then (.escape, some (byteChord byte))
      else if byte < 0x80 then
        let chord := byteChord byte
        (.nothing, some ⟨.known chord.code, { chord.modifiers with alt := true }⟩)
      else ofBytes (.mk #[byte])
  | .sequence backward =>
      let next := Char.ofNat byte.toNat
      if Text.isDigit next || next == ';' then (.sequence (next :: backward), none)
      else (.nothing, sequenceChord backward.reverse next)
  | .character bytes => ofBytes (bytes.push byte)

end KeyInput

end Terminal

end CounterForms
