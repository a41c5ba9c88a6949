import CounterForms.Json.Value

/-!
Strings of JSON read back: reading what was written in quotes gives the text again and leaves what
stands behind the closing quote, whatever characters the text holds.
-/

namespace CounterForms.Json

/-- The four digits that stand for a control character are worth its code. -/
theorem control_digits (code : Nat) (isControl : code < 0x20) :
    ['0', '0', Nat.digitChar (code / 16), Nat.digitChar (code % 16)].all Text.isHexDigit = true ∧
      Text.digitsValue 16 ['0', '0', Nat.digitChar (code / 16), Nat.digitChar (code % 16)] =
        code := by
  revert code
  decide

theorem control_apart (code : Nat) (isControl : code < 0x20) :
    isLowHalf code = false ∧ isHighHalf code = false := by
  constructor
  · have below : ¬0xDC00 ≤ code := by omega
    simp [isLowHalf, below]
  · have below : ¬0xD800 ≤ code := by omega
    simp [isHighHalf, below]

/-- Reading the escape of a control character gives the character. -/
theorem read_escape_control (character : Char) (isControl : character.toNat < 0x20)
    (rest : List Char) :
    readEscape ('u' :: '0' :: '0' :: Nat.digitChar (character.toNat / 16) ::
      Nat.digitChar (character.toNat % 16) :: rest) = .ok (character, rest) := by
  obtain ⟨hexadecimal, worth⟩ := control_digits character.toNat isControl
  obtain ⟨notLow, notHigh⟩ := control_apart character.toNat isControl
  have digits : readFourDigits ('0' :: '0' :: Nat.digitChar (character.toNat / 16) ::
      Nat.digitChar (character.toNat % 16) :: rest) = .ok (character.toNat, rest) := by
    rw [readFourDigits, if_pos hexadecimal, worth]
    rfl
  simp only [readEscape, digits]
  simp [bind, Except.bind, notLow, notHigh, pure, Except.pure, Char.ofNat_toNat]

def withCharacter (character : Char) (read : List Char × List Char) : List Char × List Char :=
  (character :: read.1, read.2)

theorem bind_with_character (character : Char) (reading : Except Fault (List Char × List Char)) :
    (reading >>= fun read => pure (withCharacter character read)) =
      reading.map (withCharacter character) := by
  cases reading <;> rfl

theorem read_characters_plain (budget : Nat) (character : Char) (input : List Char)
    (noQuote : character ≠ '"') (noBackslash : character ≠ '\\')
    (noControl : ¬character.toNat < 0x20) :
    readCharacters (budget + 1) (character :: input) =
      (readCharacters budget input).map (withCharacter character) := by
  rw [readCharacters, if_neg noQuote, if_neg noBackslash, if_neg noControl]
  exact bind_with_character character _

theorem read_characters_escape (budget : Nat) (escape input : List Char) (character : Char)
    (meant : readEscape (escape ++ input) = .ok (character, input)) :
    readCharacters (budget + 1) ('\\' :: escape ++ input) =
      (readCharacters budget input).map (withCharacter character) := by
  rw [List.cons_append, readCharacters, if_neg (by decide), if_pos rfl, meant]
  exact bind_with_character character _

theorem read_characters_escaped (budget : Nat) (character : Char) (input : List Char) :
    readCharacters (budget + 1) (escaped character ++ input) =
      (readCharacters budget input).map (withCharacter character) := by
  unfold escaped
  split
  · exact read_characters_escape budget ['"'] input _ rfl
  · exact read_characters_escape budget ['\\'] input _ rfl
  · exact read_characters_escape budget ['b'] input _ rfl
  · exact read_characters_escape budget ['t'] input _ rfl
  · exact read_characters_escape budget ['n'] input _ rfl
  · exact read_characters_escape budget ['f'] input _ rfl
  · exact read_characters_escape budget ['r'] input _ rfl
  next noQuote noBackslash _ _ _ _ _ =>
    by_cases isControl : character.toNat < 0x20
    · rw [if_pos isControl]
      exact read_characters_escape budget ['u', '0', '0', _, _] input character
        (read_escape_control character isControl input)
    · rw [if_neg isControl]
      exact read_characters_plain budget character input noQuote noBackslash isControl

theorem read_characters_quoted (characters rest : List Char) (budget : Nat)
    (enough : characters.length < budget) :
    readCharacters budget (characters.flatMap escaped ++ '"' :: rest) =
      .ok (characters, rest) := by
  induction characters generalizing budget with
  | nil =>
      obtain ⟨less, rfl⟩ := Nat.exists_eq_succ_of_ne_zero (Nat.pos_iff_ne_zero.mp enough)
      rfl
  | cons character later induction =>
      obtain ⟨less, rfl⟩ := Nat.exists_eq_succ_of_ne_zero (Nat.ne_zero_of_lt enough)
      rw [List.flatMap_cons, List.append_assoc, read_characters_escaped,
        induction less (by simpa using enough)]
      rfl

theorem escaped_ne_nil (character : Char) : escaped character ≠ [] := by
  unfold escaped
  split <;> (try split) <;> simp

theorem escaped_length (characters : List Char) :
    characters.length ≤ (characters.flatMap escaped).length := by
  induction characters with
  | nil => simp
  | cons character later induction =>
      have positive : 0 < (escaped character).length :=
        List.length_pos_iff.mpr (escaped_ne_nil character)
      simp only [List.flatMap_cons, List.length_append, List.length_cons]
      omega

/-- Reading a text in quotes, behind its opening quote, gives the text and what follows it. -/
theorem read_string_quoted (text : String) (rest : List Char) :
    readString (text.toList.flatMap escaped ++ '"' :: rest) = .ok (text, rest) := by
  have enough : text.toList.length < (text.toList.flatMap escaped ++ '"' :: rest).length + 1 := by
    have long := escaped_length text.toList
    simp only [List.length_append]
    omega
  rw [readString, read_characters_quoted text.toList rest _ enough]
  change Except.ok (String.ofList text.toList, rest) = _
  rw [String.ofList_toList]

end CounterForms.Json
