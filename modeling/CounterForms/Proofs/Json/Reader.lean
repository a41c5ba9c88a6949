import CounterForms.Json.Reader
import CounterForms.Proofs.Json.Number
import CounterForms.Proofs.Json.Text

/-!
Values and members as parts of a text. A value that is written as a number, and null, is read in the
same way whatever follows it, and what is read as a whole number fits 64 bits.
-/

namespace CounterForms.Json

theorem read_value_space (budget depth : Nat) (input : List Char) :
    readValue (budget + 1) depth (' ' :: input) = readValue (budget + 1) depth input := rfl

theorem number_character_apart (character : Char) (isNumber : isNumberCharacter character = true) :
    isSpace character = false ∧ character ≠ '[' ∧ character ≠ '\x7b' ∧ character ≠ '\x7d' ∧
      character ≠ ',' := by
  refine ⟨?_, ?_, ?_, ?_, ?_⟩
  · by_contra isBlank
    simp only [isSpace, Bool.not_eq_false, Bool.or_eq_true, decide_eq_true_eq] at isBlank
    rcases isBlank with ((rfl | rfl) | rfl) | rfl <;> revert isNumber <;> decide
  all_goals
    rintro rfl
    revert isNumber
    decide

theorem skip_spaces_cons (first : Char) (later : List Char) (shown : isSpace first = false) :
    skipSpaces (first :: later) = first :: later := by
  rw [skipSpaces, List.dropWhile_cons, shown]
  rfl

theorem read_value_number (budget depth : Nat) (first : Char) (later : List Char)
    (isNumber : isNumberCharacter first = true) :
    readValue (budget + 1) depth (first :: later) = readLeaf first later := by
  obtain ⟨shown, noArray, noObject, -, -⟩ := number_character_apart first isNumber
  simp only [readValue, skip_spaces_cons first later shown, noArray, noObject, if_false]

theorem read_leaf_number (first : Char) (later : List Char)
    (isNumber : isNumberCharacter first = true) :
    readLeaf first later =
      if first = '-' then readUnsigned true later
      else if Text.isDigit first then readUnsigned false (first :: later)
      else throw .malformed := by
  have letters : first ≠ 'n' ∧ first ≠ 't' ∧ first ≠ 'f' ∧ first ≠ '"' := by
    refine ⟨?_, ?_, ?_, ?_⟩ <;> (rintro rfl; revert isNumber; decide)
  obtain ⟨noNull, noTrue, noFalse, noQuote⟩ := letters
  unfold readLeaf
  split <;> simp_all

/-- A value that starts like a number is read in the same way whatever follows it. -/
theorem read_value_append (budget depth : Nat) (first : Char) (later following : List Char)
    (isNumber : isNumberCharacter first = true) (ends : EndsNumber following) :
    (readValue (budget + 1) depth (first :: later ++ following)).toOption =
      (readValue 1 0 (first :: later)).toOption.map (withBehind following) := by
  rw [List.cons_append, read_value_number _ _ _ _ isNumber, read_value_number _ _ _ _ isNumber,
    read_leaf_number _ _ isNumber, read_leaf_number _ _ isNumber]
  by_cases minus : first = '-'
  · rw [if_pos minus, if_pos minus]
    exact read_unsigned_append true later following ends
  rw [if_neg minus, if_neg minus]
  by_cases digit : Text.isDigit first = true
  · rw [if_pos digit, if_pos digit]
    exact read_unsigned_append false (first :: later) following ends
  · rw [if_neg digit, if_neg digit]
    rfl

theorem read_value_rest (budget depth : Nat) (first : Char) (later : List Char)
    (isNumber : isNumberCharacter first = true) :
    Gives (fun _ rest => rest ⊆ first :: later) (readValue (budget + 1) depth (first :: later)) := by
  rw [read_value_number _ _ _ _ isNumber, read_leaf_number _ _ isNumber]
  split
  · exact (read_unsigned_gives true later).mono fun _ _ given =>
      List.subset_cons_of_subset _ given.2
  · split
    · exact (read_unsigned_gives false _).mono fun _ _ given => given.2
    · exact gives_throw

/-- A whole number among the values of JSON fits 64 bits. -/
def Fits : Json → Prop
  | .integer value => Word.holdsEither 63 value = true
  | _ => True

theorem IsNumeral.fits {value : Json} (numeral : IsNumeral value) : Fits value := by
  cases value <;> first | exact numeral | trivial

theorem read_word_gives (letters : List Char) (value : Json) (input : List Char)
    (fits : Fits value) : Gives (fun read _ => Fits read) (readWord letters value input) := by
  induction letters generalizing input with
  | nil => exact gives_pure fits
  | cons letter later induction =>
      cases input with
      | nil => exact gives_throw
      | cons character rest =>
          unfold readWord
          split
          · exact induction rest
          · exact gives_throw

theorem read_leaf_gives (first : Char) (rest : List Char) :
    Gives (fun value _ => Fits value) (readLeaf first rest) := by
  unfold readLeaf
  split
  · exact read_word_gives _ _ _ trivial
  · exact read_word_gives _ _ _ trivial
  · exact read_word_gives _ _ _ trivial
  · intro read member
    rw [to_option_bind] at member
    obtain ⟨text, -, same⟩ := Option.bind_eq_some_iff.mp member
    cases Option.some.inj same
    trivial
  · exact (read_unsigned_gives true rest).mono fun _ _ given => given.1.fits
  · split
    · exact (read_unsigned_gives false _).mono fun _ _ given => given.1.fits
    · exact gives_throw

theorem read_value_gives (budget depth : Nat) (input : List Char) :
    Gives (fun value _ => Fits value) (readValue budget depth input) := by
  have container {Inside : Type} (inside : Except Fault (Inside × List Char))
      (make : Inside → Json) (fits : ∀ held, Fits (make held)) :
      Gives (fun value _ => Fits value)
        (inside >>= fun read => pure (make read.1, read.2)) := by
    intro read member
    rw [to_option_bind] at member
    obtain ⟨held, -, same⟩ := Option.bind_eq_some_iff.mp member
    cases Option.some.inj same
    exact fits held.1
  cases budget with
  | zero => exact gives_throw
  | succ budget =>
      unfold readValue
      split
      · exact gives_throw
      · split
        · split
          · exact gives_throw
          · exact container _ Json.array fun _ => trivial
        · split
          · split
            · exact gives_throw
            · exact container _ Json.object fun _ => trivial
          · exact read_leaf_gives _ _

end CounterForms.Json
