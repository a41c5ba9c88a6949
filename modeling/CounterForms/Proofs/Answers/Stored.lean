import CounterForms.Answers.Stored
import CounterForms.Proofs.Json.Reader

/-!
Single values of an answers file. The text of a value is read in the same way whatever follows it.
Null and whole numbers of 64 bits are read again as what they were; a binary number is if the reader
takes its text for that number.
-/

namespace CounterForms

theorem Word.holds_either_iff (value : Int) : holdsEither 63 value = true ↔
    -9223372036854775808 ≤ value ∧ value < 18446744073709551616 := by
  have signed : count 63 = 9223372036854775808 := rfl
  have natural : count (63 + 1) = 18446744073709551616 := rfl
  cases value with
  | ofNat magnitude =>
      simp only [holdsEither, decide_eq_true_eq, Int.ofNat_eq_natCast]
      omega
  | negSucc beyond =>
      simp only [holdsEither, decide_eq_true_eq, Int.negSucc_eq]
      omega

open Json

namespace StoredAnswer

/-- The value of JSON that the text of a stored answer is read as, if it is one. -/
def json? (stored : StoredAnswer) : Option Json :=
  match readValue 1 0 stored.text with
  | .ok (value, []) => some value
  | _ => none

/-- What becomes of a stored answer that is written and read again, if it is accepted. -/
def reread? (stored : StoredAnswer) : Option StoredAnswer := stored.json?.bind ofJson?

/-- What an answers file may hold: null, whole numbers of 64 bits, and whole binary numbers. -/
def Storable : StoredAnswer → Prop
  | absent => True
  | integer value => Word.holdsEither 63 value = true
  | floating value => value.isWhole = true

theorem positional_ne_nil (decimal : Decimal) : decimal.positional ≠ [] := by
  obtain ⟨digits, exponent⟩ := decimal
  cases exponent <;> simp [Decimal.positional]

theorem scientific_ne_nil (decimal : Decimal) : decimal.scientific ≠ [] := by
  simp [Decimal.scientific]

theorem number_text_ne_nil (number : Binary64) : numberText number ≠ [] := by
  simp only [numberText]
  split
  · simp
  · split
    · exact positional_ne_nil _
    · exact scientific_ne_nil _

theorem int_numeral_characters (value : Int) :
    ∀ character ∈ Text.intNumeral value, isNumberCharacter character = true := by
  intro character member
  cases value with
  | ofNat value => exact numeral_characters value character member
  | negSucc value =>
      rcases List.mem_cons.mp member with rfl | digit
      · rfl
      · exact numeral_characters (value + 1) character digit

theorem int_numeral_ne_nil (value : Int) : Text.intNumeral value ≠ [] := by
  cases value with
  | ofNat value => exact Text.nat_numeral_ne_nil value
  | negSucc value => simp [Text.intNumeral]

theorem text_cases (stored : StoredAnswer) :
    stored = absent ∨ ∃ first later, stored.text = first :: later ∧
      ∀ character ∈ first :: later, isNumberCharacter character = true := by
  have shown (text : List Char) (filled : text ≠ [])
      (written : ∀ character ∈ text, isNumberCharacter character = true) :
      ∃ first later, text = first :: later ∧
        ∀ character ∈ first :: later, isNumberCharacter character = true := by
    obtain ⟨first, later, rfl⟩ := List.exists_cons_of_ne_nil filled
    exact ⟨first, later, rfl, written⟩
  cases stored with
  | absent => exact .inl rfl
  | integer value =>
      exact .inr (shown _ (int_numeral_ne_nil value) (int_numeral_characters value))
  | floating value =>
      exact .inr (shown _ (number_text_ne_nil value) (number_text_characters value))

/-- The text of a stored answer is read in the same way whatever follows it. -/
theorem read_text_append (stored : StoredAnswer) (budget depth : Nat) (following : List Char)
    (ends : EndsNumber following) :
    (readValue (budget + 1) depth (stored.text ++ following)).toOption =
      (readValue 1 0 stored.text).toOption.map (withBehind following) := by
  rcases stored.text_cases with rfl | ⟨first, later, written, characters⟩
  · rfl
  · rw [written]
    exact read_value_append budget depth first later following (characters first (by simp)) ends

theorem read_text_rest (stored : StoredAnswer) :
    ∀ read ∈ (readValue 1 0 stored.text).toOption,
      ∀ character ∈ read.2, isNumberCharacter character = true := by
  intro read member character isRest
  rcases stored.text_cases with rfl | ⟨first, later, written, characters⟩
  · cases Option.some.inj member
    simp at isRest
  · rw [written] at member
    exact characters character
      (read_value_rest 0 0 first later (characters first (by simp)) read member isRest)

theorem json_eq (stored : StoredAnswer) :
    stored.json? = (readValue 1 0 stored.text).toOption.bind fun read =>
      if read.2 = [] then some read.1 else none := by
  unfold json?
  cases readValue 1 0 stored.text with
  | error fault => rfl
  | ok read =>
      obtain ⟨value, rest⟩ := read
      cases rest <;> rfl

/-- A whole number that fits 64 bits is read again as that number. -/
theorem json_integer (value : Int) (fits : Word.holdsEither 63 value = true) :
    (integer value).json? = some (.integer value) := by
  have read : (readValue 1 0 (integer value).text).toOption = some (.integer value, []) := by
    obtain same | ⟨first, later, written, characters⟩ := (integer value).text_cases
    · cases same
    have isNumber := characters first (by simp)
    rw [written, read_value_number 0 0 first later isNumber, read_leaf_number first later isNumber]
    cases value with
    | ofNat value =>
        have numeral : Text.natNumeral value = first :: later := written
        have digit : Text.isDigit first = true :=
          Text.nat_numeral_digits value first (by rw [numeral]; simp)
        have noMinus : first ≠ '-' := by
          rintro rfl
          exact absurd digit (by decide)
        rw [if_neg noMinus, if_pos digit, ← numeral]
        exact read_nat_numeral value fits
    | negSucc value =>
        have numeral : '-' :: Text.natNumeral (value + 1) = first :: later := written
        obtain ⟨minus, digits⟩ := List.cons_eq_cons.mp numeral
        rw [if_pos minus.symm, ← digits]
        exact read_negative_numeral value fits
  rw [json_eq, read]
  rfl

theorem reread_absent : absent.reread? = some absent := rfl

theorem reread_integer (value : Int) (fits : Word.holdsEither 63 value = true) :
    (integer value).reread? = some (integer value) := by
  rw [reread?, json_integer value fits]
  rfl

end StoredAnswer

end CounterForms
