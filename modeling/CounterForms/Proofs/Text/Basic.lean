import CounterForms.Text.Basic
import Mathlib.Data.List.Induction

/-!
Texts with something to see in them, and what decimal numerals say. A numeral holds digits only,
starts with a zero only if it is the numeral of zero, and is worth the number it was made from.
Nothing else that is written like that is worth the same number.
-/

namespace CounterForms.Text

/-- A text with a character that is no blank. -/
def Shows (text : String) : Prop := ∃ character ∈ text.toList, isBlank character = false

theorem shows_iff (text : String) : isBlankText text = false ↔ Shows text := by
  simp [isBlankText, Shows]

theorem blank_iff (text : String) : isBlankText text = true ↔ ¬Shows text := by
  simp [isBlankText, Shows]

theorem drop_no_blanks (characters : List Char)
    (visible : ∀ character ∈ characters, isBlank character = false) :
    characters.dropWhile isBlank = characters := by
  cases characters with
  | nil => rfl
  | cons first later => rw [List.dropWhile_cons, visible first (by simp), if_neg (by decide)]

theorem trim_blanks_between (before middle after : List Char)
    (blankBefore : ∀ character ∈ before, isBlank character = true)
    (blankAfter : ∀ character ∈ after, isBlank character = true)
    (visible : ∀ character ∈ middle, isBlank character = false) :
    trimBlanks (before ++ (middle ++ after)) = middle := by
  rw [trimBlanks, List.dropWhile_append_of_pos blankBefore]
  cases middle with
  | nil =>
      rw [List.nil_append, ← List.append_nil after, List.dropWhile_append_of_pos blankAfter]
      rfl
  | cons first later =>
      have stays : (first :: later ++ after).dropWhile isBlank = first :: later ++ after := by
        rw [List.cons_append, List.dropWhile_cons, visible first (by simp), if_neg (by decide)]
      have reversed : ∀ character ∈ (first :: later).reverse, isBlank character = false :=
        fun character member => visible character (List.mem_reverse.mp member)
      have blankReversed : ∀ character ∈ after.reverse, isBlank character = true :=
        fun character member => blankAfter character (List.mem_reverse.mp member)
      rw [stays, List.reverse_append, List.dropWhile_append_of_pos blankReversed,
        drop_no_blanks _ reversed, List.reverse_reverse]

theorem is_digit_eq (character : Char) : isDigit character = character.isDigit := rfl

theorem nat_numeral_ne_nil (value : Nat) : natNumeral value ≠ [] := Nat.toDigits_ne_nil

theorem nat_numeral_digits (value : Nat) (digit : Char) (member : digit ∈ natNumeral value) :
    isDigit digit = true := by
  rw [is_digit_eq]
  exact Nat.isDigit_of_mem_toDigits (by decide) (by decide) member

theorem nat_numeral_zero : natNumeral 0 = ['0'] := Nat.toDigits_zero 10

theorem digit_value_of_digit (digit : Char) (isDecimal : isDigit digit = true) :
    digitValue digit = digit.toNat - '0'.toNat := by
  simp [digitValue, isDecimal]

/-- Digits of any text are valued like the digits of a numeral of the standard library. -/
theorem digits_value_eq (digits : List Char) (value : Nat)
    (decimal : ∀ digit ∈ digits, isDigit digit = true) :
    digits.foldl (fun value digit => value * 10 + digitValue digit) value =
      Nat.ofDigitChars 10 digits value := by
  induction digits generalizing value with
  | nil => simp
  | cons digit later induction =>
      have head := digit_value_of_digit digit (decimal digit (by simp))
      rw [List.foldl_cons, Nat.ofDigitChars_cons, head, Nat.mul_comm value 10]
      exact induction _ (fun other member => decimal other (by simp [member]))

theorem digits_value_nat_numeral (value : Nat) : digitsValue 10 (natNumeral value) = value := by
  rw [digitsValue, digits_value_eq _ _ (nat_numeral_digits value)]
  exact Nat.ofDigitChars_ten_toDigits

theorem nat_numeral_head_zero (value : Nat) (head : (natNumeral value).head? = some '0') :
    value = 0 := by
  induction value using Nat.base_induction 10 (by decide) with
  | single small below =>
      rw [natNumeral, Nat.toDigits_of_lt_base below] at head
      simpa using head
  | digit leading last lastBelow positive induction =>
      have isZero : leading = 0 := by
        apply induction
        rw [natNumeral, ← Nat.toDigits_append_toDigits (by decide) positive lastBelow] at head
        cases digits : natNumeral leading with
        | nil => exact absurd digits (nat_numeral_ne_nil leading)
        | cons first later =>
            rw [natNumeral] at digits
            rw [digits] at head
            exact head
      omega

/-- Digits that are worth a number, without a zero in front. -/
structure Spells (digits : List Char) (value : Nat) : Prop where
  filled : digits ≠ []
  decimal : ∀ digit ∈ digits, isDigit digit = true
  proper : digits.head? = some '0' → digits = ['0']
  worth : digitsValue 10 digits = value

theorem nat_numeral_spells (value : Nat) : Spells (natNumeral value) value where
  filled := nat_numeral_ne_nil value
  decimal := nat_numeral_digits value
  proper := by
    intro head
    have isZero := nat_numeral_head_zero value head
    rw [isZero, nat_numeral_zero]
  worth := digits_value_nat_numeral value

theorem digit_range (digit : Char) (isDecimal : isDigit digit = true) :
    48 ≤ digit.toNat ∧ digit.toNat ≤ 57 := by
  unfold isDigit at isDecimal
  rw [Bool.and_eq_true, decide_eq_true_eq, decide_eq_true_eq] at isDecimal
  exact isDecimal

theorem digit_value_lt (digit : Char) (isDecimal : isDigit digit = true) :
    digitValue digit < 10 := by
  have range := digit_range digit isDecimal
  have value : digitValue digit = digit.toNat - 48 := digit_value_of_digit digit isDecimal
  omega

theorem nat_numeral_digit (digit : Char) (isDecimal : isDigit digit = true) :
    natNumeral (digitValue digit) = [digit] := by
  have range := digit_range digit isDecimal
  have small := digit_value_lt digit isDecimal
  have value : digitValue digit = digit.toNat - 48 := digit_value_of_digit digit isDecimal
  have same : (digitValue digit).digitChar = digit := by
    apply Char.toNat_inj.mp
    rw [Nat.toNat_digitChar_of_lt_ten small]
    omega
  rw [natNumeral, Nat.toDigits_of_lt_base small, same]

theorem digits_value_snoc (base : Nat) (leading : List Char) (last : Char) :
    digitsValue base (leading ++ [last]) =
      digitsValue base leading * base + digitValue last := by
  simp [digitsValue]

/-- Digits without a zero in front are the numeral of what they are worth. -/
theorem nat_numeral_digits_value (digits : List Char) (filled : digits ≠ [])
    (decimal : ∀ digit ∈ digits, isDigit digit = true) (proper : digits.head? ≠ some '0') :
    natNumeral (digitsValue 10 digits) = digits := by
  induction digits using List.reverseRecOn with
  | nil => exact absurd rfl filled
  | append_singleton leading last induction =>
      have lastDecimal := decimal last (by simp)
      have lastSmall := digit_value_lt last lastDecimal
      rw [digits_value_snoc]
      by_cases alone : leading = []
      · subst alone
        have worth : digitsValue 10 [] * 10 + digitValue last = digitValue last := by
          simp [digitsValue]
        rw [worth]
        exact nat_numeral_digit last lastDecimal
      · have leadingDecimal : ∀ digit ∈ leading, isDigit digit = true := by
          intro digit member
          exact decimal digit (by simp [member])
        have leadingProper : leading.head? ≠ some '0' := by
          cases leading with
          | nil => exact absurd rfl alone
          | cons first later => exact proper
        have numeral := induction alone leadingDecimal leadingProper
        -- Worth nothing, the leading digits would be the numeral of zero, which starts with a zero.
        have positive : 0 < digitsValue 10 leading := by
          apply Nat.pos_of_ne_zero
          intro isZero
          rw [isZero, nat_numeral_zero] at numeral
          rw [← numeral] at leadingProper
          exact leadingProper rfl
        have joined := Nat.toDigits_append_toDigits (by decide) positive lastSmall
        rw [Nat.mul_comm 10] at joined
        change natNumeral _ ++ natNumeral _ = natNumeral _ at joined
        rw [← joined, numeral, nat_numeral_digit last lastDecimal]

/-- A number has one spelling, its numeral. -/
theorem spells_iff (digits : List Char) (value : Nat) :
    Spells digits value ↔ digits = natNumeral value := by
  constructor
  · intro spells
    rw [← spells.worth]
    by_cases zero : digits.head? = some '0'
    · rw [spells.proper zero]
      exact nat_numeral_zero.symm
    · exact (nat_numeral_digits_value digits spells.filled spells.decimal zero).symm
  · rintro rfl
    exact nat_numeral_spells value

theorem digits_value_zeros (zeros : Nat) (digits : List Char) :
    digitsValue 10 (List.replicate zeros '0' ++ digits) = digitsValue 10 digits := by
  induction zeros with
  | zero => rfl
  | succ zeros induction =>
      rw [List.replicate_succ, List.cons_append, ← induction]
      rfl

/-- Digits that are worth a number other than zero are its numeral, with zeros in front of it. -/
theorem digits_value_iff (digits : List Char) (value : Nat) (positive : 0 < value) :
    (∀ digit ∈ digits, isDigit digit = true) ∧ digitsValue 10 digits = value ↔
      ∃ zeros, digits = List.replicate zeros '0' ++ natNumeral value := by
  constructor
  · rintro ⟨decimal, rfl⟩
    induction digits with
    | nil => exact absurd positive (Nat.lt_irrefl 0)
    | cons first later induction =>
        by_cases zero : first = '0'
        · subst zero
          have same : digitsValue 10 ('0' :: later) = digitsValue 10 later :=
            digits_value_zeros 1 later
          rw [same] at positive ⊢
          obtain ⟨zeros, shape⟩ :=
            induction (fun digit member => decimal digit (List.mem_cons_of_mem _ member)) positive
          exact ⟨zeros + 1, congrArg (List.cons '0') shape⟩
        · have proper : (first :: later).head? ≠ some '0' := by simpa using zero
          exact ⟨0, (nat_numeral_digits_value _ (List.cons_ne_nil _ _) decimal proper).symm⟩
  · rintro ⟨zeros, rfl⟩
    constructor
    · intro digit member
      rcases List.mem_append.mp member with isZero | inNumeral
      · rw [List.eq_of_mem_replicate isZero]
        rfl
      · exact nat_numeral_digits value digit inNumeral
    · rw [digits_value_zeros, digits_value_nat_numeral]

end CounterForms.Text
