import CounterForms.Json.Number
import CounterForms.Proofs.Outcome
import CounterForms.Proofs.Text.Basic
import Mathlib.Data.List.TakeDrop
import Mathlib.Data.List.TakeWhile

/-!
Numbers as parts of a text. The reader of numbers is indifferent to what follows: behind a text that
cannot go on with a number it reads the same as at the end. The numeral of a whole number that fits
64 bits reads back as that number.
-/

namespace CounterForms

namespace Json

def isNumberCharacter (character : Char) : Bool :=
  Text.isDigit character || character == '.' || character == 'e' || character == 'E' ||
    character == '+' || character == '-'

/-- A text that a number cannot go on with. -/
def EndsNumber (following : List Char) : Prop :=
  ∀ first ∈ following.head?, isNumberCharacter first = false

def withBehind {Content : Type} (following : List Char) (read : Content × List Char) :
    Content × List Char :=
  (read.1, read.2 ++ following)

theorem ends_number_cons (first : Char) (later : List Char)
    (ends : isNumberCharacter first = false) : EndsNumber (first :: later) := by
  simpa [EndsNumber] using ends

theorem EndsNumber.head_apart {first : Char} {later : List Char}
    (ends : EndsNumber (first :: later)) :
    Text.isDigit first = false ∧ first ≠ '.' ∧ first ≠ 'e' ∧ first ≠ 'E' ∧ first ≠ '+' ∧
      first ≠ '-' := by
  have apart := ends first (by simp)
  simpa [isNumberCharacter, and_assoc] using apart

theorem span_append_of_stop (input following : List Char)
    (stop : ∀ first ∈ following.head?, Text.isDigit first = false) :
    spanDigits (input ++ following) = withBehind following (spanDigits input) := by
  simp only [spanDigits, withBehind, List.span_eq_takeWhile_dropWhile]
  induction input with
  | nil =>
      cases following with
      | nil => rfl
      | cons first later =>
          have notDigit := stop first (by simp)
          simp [notDigit]
  | cons character later induction =>
      by_cases digit : Text.isDigit character = true
      · simpa [digit] using induction
      · simp [digit]

theorem read_digits_to_option (input : List Char) :
    (readDigits input).toOption =
      if (spanDigits input).1 = [] then none else some (spanDigits input) := by
  unfold readDigits
  cases spanned : spanDigits input with
  | mk digits rest =>
      cases digits with
      | nil => cases rest <;> rfl
      | cons digit later => rfl

theorem read_digits_append (input following : List Char) (ends : EndsNumber following) :
    (readDigits (input ++ following)).toOption =
      (readDigits input).toOption.map (withBehind following) := by
  have stop : ∀ first ∈ following.head?, Text.isDigit first = false := by
    cases following with
    | nil => simp
    | cons first later => simpa using ends.head_apart.1
  simp only [read_digits_to_option, span_append_of_stop input following stop]
  by_cases absent : (spanDigits input).1 = []
  · simp [absent, withBehind]
  · simp [absent, withBehind]

private def readSigned (down : Bool) (input : List Char) :
    Except Fault ((Bool × List Char) × List Char) := do
  let (digits, behind) ← readDigits input
  pure ((down, digits), behind)

private theorem read_signed_append (down : Bool) (input following : List Char)
    (ends : EndsNumber following) :
    (readSigned down (input ++ following)).toOption =
      (readSigned down input).toOption.map (withBehind following) := by
  rw [readSigned, readSigned, to_option_bind, to_option_bind,
    read_digits_append input following ends]
  cases (readDigits input).toOption <;> rfl

private theorem read_exponent_unsigned (input : List Char) (noMinus : input.head? ≠ some '-')
    (noPlus : input.head? ≠ some '+') : readExponent input = readSigned false input := by
  cases input with
  | nil => rfl
  | cons first later =>
      have notMinus : first ≠ '-' := by simpa using noMinus
      have notPlus : first ≠ '+' := by simpa using noPlus
      simp [readExponent, readSigned, notMinus, notPlus]

theorem read_exponent_append (input following : List Char) (ends : EndsNumber following) :
    (readExponent (input ++ following)).toOption =
      (readExponent input).toOption.map (withBehind following) := by
  by_cases minus : input.head? = some '-'
  · obtain ⟨later, rfl⟩ := List.head?_eq_some_iff.mp minus
    exact read_signed_append true later following ends
  by_cases plus : input.head? = some '+'
  · obtain ⟨later, rfl⟩ := List.head?_eq_some_iff.mp plus
    exact read_signed_append false later following ends
  have unsigned : ∀ sign, sign = '-' ∨ sign = '+' → (input ++ following).head? ≠ some sign := by
    intro sign isSign
    cases input with
    | nil =>
        cases following with
        | nil => simp
        | cons first later =>
            have apart := ends.head_apart
            rcases isSign with rfl | rfl <;> simp [apart]
    | cons first later => rcases isSign with rfl | rfl <;> assumption
  rw [read_exponent_unsigned input minus plus,
    read_exponent_unsigned (input ++ following) (unsigned _ (.inl rfl)) (unsigned _ (.inr rfl))]
  exact read_signed_append false input following ends

theorem finish_number_append (negative : Bool) (scaled : Scaled) (rest following : List Char) :
    (finishNumber negative scaled (rest ++ following)).toOption =
      (finishNumber negative scaled rest).toOption.map (withBehind following) := by
  unfold finishNumber
  cases scaled.toBinary negative <;> rfl

private def scaleEnd (negative : Bool) (scaled : Scaled) (down : Bool) (digits behind : List Char) :
    Except Fault (Json × List Char) :=
  if Text.digitsValue 10 digits < exponentLimit then
    finishNumber negative (scaled.raise down digits) behind
  else if scaled.significand ≠ 0 ∧ !down then throw .malformed
  else pure (.number (Binary64.zero negative), behind)

private theorem scale_end_append (negative : Bool) (scaled : Scaled) (down : Bool)
    (digits behind following : List Char) :
    (scaleEnd negative scaled down digits (behind ++ following)).toOption =
      (scaleEnd negative scaled down digits behind).toOption.map (withBehind following) := by
  unfold scaleEnd
  by_cases near : Text.digitsValue 10 digits < exponentLimit
  · rw [if_pos near, if_pos near]
    exact finish_number_append negative _ behind following
  rw [if_neg near, if_neg near]
  by_cases endless : scaled.significand ≠ 0 ∧ (!down) = true
  · rw [if_pos endless, if_pos endless]
    rfl
  · rw [if_neg endless, if_neg endless]
    rfl

private theorem read_scaled_end_marked (negative : Bool) (scaled : Scaled) (mark : Char)
    (isMark : mark = 'e' ∨ mark = 'E') (rest : List Char) :
    readScaledEnd negative scaled (mark :: rest) =
      readExponent rest >>= fun read => scaleEnd negative scaled read.1.1 read.1.2 read.2 := by
  rcases isMark with rfl | rfl <;> rfl

private theorem read_scaled_end_plain (negative : Bool) (scaled : Scaled) (input : List Char)
    (notSmall : input.head? ≠ some 'e') (notLarge : input.head? ≠ some 'E') :
    readScaledEnd negative scaled input = finishNumber negative scaled input := by
  cases input with
  | nil => rfl
  | cons first later =>
      have small : first ≠ 'e' := by simpa using notSmall
      have large : first ≠ 'E' := by simpa using notLarge
      simp [readScaledEnd, small, large]

private theorem exponent_cases (input : List Char) :
    (∃ mark rest, (mark = 'e' ∨ mark = 'E') ∧ input = mark :: rest) ∨
      (input.head? ≠ some 'e' ∧ input.head? ≠ some 'E') := by
  by_cases small : input.head? = some 'e'
  · obtain ⟨rest, rfl⟩ := List.head?_eq_some_iff.mp small
    exact .inl ⟨'e', rest, .inl rfl, rfl⟩
  by_cases large : input.head? = some 'E'
  · obtain ⟨rest, rfl⟩ := List.head?_eq_some_iff.mp large
    exact .inl ⟨'E', rest, .inr rfl, rfl⟩
  exact .inr ⟨small, large⟩

/-- Behind a text that ends a number stands no exponent. -/
theorem EndsNumber.no_mark {input following : List Char} (ends : EndsNumber following)
    (mark : Char) (isMark : mark = '.' ∨ mark = 'e' ∨ mark = 'E')
    (unmarked : input.head? ≠ some mark) : (input ++ following).head? ≠ some mark := by
  cases input with
  | cons first later => simpa using unmarked
  | nil =>
      cases following with
      | nil => simp
      | cons first later =>
          have apart := ends.head_apart
          rcases isMark with rfl | rfl | rfl <;> simp [apart]

theorem read_scaled_end_append (negative : Bool) (scaled : Scaled) (input following : List Char)
    (ends : EndsNumber following) :
    (readScaledEnd negative scaled (input ++ following)).toOption =
      (readScaledEnd negative scaled input).toOption.map (withBehind following) := by
  rcases exponent_cases input with ⟨mark, rest, isMark, rfl⟩ | ⟨notSmall, notLarge⟩
  · rw [List.cons_append, read_scaled_end_marked _ _ _ isMark,
      read_scaled_end_marked _ _ _ isMark, to_option_bind, to_option_bind,
      read_exponent_append rest following ends]
    cases (readExponent rest).toOption with
    | none => rfl
    | some exponent => exact scale_end_append negative scaled _ _ exponent.2 following
  · rw [read_scaled_end_plain _ _ _ notSmall notLarge,
      read_scaled_end_plain _ _ _ (ends.no_mark 'e' (by simp) notSmall)
        (ends.no_mark 'E' (by simp) notLarge)]
    exact finish_number_append negative scaled input following

private def readParts (negative : Bool) (whole : List Char × List Char) :
    Except Fault (Json × List Char) := do
  if whole.1.head? = some '0' ∧ whole.1.tail ≠ [] then throw .malformed
  let scaled := Scaled.takeWhole ⟨0, 0⟩ whole.1
  match whole.2 with
  | '.' :: behindPoint => do
      let (fraction, behind) ← readDigits behindPoint
      readScaledEnd negative (scaled.takeFraction fraction) behind
  | 'e' :: _ | 'E' :: _ => readScaledEnd negative scaled whole.2
  | _ =>
      match wholeNumber negative whole.1 with
      | some value => pure (value, whole.2)
      | none => throw .malformed

private theorem read_unsigned_eq (negative : Bool) (input : List Char) :
    readUnsigned negative input = readDigits input >>= readParts negative := rfl

private theorem read_parts_plain (negative : Bool) (digits rest : List Char)
    (noPoint : rest.head? ≠ some '.') (notSmall : rest.head? ≠ some 'e')
    (notLarge : rest.head? ≠ some 'E') (proper : ¬(digits.head? = some '0' ∧ digits.tail ≠ [])) :
    (readParts negative (digits, rest)).toOption =
      (wholeNumber negative digits).map fun value => (value, rest) := by
  have plain : readParts negative (digits, rest) =
      match wholeNumber negative digits with
      | some value => pure (value, rest)
      | none => throw .malformed := by
    cases rest with
    | nil => simp [readParts, proper]
    | cons first later =>
        have point : first ≠ '.' := by simpa using noPoint
        have small : first ≠ 'e' := by simpa using notSmall
        have large : first ≠ 'E' := by simpa using notLarge
        simp [readParts, proper, point, small, large]
  rw [plain]
  cases wholeNumber negative digits <;> rfl

private theorem read_parts_point (negative : Bool) (digits behindPoint : List Char)
    (proper : ¬(digits.head? = some '0' ∧ digits.tail ≠ [])) :
    readParts negative (digits, '.' :: behindPoint) =
      readDigits behindPoint >>= fun fraction =>
        readScaledEnd negative ((Scaled.takeWhole ⟨0, 0⟩ digits).takeFraction fraction.1)
          fraction.2 := by
  simp only [readParts, proper, if_false]

private theorem read_parts_marked (negative : Bool) (digits : List Char) (mark : Char)
    (isMark : mark = 'e' ∨ mark = 'E') (rest : List Char)
    (proper : ¬(digits.head? = some '0' ∧ digits.tail ≠ [])) :
    readParts negative (digits, mark :: rest) =
      readScaledEnd negative (Scaled.takeWhole ⟨0, 0⟩ digits) (mark :: rest) := by
  rcases isMark with rfl | rfl <;> simp only [readParts, proper, if_false]

private theorem read_parts_append (negative : Bool) (whole : List Char × List Char)
    (following : List Char) (ends : EndsNumber following) :
    (readParts negative (withBehind following whole)).toOption =
      (readParts negative whole).toOption.map (withBehind following) := by
  obtain ⟨digits, rest⟩ := whole
  simp only [withBehind]
  by_cases padded : digits.head? = some '0' ∧ digits.tail ≠ []
  · simp only [readParts, padded, ne_eq, not_false_eq_true, and_self, if_true]
    rfl
  by_cases point : rest.head? = some '.'
  · obtain ⟨behindPoint, rfl⟩ := List.head?_eq_some_iff.mp point
    rw [List.cons_append, read_parts_point _ _ _ padded, read_parts_point _ _ _ padded,
      to_option_bind, to_option_bind, read_digits_append behindPoint following ends]
    cases (readDigits behindPoint).toOption with
    | none => rfl
    | some fraction => exact read_scaled_end_append negative _ fraction.2 following ends
  rcases exponent_cases rest with ⟨mark, later, isMark, rfl⟩ | ⟨small, large⟩
  · rw [List.cons_append, read_parts_marked _ _ _ isMark _ padded,
      read_parts_marked _ _ _ isMark _ padded]
    exact read_scaled_end_append negative _ (mark :: later) following ends
  rw [read_parts_plain negative digits rest point small large padded,
    read_parts_plain negative digits (rest ++ following) (ends.no_mark '.' (by simp) point)
      (ends.no_mark 'e' (by simp) small) (ends.no_mark 'E' (by simp) large) padded]
  cases wholeNumber negative digits <;> rfl

/-- A number is read in the same way whatever follows it. -/
theorem read_unsigned_append (negative : Bool) (input following : List Char)
    (ends : EndsNumber following) :
    (readUnsigned negative (input ++ following)).toOption =
      (readUnsigned negative input).toOption.map (withBehind following) := by
  rw [read_unsigned_eq, read_unsigned_eq, to_option_bind, to_option_bind,
    read_digits_append input following ends]
  cases (readDigits input).toOption with
  | none => rfl
  | some whole => exact read_parts_append negative whole following ends

/-- What a reading gives, if it gives anything, has a property. -/
def Gives {Content : Type} (property : Content → List Char → Prop)
    (reading : Except Fault (Content × List Char)) : Prop :=
  ∀ read ∈ reading.toOption, property read.1 read.2

theorem gives_pure {Content : Type} {property : Content → List Char → Prop} {content : Content}
    {rest : List Char} (holds : property content rest) :
    Gives property (pure (content, rest)) := by
  intro read member
  cases Option.some.inj member
  exact holds

theorem gives_throw {Content : Type} {property : Content → List Char → Prop} {fault : Fault} :
    Gives property (throw fault) := by
  intro read member
  cases member

theorem Gives.bind {Content Other : Type} {earlier : Content → List Char → Prop}
    {later : Other → List Char → Prop} {first : Except Fault (Content × List Char)}
    {next : Content × List Char → Except Fault (Other × List Char)} (given : Gives earlier first)
    (step : ∀ content rest, earlier content rest → Gives later (next (content, rest))) :
    Gives later (first >>= next) := by
  cases first with
  | error fault => exact gives_throw
  | ok read => exact step read.1 read.2 (given read rfl)

theorem Gives.mono {Content : Type} {weak strong : Content → List Char → Prop}
    {reading : Except Fault (Content × List Char)} (given : Gives strong reading)
    (weaker : ∀ content rest, strong content rest → weak content rest) : Gives weak reading :=
  fun read member => weaker _ _ (given read member)

theorem read_digits_gives (input : List Char) :
    Gives (fun _ rest => rest ⊆ input) (readDigits input) := by
  intro read member
  rw [read_digits_to_option, spanDigits, List.span_eq_takeWhile_dropWhile] at member
  split at member
  · cases member
  · cases Option.some.inj member
    exact List.dropWhile_subset _

private theorem read_signed_gives (down : Bool) (input : List Char) :
    Gives (fun _ rest => rest ⊆ input) (readSigned down input) :=
  (read_digits_gives input).bind fun _ _ within => gives_pure within

theorem read_exponent_gives (input : List Char) :
    Gives (fun _ rest => rest ⊆ input) (readExponent input) := by
  by_cases minus : input.head? = some '-'
  · obtain ⟨later, rfl⟩ := List.head?_eq_some_iff.mp minus
    exact (read_signed_gives true later).mono fun _ _ within => List.subset_cons_of_subset _ within
  by_cases plus : input.head? = some '+'
  · obtain ⟨later, rfl⟩ := List.head?_eq_some_iff.mp plus
    exact (read_signed_gives false later).mono fun _ _ within => List.subset_cons_of_subset _ within
  rw [read_exponent_unsigned input minus plus]
  exact read_signed_gives false input

/-- A numeral has a whole number that fits 64 bits, or a binary number. -/
def IsNumeral : Json → Prop
  | .integer value => Word.holdsEither 63 value = true
  | .number _ => True
  | _ => False

private def NumberWithin (input : List Char) (value : Json) (rest : List Char) : Prop :=
  (∃ number, value = .number number) ∧ rest ⊆ input

private theorem finish_number_gives (negative : Bool) (scaled : Scaled) (rest : List Char) :
    Gives (NumberWithin rest) (finishNumber negative scaled rest) := by
  unfold finishNumber
  split
  · exact gives_pure ⟨⟨_, rfl⟩, List.Subset.refl rest⟩
  · exact gives_throw

private theorem scale_end_gives (negative : Bool) (scaled : Scaled) (down : Bool)
    (digits behind : List Char) :
    Gives (NumberWithin behind) (scaleEnd negative scaled down digits behind) := by
  unfold scaleEnd
  split
  · exact finish_number_gives negative _ behind
  · split
    · exact gives_throw
    · exact gives_pure ⟨⟨_, rfl⟩, List.Subset.refl behind⟩

private theorem read_scaled_end_gives (negative : Bool) (scaled : Scaled) (input : List Char) :
    Gives (NumberWithin input) (readScaledEnd negative scaled input) := by
  rcases exponent_cases input with ⟨mark, rest, isMark, rfl⟩ | ⟨notSmall, notLarge⟩
  · rw [read_scaled_end_marked _ _ _ isMark]
    refine (read_exponent_gives rest).bind fun exponent behind within => ?_
    refine (scale_end_gives negative scaled _ _ behind).mono fun value final given => ?_
    exact ⟨given.1, List.subset_cons_of_subset _ (List.Subset.trans given.2 within)⟩
  · rw [read_scaled_end_plain _ _ _ notSmall notLarge]
    exact finish_number_gives negative scaled input

/-- A whole number is kept exactly only if it fits 64 bits. -/
theorem whole_number_numeral (negative : Bool) (digits : List Char) (value : Json)
    (read : wholeNumber negative digits = some value) : IsNumeral value := by
  unfold wholeNumber at read
  dsimp only at read
  split at read
  next natural =>
    cases Option.some.inj read
    have fits : Word.holdsNatural 64 (Text.digitsValue 10 digits) = true := by
      simp only [Bool.and_eq_true] at natural
      exact natural.2
    exact fits
  next =>
    split at read
    next signed =>
      cases Option.some.inj read
      simp only [Bool.and_eq_true, decide_eq_true_eq] at signed
      obtain ⟨⟨-, positive⟩, fits⟩ := signed
      obtain ⟨beyond, same⟩ := Nat.exists_eq_succ_of_ne_zero (Nat.pos_iff_ne_zero.mp positive)
      rw [same] at fits ⊢
      exact fits
    next =>
      obtain ⟨number, -, rfl⟩ := Option.map_eq_some_iff.mp read
      trivial

private theorem read_parts_gives (negative : Bool) (digits rest : List Char) :
    Gives (fun value final => IsNumeral value ∧ final ⊆ rest) (readParts negative (digits, rest)) := by
  have ofNumber : ∀ value final, NumberWithin rest value final → IsNumeral value ∧ final ⊆ rest := by
    rintro value final ⟨⟨number, rfl⟩, within⟩
    exact ⟨trivial, within⟩
  by_cases padded : digits.head? = some '0' ∧ digits.tail ≠ []
  · simp only [readParts, padded, ne_eq, not_false_eq_true, and_self, if_true]
    exact gives_throw
  by_cases point : rest.head? = some '.'
  · obtain ⟨behindPoint, rfl⟩ := List.head?_eq_some_iff.mp point
    rw [read_parts_point _ _ _ padded]
    refine (read_digits_gives behindPoint).bind fun fraction behind within => ?_
    refine (read_scaled_end_gives negative _ behind).mono fun value final given => ?_
    have inside : final ⊆ behindPoint := List.Subset.trans given.2 within
    exact ofNumber value final ⟨given.1, List.subset_cons_of_subset _ inside⟩
  rcases exponent_cases rest with ⟨mark, later, isMark, rfl⟩ | ⟨small, large⟩
  · rw [read_parts_marked _ _ _ isMark _ padded]
    exact (read_scaled_end_gives negative _ _).mono ofNumber
  intro read member
  rw [read_parts_plain negative digits rest point small large padded] at member
  obtain ⟨value, whole, rfl⟩ := Option.map_eq_some_iff.mp member
  exact ⟨whole_number_numeral negative digits value whole, List.Subset.refl rest⟩

/-- A number that is read is a numeral, and what is left over comes from the input. -/
theorem read_unsigned_gives (negative : Bool) (input : List Char) :
    Gives (fun value rest => IsNumeral value ∧ rest ⊆ input) (readUnsigned negative input) := by
  rw [read_unsigned_eq]
  refine (read_digits_gives input).bind fun digits rest within => ?_
  refine (read_parts_gives negative digits rest).mono fun value final given => ?_
  exact ⟨given.1, List.Subset.trans given.2 within⟩

theorem read_unsigned_digits (negative : Bool) (digits : List Char) (filled : digits ≠ [])
    (decimal : ∀ digit ∈ digits, Text.isDigit digit = true)
    (proper : ¬(digits.head? = some '0' ∧ digits.tail ≠ [])) :
    (readUnsigned negative digits).toOption =
      (wholeNumber negative digits).map fun value => (value, []) := by
  have spanned : spanDigits digits = (digits, []) := by
    rw [spanDigits, List.span_eq_takeWhile_dropWhile, List.takeWhile_eq_self_iff.mpr decimal,
      List.dropWhile_eq_nil_iff.mpr decimal]
  rw [read_unsigned_eq, to_option_bind, read_digits_to_option, spanned]
  simp only [filled, if_false, Option.bind_some]
  exact read_parts_plain negative digits [] (by simp) (by simp) (by simp) proper

theorem numeral_proper (value : Nat) :
    ¬((Text.natNumeral value).head? = some '0' ∧ (Text.natNumeral value).tail ≠ []) := by
  rintro ⟨head, longer⟩
  have isZero := Text.nat_numeral_head_zero value head
  subst isZero
  exact longer (by rw [Text.nat_numeral_zero]; rfl)

/-- The numeral of a natural number below 2^64 is read as that number. -/
theorem read_nat_numeral (value : Nat) (fits : Word.holdsNatural 64 value = true) :
    (readUnsigned false (Text.natNumeral value)).toOption = some (.integer value, []) := by
  rw [read_unsigned_digits false _ (Text.nat_numeral_ne_nil value)
    (Text.nat_numeral_digits value) (numeral_proper value)]
  simp [wholeNumber, Text.digits_value_nat_numeral, fits]

/-- Behind a minus sign, the numeral of a number of 63 bits is read as the opposite number. -/
theorem read_negative_numeral (value : Nat) (fits : Word.holdsSigned 63 (.negSucc value) = true) :
    (readUnsigned true (Text.natNumeral (value + 1))).toOption =
      some (.integer (.negSucc value), []) := by
  have opposite : -((value + 1 : Nat) : Int) = .negSucc value := rfl
  rw [read_unsigned_digits true _ (Text.nat_numeral_ne_nil _) (Text.nat_numeral_digits _)
    (numeral_proper _)]
  simp only [wholeNumber, Text.digits_value_nat_numeral, opposite, fits]
  simp

theorem numeral_characters (value : Nat) :
    ∀ character ∈ Text.natNumeral value, isNumberCharacter character = true := by
  intro character member
  simp [isNumberCharacter, Text.nat_numeral_digits value character member]

theorem zeros_characters (count : Nat) :
    ∀ character ∈ List.replicate count '0', isNumberCharacter character = true := by
  intro character member
  rw [List.eq_of_mem_replicate member]
  rfl

theorem positional_characters (decimal : Decimal) :
    ∀ character ∈ decimal.positional, isNumberCharacter character = true := by
  obtain ⟨digits, exponent⟩ := decimal
  have padded (zeros : Nat) : ∀ character ∈ List.replicate zeros '0' ++ Text.natNumeral digits,
      isNumberCharacter character = true := by
    intro character member
    rcases List.mem_append.mp member with zero | digit
    · exact zeros_characters _ character zero
    · exact numeral_characters _ character digit
  have point : isNumberCharacter '.' = true := rfl
  have zero : isNumberCharacter '0' = true := rfl
  cases exponent with
  | ofNat zeros =>
      simp only [Decimal.positional, List.forall_mem_append, List.forall_mem_cons, point, zero,
        true_and]
      exact ⟨⟨numeral_characters _, zeros_characters _⟩, by simp⟩
  | negSucc places =>
      simp only [Decimal.positional, List.forall_mem_append, List.forall_mem_singleton, point,
        and_true]
      exact ⟨fun character member => padded _ character (List.mem_of_mem_take member),
        fun character member => padded _ character (List.mem_of_mem_drop member)⟩

theorem scientific_characters (decimal : Decimal) :
    ∀ character ∈ decimal.scientific, isNumberCharacter character = true := by
  intro character member
  simp only [Decimal.scientific, List.mem_append, List.mem_cons, List.not_mem_nil, or_false]
    at member
  rcases member with ((shown | rfl | sign) | zero | digit)
  · have written := numeral_characters decimal.digits
    split at shown
    next => cases shown
    next digit numeral => exact written character (numeral ▸ shown)
    next digit others _ numeral =>
      rw [numeral] at written
      rcases List.mem_cons.mp shown with rfl | behind
      · exact written character (by simp)
      · rcases List.mem_cons.mp behind with rfl | later
        · rfl
        · exact written character (List.mem_cons_of_mem _ later)
  · rfl
  · subst sign
    split <;> rfl
  · exact zeros_characters _ character zero
  · exact numeral_characters _ character digit

theorem number_text_characters (number : Binary64) :
    ∀ character ∈ numberText number, isNumberCharacter character = true := by
  have unsigned : ∀ decimal : Decimal, ∀ character ∈
      (if -5 ≤ decimal.leading ∧ decimal.leading ≤ 15 then decimal.positional
        else decimal.scientific), isNumberCharacter character = true := by
    intro decimal
    split
    · exact positional_characters decimal
    · exact scientific_characters decimal
  intro character member
  simp only [numberText] at member
  split at member
  · rcases List.mem_cons.mp member with rfl | digit
    · rfl
    · exact unsigned _ character digit
  · exact unsigned _ character member

end Json

end CounterForms
