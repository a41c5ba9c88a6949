import CounterForms.Proofs.Key.Reading
import CounterForms.Proofs.Text.Basic
import CounterForms.Proofs.Text.LowerCase

/-!
Names of keys. A name, in small letters, is one that is listed for a key, or the letter of the
function keys with the number of one behind it. Between the letter and the number a plus sign and
zeros may stand, as they may in front of any number that is read; no other spelling is a name.
-/

namespace CounterForms

namespace KeyCode

def Listed (text : String) (code : KeyCode) : Prop :=
  ∃ key ∈ namedKeys, text ∈ key.names ∧ key.code = code

def Numbered (padding : List Char) (text : String) (code : KeyCode) : Prop :=
  ∃ number, 1 ≤ number ∧ number ≤ 12 ∧
    text.toList = 'f' :: (padding ++ Text.natNumeral number) ∧ code = .function number

inductive Padding : List Char → Prop
  | zeros (count : Nat) : Padding (List.replicate count '0')
  | signed (count : Nat) : Padding ('+' :: List.replicate count '0')

/-- A name that the key has in any case of its letters: listed for it, or `f1` to `f12`. -/
def Called (name : String) (code : KeyCode) : Prop :=
  Listed (Text.lowerCase name) code ∨ Numbered [] (Text.lowerCase name) code

def Padded (name : String) (code : KeyCode) : Prop :=
  ∃ padding, padding ≠ [] ∧ Padding padding ∧ Numbered padding (Text.lowerCase name) code

theorem listed_apart : ∀ one ∈ namedKeys, ∀ other ∈ namedKeys, ∀ text ∈ one.names,
    text ∈ other.names → one.code = other.code := by
  decide +kernel

theorem listed_other_letter : ∀ key ∈ namedKeys, ∀ text ∈ key.names,
    text.toList.head? ≠ some 'f' := by
  decide +kernel

/-- The first key that is found by a name is the only one that it is listed for. -/
theorem listed_iff (text : String) (code : KeyCode) :
    (namedKeys.find? fun key => key.names.contains text).map NamedKey.code = some code ↔
      Listed text code := by
  constructor
  · intro found
    obtain ⟨key, isFirst, isCode⟩ := Option.map_eq_some_iff.mp found
    have named := List.find?_some isFirst
    exact ⟨key, List.mem_of_find?_eq_some isFirst, by simpa using named, isCode⟩
  · rintro ⟨key, member, named, rfl⟩
    cases found : namedKeys.find? fun key => key.names.contains text with
    | none =>
        have unnamed := List.find?_eq_none.mp found key member
        exact absurd (by simpa using named) unnamed
    | some first =>
        have firstNamed : text ∈ first.names := by simpa using List.find?_some found
        have same := listed_apart first (List.mem_of_find?_eq_some found) key member text firstNamed
          named
        exact congrArg some same

/-- Digits without a sign are the number of a function key if they are its numeral, with zeros in
front of it. -/
theorem function_number_unsigned (unsigned : List Char) (number : Nat) :
    (if !unsigned.isEmpty && unsigned.all Text.isDigit && 1 ≤ Text.digitsValue 10 unsigned &&
        Text.digitsValue 10 unsigned ≤ 12 then some (Text.digitsValue 10 unsigned) else none) =
      some number ↔
      1 ≤ number ∧ number ≤ 12 ∧
        ∃ zeros, unsigned = List.replicate zeros '0' ++ Text.natNumeral number := by
  rw [Option.ite_none_right_eq_some]
  simp only [Bool.and_eq_true, Bool.not_eq_true', List.isEmpty_eq_false_iff, List.all_eq_true,
    decide_eq_true_eq]
  constructor
  · rintro ⟨⟨⟨⟨-, decimal⟩, first⟩, last⟩, read⟩
    cases read
    exact ⟨first, last, (Text.digits_value_iff unsigned _ first).mp ⟨decimal, rfl⟩⟩
  · rintro ⟨first, last, shape⟩
    obtain ⟨decimal, worth⟩ := (Text.digits_value_iff unsigned number first).mpr shape
    have filled : unsigned ≠ [] := by
      rintro rfl
      cases worth
      exact absurd first (by decide)
    rw [worth]
    exact ⟨⟨⟨⟨filled, decimal⟩, first⟩, last⟩, rfl⟩

theorem function_number_iff (digits : List Char) (number : Nat) :
    functionNumber? digits = some number ↔
      1 ≤ number ∧ number ≤ 12 ∧
        ∃ padding, Padding padding ∧ digits = padding ++ Text.natNumeral number := by
  unfold functionNumber?
  dsimp only
  split
  next unsigned =>
    rw [function_number_unsigned]
    constructor
    · rintro ⟨first, last, zeros, rfl⟩
      exact ⟨first, last, _, .signed zeros, rfl⟩
    · rintro ⟨first, last, padding, padded, shape⟩
      cases padded with
      | signed count => exact ⟨first, last, count, (List.cons.inj shape).2⟩
      | zeros count =>
          have decimal := ((Text.digits_value_iff _ number first).mpr ⟨count, shape⟩).1
          exact absurd (decimal '+' List.mem_cons_self) (by decide)
  next unsignedDigits unsigned =>
    rw [function_number_unsigned]
    constructor
    · rintro ⟨first, last, zeros, rfl⟩
      exact ⟨first, last, _, .zeros zeros, rfl⟩
    · rintro ⟨first, last, padding, padded, shape⟩
      cases padded with
      | signed count => exact absurd shape (unsigned _)
      | zeros count => exact ⟨first, last, count, shape⟩

theorem numbered_unlisted (padding : List Char) (text : String) (one other : KeyCode)
    (numbered : Numbered padding text one) : ¬Listed text other := by
  obtain ⟨number, -, -, shape, -⟩ := numbered
  rintro ⟨key, member, named, -⟩
  apply listed_other_letter key member text named
  rw [shape]
  rfl

theorem named_iff (name : String) (code : KeyCode) :
    named? name = some code ↔
      Listed (Text.lowerCase name) code ∨
        ∃ padding, Padding padding ∧ Numbered padding (Text.lowerCase name) code := by
  unfold named?
  dsimp only
  generalize Text.lowerCase name = text
  rw [← listed_iff]
  cases found : namedKeys.find? fun key => key.names.contains text with
  | some key =>
      have listed : Listed text key.code := (listed_iff text key.code).mp (by rw [found]; rfl)
      apply (or_iff_left _).symm
      rintro ⟨padding, -, numbered⟩
      exact numbered_unlisted padding text code key.code numbered listed
  | none =>
      rw [Option.map_none, or_iff_right nofun]
      dsimp only
      split
      next digits letter =>
        rw [Option.map_eq_some_iff]
        constructor
        · rintro ⟨number, read, rfl⟩
          obtain ⟨first, last, padding, padded, shape⟩ :=
            (function_number_iff digits number).mp read
          exact ⟨padding, padded, number, first, last, by rw [letter, shape], rfl⟩
        · rintro ⟨padding, padded, number, first, last, shape, rfl⟩
          rw [letter] at shape
          exact ⟨number, (function_number_iff digits number).mpr
            ⟨first, last, padding, padded, (List.cons.inj shape).2⟩, rfl⟩
      next other =>
        apply iff_of_false nofun
        rintro ⟨padding, -, number, -, -, shape, -⟩
        exact other _ shape

/-- A name is called or padded, and not both. -/
theorem named_called (name : String) (code : KeyCode) :
    named? name = some code ↔ Called name code ∨ Padded name code := by
  rw [named_iff, Called, or_assoc]
  apply or_congr_right
  constructor
  · rintro ⟨padding, padded, numbered⟩
    by_cases none : padding = []
    · subst none
      exact .inl numbered
    · exact .inr ⟨padding, none, padded, numbered⟩
  · rintro (numbered | ⟨padding, -, padded, numbered⟩)
    · exact ⟨[], .zeros 0, numbered⟩
    · exact ⟨padding, padded, numbered⟩

theorem padded_uncalled (name : String) (one other : KeyCode) (padded : Padded name one) :
    ¬Called name other := by
  obtain ⟨padding, filled, isPadding, numbered⟩ := padded
  rintro (listed | ⟨otherNumber, positive, -, otherShape, -⟩)
  · exact numbered_unlisted padding _ one other numbered listed
  · obtain ⟨number, -, -, shape, -⟩ := numbered
    rw [shape] at otherShape
    have same : padding ++ Text.natNumeral number = Text.natNumeral otherNumber :=
      (List.cons.inj otherShape).2
    -- A numeral starts neither with a plus sign nor, unless it is that of zero, with a zero.
    cases isPadding with
    | signed count =>
        have digit := Text.nat_numeral_digits otherNumber '+' (by rw [← same]; simp)
        exact absurd digit (by decide)
    | zeros count =>
        cases count with
        | zero => exact filled rfl
        | succ count =>
            have zero := Text.nat_numeral_head_zero otherNumber (by rw [← same]; rfl)
            exact absurd positive (by rw [zero]; decide)

/-- What names keys have, and what else is read as one. A key is read from every name that it is
called by, and from its number as a function key with a plus sign or zeros in front of it; any other
name is refused and reported as it was given. So a key is read from just the names that it is called
by, unless the name is padded like that. -/
theorem of_name_exact (name : String) :
    (∀ code, ofName name = .ok code ↔ Called name code ∨ Padded name code) ∧
    (∀ one other, Padded name one → ¬Called name other) ∧
    (∀ fault, ofName name = .error fault ↔
      fault = .key name ∧ ∀ code, ¬Called name code ∧ ¬Padded name code) ∧
    ((∀ code, ofName name = .ok code ↔ Called name code) ↔ ∀ code, ¬Padded name code) := by
  have accepts (code : KeyCode) : ofName name = .ok code ↔ Called name code ∨ Padded name code :=
    (of_name_ok name code).trans (named_called name code)
  refine ⟨accepts, padded_uncalled name, ?_, ?_⟩
  · intro fault
    have unnamed : named? name = none ↔ ∀ code, ¬Called name code ∧ ¬Padded name code := by
      rw [Option.eq_none_iff_forall_ne_some]
      apply forall_congr'
      intro code
      rw [← not_or, ← named_called]
    rw [of_name_error, unnamed, and_comm]
  · constructor
    · intro calls code padded
      have called := (calls code).mp ((accepts code).mpr (.inr padded))
      exact padded_uncalled name code code padded called
    · intro unpadded code
      rw [accepts]
      exact or_iff_left (unpadded code)

/-- A number with a zero in front of it, and one that no function key has. -/
theorem of_name_exact_numbers :
    Padded "F012" (.function 12) ∧ ofName "F012" = .ok (.function 12) ∧
      (∀ code, ¬Called "F012" code) ∧ ∀ code, ¬Called "f13" code := by
  have padded : Padded "F012" (.function 12) :=
    ⟨['0'], List.cons_ne_nil _ _, .zeros 1, 12, by decide, by decide, by decide +kernel, rfl⟩
  obtain ⟨accepted, uncalled, -⟩ := of_name_exact "F012"
  obtain ⟨-, -, refused, -⟩ := of_name_exact "f13"
  have failed : ofName "f13" = .error (.key "f13") := by decide +kernel
  exact ⟨padded, (accepted _).mpr (.inr padded), fun code => uncalled _ code padded,
    fun code => (((refused _).mp failed).2 code).1⟩

/-- The number of a function key may be written with a sign, though no key is called that. -/
theorem signed_number_read : ofName "f+5" = .ok (.function 5) ∧ ∀ code, ¬Called "f+5" code := by
  have padded : Padded "f+5" (.function 5) :=
    ⟨['+'], List.cons_ne_nil _ _, .signed 0, 5, by decide, by decide, by decide +kernel, rfl⟩
  exact ⟨(of_name_ok _ _).mpr ((named_called _ _).mpr (.inr padded)),
    fun code => padded_uncalled "f+5" _ code padded⟩

end KeyCode

end CounterForms
