import CounterForms.Proofs.Key.Grammar

/-!
Bindings of a single character. What a terminal reports for typed characters tells them apart, so
that a character is bound for itself alone. Its own report is answered if it comes without Shift, or
if the character is one of the capitals from A to Z, which are bound with Shift. Any other upper
case character is bound without Shift and reported with it, so that typing it does nothing.
-/

namespace CounterForms

theorem small_letters_lower : ∀ code ∈ List.range' 97 26,
    Text.isUpperCase (Char.ofNat code) = false := by
  decide +kernel

theorem to_lower_lower_case (character : Char) (capital : IsCapital character) :
    Text.isUpperCase character.toLower = false := by
  have code := to_lower_code character capital
  have inside : character.toLower.toNat ∈ List.range' 97 26 := by
    rw [List.mem_range'_1]
    unfold IsCapital at capital
    omega
  rw [← Char.ofNat_toNat character.toLower]
  exact small_letters_lower _ inside

namespace ReportedChord

theorem typed_capital (character : Char) (capital : IsCapital character) :
    (typed character).lowered =
      (Chord.mk (.character character.toLower) { shift := true }).reported := by
  show (if character.isUpper then _ else _) = _
  rw [if_pos ((is_upper_iff character).mpr capital)]
  rfl

theorem typed_other (character : Char) (other : ¬IsCapital character) :
    (typed character).lowered =
      (Chord.mk (.character character) { shift := Text.isUpperCase character }).reported := by
  show (if character.isUpper then _ else _) = _
  rw [if_neg (mt (is_upper_iff character).mp other)]
  rfl

end ReportedChord

namespace Chord

theorem answers_capital (bound : Chord) (character : Char) (capital : IsCapital character) :
    bound.answersTo (.typed character) = true ↔
      bound = ⟨.character character.toLower, { shift := true }⟩ := by
  rw [answers_iff, ReportedChord.stands_for_iff, ReportedChord.typed_capital character capital,
    eq_comm]
  exact ⟨reported_injective _ _, congrArg reported⟩

theorem answers_other (bound : Chord) (character : Char) (other : ¬IsCapital character) :
    bound.answersTo (.typed character) = true ↔
      bound = ⟨.character character, { shift := Text.isUpperCase character }⟩ := by
  rw [answers_iff, ReportedChord.stands_for_iff, ReportedChord.typed_other character other,
    eq_comm]
  exact ⟨reported_injective _ _, congrArg reported⟩

/-- The binding of a capital answers to the capital alone. -/
theorem capital_answers (letter typed : Char) (capital : IsCapital letter) :
    (ofCharacter letter {}).answersTo (.typed typed) = true ↔ typed = letter := by
  have bound : ofCharacter letter {} = ⟨.character letter.toLower, { shift := true }⟩ :=
    lowered_capital letter {} capital
  rw [bound]
  by_cases typedCapital : IsCapital typed
  · rw [answers_capital _ typed typedCapital]
    constructor
    · intro same
      have lower : letter.toLower = typed.toLower := by
        injection same with code
        injection code
      have codes := congrArg Char.toNat lower
      rw [to_lower_code letter capital, to_lower_code typed typedCapital] at codes
      exact Char.toNat_inj.mp (by omega)
    · rintro rfl
      rfl
  · rw [answers_other _ typed typedCapital]
    constructor
    · intro same
      injection same with code modifiers
      injection code with lower
      -- Its small letter would have to be reported with Shift.
      injection modifiers with _ shift
      rw [← lower, to_lower_lower_case letter capital] at shift
      cases shift
    · rintro rfl
      exact absurd capital typedCapital

/-- The binding of any other character answers to the character alone, if to anything. -/
theorem other_answers (character typed : Char) (other : ¬IsCapital character) :
    (ofCharacter character {}).answersTo (.typed typed) = true ↔
      typed = character ∧ Text.isUpperCase character = false := by
  have bound : ofCharacter character {} = ⟨.character character, {}⟩ := by
    apply lowered_small
    rintro letter ⟨⟩
    exact other
  rw [bound]
  by_cases typedCapital : IsCapital typed
  · rw [answers_capital _ typed typedCapital]
    apply iff_of_false nofun
    rintro ⟨rfl, -⟩
    exact other typedCapital
  · rw [answers_other _ typed typedCapital]
    constructor
    · intro same
      injection same with code modifiers
      injection code with own
      injection modifiers with _ shift
      subst own
      exact ⟨rfl, shift.symm⟩
    · rintro ⟨rfl, unshifted⟩
      rw [unshifted]

/-- What a binding of a single character answers to. It is read, and answers to no other character
that is typed; it answers to its own, unless that is upper case and no capital from A to Z. -/
theorem typed_answers (character : Char) (visible : Text.isBlank character = false) :
    ∃ bound, ofText (String.singleton character) = .ok bound ∧
      (bound.answersTo (.typed character) = true ↔
        IsCapital character ∨ Text.isUpperCase character = false) ∧
      ∀ other, other ≠ character → bound.answersTo (.typed other) = false := by
  have held : Text.trimBlanks (String.singleton character).toList = [character] := by
    rw [String.toList_singleton]
    simp [Text.trimBlanks, visible]
  refine ⟨_, of_text_alone _ character held, ?_⟩
  by_cases capital : IsCapital character
  · refine ⟨?_, ?_⟩
    · rw [capital_answers character character capital]
      exact iff_of_true rfl (.inl capital)
    · intro other apart
      rw [← Bool.not_eq_true, capital_answers character other capital]
      exact apart
  · refine ⟨?_, ?_⟩
    · rw [other_answers character character capital, or_iff_right capital]
      exact and_iff_right rfl
    · intro other apart
      rw [← Bool.not_eq_true, other_answers character other capital]
      exact fun own => apart own.1

theorem typed_answers_letter :
    Text.isBlank 'K' = false ∧
      ∃ bound, ofText (String.singleton 'K') = .ok bound ∧
        (bound.answersTo (.typed 'K') = true ↔
          IsCapital 'K' ∨ Text.isUpperCase 'K' = false) ∧
        ∀ other, other ≠ 'K' → bound.answersTo (.typed other) = false :=
  ⟨by decide, typed_answers 'K' (by decide)⟩

/-- A capital with an accent is bound, and typing it is not answered. -/
theorem accented_capital_unanswered :
    ∃ bound, ofText "É" = .ok bound ∧ bound.answersTo (.typed 'É') = false := by
  refine ⟨⟨.character 'É', {}⟩, ?_, ?_⟩
  · decide +kernel
  · decide +kernel

end Chord

end CounterForms
