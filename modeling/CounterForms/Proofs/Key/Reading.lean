import CounterForms.Key.Reading
import CounterForms.Key.Report
import CounterForms.Proofs.Outcome

/-!
Chords as they are read and as they are reported. A report stands for one chord at most: a capital
for its small letter with Shift, and any other chord for itself. A chord that is read from a text is
never a capital, so it is itself what its report stands for.
-/

namespace CounterForms

def IsCapital (character : Char) : Prop := 65 ≤ character.toNat ∧ character.toNat ≤ 90

instance (character : Char) : Decidable (IsCapital character) :=
  inferInstanceAs (Decidable (_ ∧ _))

theorem is_upper_iff (character : Char) : character.isUpper = true ↔ IsCapital character := by
  unfold Char.isUpper
  rw [decide_eq_true_eq]
  exact Iff.rfl

theorem to_lower_code (character : Char) (capital : IsCapital character) :
    character.toLower.toNat = character.toNat + 32 := by
  obtain ⟨first, last⟩ := capital
  have bounds : character.val ≥ 'A'.val ∧ character.val ≤ 'Z'.val := ⟨first, last⟩
  unfold Char.toLower
  rw [dif_pos bounds]
  show (character.val + 32).toNat = character.val.toNat + 32
  rw [UInt32.toNat_add]
  change character.val.toNat ≤ 90 at last
  have small : character.val.toNat + 32 < 2 ^ 32 := by omega
  exact Nat.mod_eq_of_lt small

def KeyCode.Small (code : KeyCode) : Prop :=
  ∀ letter, code = .character letter → ¬IsCapital letter

theorem KeyCode.small_or_capital (code : KeyCode) :
    code.Small ∨ ∃ letter, IsCapital letter ∧ code = .character letter := by
  by_cases capital : ∃ letter, IsCapital letter ∧ code = .character letter
  · exact .inr capital
  · apply Or.inl
    intro letter isLetter isCapital
    exact capital ⟨letter, isCapital, isLetter⟩

namespace Chord

theorem lowered_character (character : Char) (modifiers : Modifiers) :
    lowered ⟨.character character, modifiers⟩ =
      if character.isUpper then ⟨.character character.toLower, { modifiers with shift := true }⟩
      else ⟨.character character, modifiers⟩ := rfl

theorem lowered_capital (letter : Char) (modifiers : Modifiers) (capital : IsCapital letter) :
    lowered ⟨.character letter, modifiers⟩ =
      ⟨.character letter.toLower, { modifiers with shift := true }⟩ := by
  rw [lowered_character, if_pos ((is_upper_iff letter).mpr capital)]

theorem lowered_small (chord : Chord) (small : chord.code.Small) : chord.lowered = chord := by
  obtain ⟨code, modifiers⟩ := chord
  cases code with
  | character letter =>
      have lower : ¬letter.isUpper = true := by
        rw [is_upper_iff]
        exact small letter rfl
      rw [lowered_character, if_neg lower]
  | _ => rfl

theorem lowered_lowered (chord : Chord) : chord.lowered.lowered = chord.lowered := by
  obtain ⟨code, modifiers⟩ := chord
  rcases code.small_or_capital with small | ⟨letter, capital, rfl⟩
  · rw [lowered_small ⟨code, modifiers⟩ small, lowered_small ⟨code, modifiers⟩ small]
  · rw [lowered_capital letter modifiers capital]
    apply lowered_small
    rintro other ⟨⟩ isCapital
    have code := to_lower_code letter capital
    unfold IsCapital at capital isCapital
    omega

theorem reported_injective (one other : Chord) (same : one.reported = other.reported) :
    one = other := by
  obtain ⟨code, modifiers⟩ := one
  obtain ⟨otherCode, otherModifiers⟩ := other
  cases same
  rfl

theorem reported_lowered (chord : Chord) : chord.reported.lowered = chord.lowered.reported := by
  obtain ⟨code, modifiers⟩ := chord
  cases code with
  | character character =>
      show (if character.isUpper then _ else _) = _
      rw [lowered_character]
      split <;> rfl
  | _ => rfl

end Chord

namespace ReportedChord

/-- What a report stands for: a capital for its small letter with Shift, and every other chord for
itself. A key that no chord has stands for nothing, and neither does one with a modifier that no
chord has. -/
inductive StandsFor : ReportedChord → Chord → Prop
  | capital (letter small : Char) (modifiers : Modifiers) (isCapital : IsCapital letter)
      (isSmall : small.toNat = letter.toNat + 32) :
      StandsFor (Chord.mk (.character letter) modifiers)
        ⟨.character small, { modifiers with shift := true }⟩
  | itself (chord : Chord) (small : chord.code.Small) : StandsFor chord chord

/-- What is lowered to a chord is one. -/
theorem of_lowered (report : ReportedChord) (bound : Chord)
    (same : report.lowered = bound.reported) : ∃ chord : Chord, report = chord.reported := by
  obtain ⟨code, ⟨modifiers, superKey, hyperKey, metaKey⟩⟩ := report
  obtain ⟨boundCode, boundModifiers⟩ := bound
  cases code with
  | other name => cases same
  | known code =>
      refine ⟨⟨code, modifiers⟩, ?_⟩
      unfold lowered at same
      dsimp only at same
      split at same
      · split at same <;> cases same <;> rfl
      · cases same
        rfl

/-- A report stands for one chord at most. -/
theorem stands_for_iff (report : ReportedChord) (bound : Chord) :
    report.StandsFor bound ↔ report.lowered = bound.reported := by
  constructor
  · intro stands
    cases stands with
    | itself _ small => rw [Chord.reported_lowered, Chord.lowered_small bound small]
    | capital letter small modifiers capital isSmall =>
        have same : letter.toLower = small := by
          apply Char.toNat_inj.mp
          rw [to_lower_code letter capital, isSmall]
        rw [Chord.reported_lowered, Chord.lowered_capital letter modifiers capital, same]
  · intro same
    obtain ⟨chord, rfl⟩ := of_lowered report bound same
    rw [Chord.reported_lowered] at same
    have isBound := Chord.reported_injective _ _ same
    subst isBound
    obtain ⟨code, modifiers⟩ := chord
    rcases code.small_or_capital with small | ⟨letter, isCapital, rfl⟩
    · rw [Chord.lowered_small ⟨code, modifiers⟩ small]
      exact .itself _ small
    · rw [Chord.lowered_capital letter modifiers isCapital]
      exact .capital letter _ modifiers isCapital (to_lower_code letter isCapital)

theorem stands_for_reported (chord : Chord) (lowered : chord.lowered = chord) :
    chord.reported.StandsFor chord := by
  rw [stands_for_iff, Chord.reported_lowered, lowered]

end ReportedChord

theorem Chord.answers_iff (bound : Chord) (report : ReportedChord) :
    bound.answersTo report = true ↔ report.StandsFor bound := by
  rw [ReportedChord.stands_for_iff, answersTo, beq_iff_eq]
  exact eq_comm

/-- A key that is written by its name is no capital. -/
theorem KeyCode.named_small (name : String) (code : KeyCode) (named : named? name = some code) :
    code.Small := by
  have listed : ∀ key ∈ namedKeys, key.code.Small := by
    intro key member letter isLetter
    simp only [namedKeys, List.mem_cons, List.not_mem_nil, or_false] at member
    rcases member with rfl | rfl | rfl | rfl | rfl | rfl | rfl | rfl | rfl | rfl | rfl | rfl | rfl |
      rfl <;> cases isLetter
    decide
  unfold named? at named
  dsimp only at named
  split at named
  next key found =>
    cases Option.some.inj named
    exact listed key (List.mem_of_find?_eq_some found)
  next =>
    split at named
    next digits _ =>
      obtain ⟨number, -, rfl⟩ := Option.map_eq_some_iff.mp named
      intro letter isLetter
      cases isLetter
    next => cases named

/-- A key is read from its name, and any other name is reported as it was given. -/
theorem KeyCode.of_name_ok (name : String) (code : KeyCode) :
    ofName name = .ok code ↔ named? name = some code := by
  unfold ofName
  cases named? name with
  | some other => simp [pure, Except.pure]
  | none => simp [throw, throwThe, MonadExceptOf.throw]

theorem KeyCode.of_name_error (name : String) (fault : ChordFault) :
    ofName name = .error fault ↔ named? name = none ∧ fault = .key name := by
  unfold ofName
  cases named? name with
  | some other => simp [pure, Except.pure]
  | none => simp [throw, throwThe, MonadExceptOf.throw, eq_comm]

namespace Chord

theorem of_bracketed_lowered (inner : List Char) (chord : Chord)
    (read : ofBracketed inner = .ok chord) : chord.lowered = chord := by
  unfold ofBracketed at read
  dsimp only at read
  obtain ⟨modifiers, -, read⟩ := ok_of_bind read
  split at read
  next character _ =>
    split at read
    next => cases read
    next =>
      cases read
      exact lowered_lowered _
  next =>
    obtain ⟨code, named, read⟩ := ok_of_bind read
    cases read
    exact lowered_small _ (KeyCode.named_small _ code ((KeyCode.of_name_ok _ code).mp named))

/-- Whatever text a chord is read from, it stands for itself. -/
theorem of_text_lowered (text : String) (chord : Chord) (read : ofText text = .ok chord) :
    chord.lowered = chord := by
  unfold ofText at read
  dsimp only at read
  split at read
  next => cases read
  next =>
    split at read
    next inner _ => exact of_bracketed_lowered inner chord read
    next =>
      split at read
      next character _ =>
        cases read
        exact lowered_lowered _
      next => cases read

end Chord

end CounterForms
