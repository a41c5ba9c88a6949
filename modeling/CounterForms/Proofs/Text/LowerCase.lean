import CounterForms.Text.LowerCase

/-!
Texts in small letters, one character at a time. A character that is its own small letter is still
there when the text around it is lowered, and one character alone gives one small letter, but for
the dotted capital I. A text of ASCII characters is lowered as the ASCII letters in it are.
-/

namespace CounterForms.Text

theorem ascii_small_letters : ∀ code ∈ List.range 128,
    smallLetter (Char.ofNat code) = (Char.ofNat code).toLower := by
  decide +kernel

theorem small_letter_ascii (character : Char) (ascii : character.toNat < 128) :
    smallLetter character = character.toLower := by
  rw [← Char.ofNat_toNat character]
  exact ascii_small_letters _ (List.mem_range.mpr ascii)

theorem lower_after_ascii (before text : List Char)
    (ascii : ∀ character ∈ text, character.toNat < 128) :
    lowerAfter before text = text.map Char.toLower := by
  induction text generalizing before with
  | nil => rfl
  | cons first later induction =>
      have code := ascii first (by simp)
      have noSigma : first ≠ 'Σ' := by
        rintro rfl
        exact absurd code (by decide)
      have noDotted : first ≠ 'İ' := by
        rintro rfl
        exact absurd code (by decide)
      rw [lowerAfter, List.map_cons,
        induction _ fun character member => ascii character (by simp [member])]
      simp [noSigma, noDotted, small_letter_ascii first code]

end CounterForms.Text
