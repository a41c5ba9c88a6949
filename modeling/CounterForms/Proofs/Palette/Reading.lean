import CounterForms.Palette.Color
import CounterForms.Proofs.Outcome
import CounterForms.Proofs.Text.Basic
import CounterForms.Proofs.Text.LowerCase

/-!
Which texts name which colours. What counts is the text without the blanks around it and in small
letters. If nothing is left, no colour is named; a name that is listed names its colour; a number
sign with six hexadecimal digits mixes the colour whose bytes the three pairs of digits spell; and
any other text is refused. So every mixed colour has a text of its own, which reads back as it in
any letter case.
-/

namespace CounterForms

namespace Text

def HexDigit (character : Char) : Prop := ∃ value < 16, character.toLower = value.digitChar

def hexPair (byte : UInt8) : List Char :=
  [(byte.toNat / 16).digitChar, (byte.toNat % 16).digitChar]

theorem hex_digit_table : ∀ code ∈ List.range 128,
    (isHexDigit (Char.ofNat code) = true → digitValue (Char.ofNat code) < 16 ∧
      (Char.ofNat code).toLower = (digitValue (Char.ofNat code)).digitChar) ∧
    ∀ value ∈ List.range 16, (Char.ofNat code).toLower = value.digitChar →
      isHexDigit (Char.ofNat code) = true ∧ digitValue (Char.ofNat code) = value ∧
        isBlank (Char.ofNat code) = false := by
  decide +kernel

theorem hex_digit_ascii (character : Char) (isHex : isHexDigit character = true) :
    character.toNat < 128 := by
  simp only [isHexDigit, isDigit, Bool.or_eq_true, Bool.and_eq_true, decide_eq_true_eq] at isHex
  have codes : ((48 ≤ character.toNat ∧ character.toNat ≤ 57) ∨
      (97 ≤ character.toNat ∧ character.toNat ≤ 102)) ∨
      (65 ≤ character.toNat ∧ character.toNat ≤ 70) := isHex
  omega

theorem digit_char_ascii : ∀ value ∈ List.range 16, (Nat.digitChar value).toNat < 128 := by
  decide

theorem ascii_of_lower (character : Char) (value : Nat) (small : value < 16)
    (lower : character.toLower = value.digitChar) : character.toNat < 128 := by
  have ascii := digit_char_ascii value (List.mem_range.mpr small)
  rw [← lower] at ascii
  unfold Char.toLower at ascii
  split at ascii
  next capital =>
    have last : character.toNat ≤ 90 := capital.2
    omega
  next => exact ascii

/-- A digit of a value is what it is read as. -/
theorem hex_digit_read (character : Char) (value : Nat) :
    value < 16 ∧ character.toLower = value.digitChar ↔
      isHexDigit character = true ∧ digitValue character = value := by
  constructor
  · rintro ⟨small, lower⟩
    have ascii := ascii_of_lower character value small lower
    have entry := (hex_digit_table _ (List.mem_range.mpr ascii)).2 value (List.mem_range.mpr small)
    rw [Char.ofNat_toNat] at entry
    exact ⟨(entry lower).1, (entry lower).2.1⟩
  · rintro ⟨isHex, rfl⟩
    have ascii := hex_digit_ascii character isHex
    have entry := (hex_digit_table _ (List.mem_range.mpr ascii)).1
    rw [Char.ofNat_toNat] at entry
    exact entry isHex

theorem is_hex_digit_iff (character : Char) :
    isHexDigit character = true ↔ HexDigit character := by
  constructor
  · intro isHex
    exact ⟨_, (hex_digit_read character _).mpr ⟨isHex, rfl⟩⟩
  · rintro ⟨value, digit⟩
    exact ((hex_digit_read character value).mp digit).1

theorem HexDigit.plain {character : Char} (digit : HexDigit character) :
    character.toNat < 128 ∧ isBlank character = false := by
  obtain ⟨value, small, lower⟩ := digit
  have ascii := ascii_of_lower character value small lower
  have entry := (hex_digit_table _ (List.mem_range.mpr ascii)).2 value (List.mem_range.mpr small)
  rw [Char.ofNat_toNat] at entry
  exact ⟨ascii, (entry lower).2.2⟩

end Text

open Text

/-- Two characters are the pair of a byte, in any letter case, if they are read as that byte. -/
theorem hex_pair_iff (high low : Char) (byte : UInt8) :
    [high, low].map Char.toLower = hexPair byte ↔
      isHexDigit high = true ∧ isHexDigit low = true ∧ byteOfDigits high low = byte := by
  have bounded := byte.toNat_lt
  have pair : [high, low].map Char.toLower = hexPair byte ↔
      high.toLower = (byte.toNat / 16).digitChar ∧ low.toLower = (byte.toNat % 16).digitChar := by
    simp [hexPair]
  rw [pair]
  constructor
  · rintro ⟨highLower, lowLower⟩
    obtain ⟨highHex, highValue⟩ := (hex_digit_read high _).mp ⟨by omega, highLower⟩
    obtain ⟨lowHex, lowValue⟩ := (hex_digit_read low _).mp ⟨by omega, lowLower⟩
    have worth : 16 * (byte.toNat / 16) + byte.toNat % 16 = byte.toNat := by omega
    refine ⟨highHex, lowHex, ?_⟩
    rw [byteOfDigits, highValue, lowValue, worth, UInt8.ofNat_toNat]
  · rintro ⟨highHex, lowHex, rfl⟩
    obtain ⟨highSmall, highLower⟩ := (hex_digit_read high _).mpr ⟨highHex, rfl⟩
    obtain ⟨lowSmall, lowLower⟩ := (hex_digit_read low _).mpr ⟨lowHex, rfl⟩
    have worth : (byteOfDigits high low).toNat = 16 * digitValue high + digitValue low := by
      rw [byteOfDigits, UInt8.toNat_ofNat']
      exact Nat.mod_eq_of_lt (by omega)
    have sixteens : (byteOfDigits high low).toNat / 16 = digitValue high := by omega
    have ones : (byteOfDigits high low).toNat % 16 = digitValue low := by omega
    rw [sixteens, ones]
    exact ⟨highLower, lowLower⟩

namespace Color

/-- The digits spell the bytes of a mixed colour one after the other, in any letter case. -/
def Spells (digits : List Char) (red green blue : UInt8) : Prop :=
  digits.map Char.toLower = hexPair red ++ hexPair green ++ hexPair blue

instance (digits : List Char) (red green blue : UInt8) :
    Decidable (Spells digits red green blue) :=
  inferInstanceAs (Decidable (_ = _))

/-- Three pairs of digits spell the colour of the bytes that they are read as. -/
theorem spells_pairs {r₁ r₂ g₁ g₂ b₁ b₂ : Char}
    (red : isHexDigit r₁ = true ∧ isHexDigit r₂ = true)
    (green : isHexDigit g₁ = true ∧ isHexDigit g₂ = true)
    (blue : isHexDigit b₁ = true ∧ isHexDigit b₂ = true) :
    Spells [r₁, r₂, g₁, g₂, b₁, b₂] (byteOfDigits r₁ r₂) (byteOfDigits g₁ g₂)
      (byteOfDigits b₁ b₂) := by
  rw [Spells, ← (hex_pair_iff r₁ r₂ _).mpr ⟨red.1, red.2, rfl⟩,
    ← (hex_pair_iff g₁ g₂ _).mpr ⟨green.1, green.2, rfl⟩,
    ← (hex_pair_iff b₁ b₂ _).mpr ⟨blue.1, blue.2, rfl⟩]
  rfl

theorem of_six_digits_iff (text : String) (digits : List Char) (color : Color) :
    ofSixDigits text digits = .ok color ↔
      ∃ red green blue, color = .mixed red green blue ∧ Spells digits red green blue := by
  constructor
  · intro read
    unfold ofSixDigits at read
    split at read
    next r₁ r₂ g₁ g₂ b₁ b₂ =>
      split at read
      next hex =>
        cases read
        simp only [List.all_cons, List.all_nil, Bool.and_true, Bool.and_eq_true] at hex
        obtain ⟨r₁Hex, r₂Hex, g₁Hex, g₂Hex, b₁Hex, b₂Hex⟩ := hex
        exact ⟨_, _, _, rfl, spells_pairs ⟨r₁Hex, r₂Hex⟩ ⟨g₁Hex, g₂Hex⟩ ⟨b₁Hex, b₂Hex⟩⟩
      next =>
        split at read
        · cases read
        · split at read <;> cases read
    next => cases read
  · rintro ⟨red, green, blue, rfl, spells⟩
    have count := congrArg List.length spells
    match digits with
    | [r₁, r₂, g₁, g₂, b₁, b₂] =>
        have pairs : [r₁, r₂].map Char.toLower = hexPair red ∧
            [g₁, g₂].map Char.toLower = hexPair green ∧
            [b₁, b₂].map Char.toLower = hexPair blue := by
          simpa [Spells, hexPair, and_assoc] using spells
        obtain ⟨r₁Hex, r₂Hex, isRed⟩ := (hex_pair_iff r₁ r₂ red).mp pairs.1
        obtain ⟨g₁Hex, g₂Hex, isGreen⟩ := (hex_pair_iff g₁ g₂ green).mp pairs.2.1
        obtain ⟨b₁Hex, b₂Hex, isBlue⟩ := (hex_pair_iff b₁ b₂ blue).mp pairs.2.2
        simp only [ofSixDigits, List.all_cons, List.all_nil, r₁Hex, r₂Hex, g₁Hex, g₂Hex, b₁Hex,
          b₂Hex, isRed, isGreen, isBlue, Bool.and_self, if_true]
        rfl

theorem hex_pair_digit (byte : UInt8) (character : Char)
    (member : character.toLower ∈ hexPair byte) : HexDigit character := by
  have bounded := byte.toNat_lt
  simp only [hexPair, List.mem_cons, List.not_mem_nil, or_false] at member
  rcases member with sixteens | ones
  · exact ⟨_, by omega, sixteens⟩
  · exact ⟨_, by omega, ones⟩

theorem Spells.digits {digits : List Char} {red green blue : UInt8}
    (spells : Spells digits red green blue) :
    digits.length = 6 ∧ ∀ digit ∈ digits, HexDigit digit := by
  refine ⟨?_, fun digit member => ?_⟩
  · simpa [hexPair] using congrArg List.length spells
  · have lowered := List.mem_map_of_mem (f := Char.toLower) member
    rw [spells, List.mem_append, List.mem_append] at lowered
    rcases lowered with (inRed | inGreen) | inBlue
    · exact hex_pair_digit red digit inRed
    · exact hex_pair_digit green digit inGreen
    · exact hex_pair_digit blue digit inBlue

/-- Six digits always spell a colour. -/
theorem six_digits_iff (digits : List Char) :
    (∃ red green blue, Spells digits red green blue) ↔
      digits.length = 6 ∧ ∀ digit ∈ digits, HexDigit digit := by
  constructor
  · rintro ⟨red, green, blue, spells⟩
    exact spells.digits
  · rintro ⟨count, hex⟩
    match digits with
    | [r₁, r₂, g₁, g₂, b₁, b₂] =>
        simp only [List.forall_mem_cons, ← is_hex_digit_iff] at hex
        obtain ⟨r₁Hex, r₂Hex, g₁Hex, g₂Hex, b₁Hex, b₂Hex, -⟩ := hex
        exact ⟨_, _, _, spells_pairs ⟨r₁Hex, r₂Hex⟩ ⟨g₁Hex, g₂Hex⟩ ⟨b₁Hex, b₂Hex⟩⟩

def plainText (text : String) : String := Text.lowerCase (Text.trim text)

theorem named_colors_lookup (name : String) (color : Color) :
    namedColors.lookup name = some color ↔ (name, color) ∈ namedColors := by
  have listed : ∀ entry ∈ namedColors, namedColors.lookup entry.1 = some entry.2 := by
    decide +kernel
  constructor
  · intro found
    obtain ⟨before, after, split, -⟩ := List.lookup_eq_some_iff.mp found
    rw [split]
    simp
  · exact listed (name, color)

theorem named_colors_unspelled : ∀ entry ∈ namedColors, entry.1.toList.head? ≠ some '#' := by
  decide +kernel

theorem named_colors_plain (name : String) (red green blue : UInt8) :
    (name, mixed red green blue) ∉ namedColors := by
  simp [namedColors]

theorem of_text_empty (text : String) (empty : plainText text = "") :
    ofText? text = .ok none := by
  unfold plainText at empty
  unfold ofText?
  dsimp only
  rw [empty]
  rfl

theorem of_text_named (text : String) (color : Color)
    (named : (plainText text, color) ∈ namedColors) : ofText? text = .ok (some color) := by
  have unblank : ∀ entry ∈ namedColors, entry.1.isEmpty = false := by decide +kernel
  have filled := unblank _ named
  have found := (named_colors_lookup _ _).mpr named
  unfold plainText at filled found
  unfold ofText?
  dsimp only at filled ⊢
  rw [filled, found]
  rfl

theorem of_text_number (text : String) (digits : List Char)
    (shape : (plainText text).toList = '#' :: digits) :
    ofText? text = some <$> ofSixDigits (plainText text) digits := by
  have filled : (plainText text).isEmpty = false := by
    rw [← Bool.not_eq_true, String.isEmpty_iff]
    intro empty
    rw [empty] at shape
    cases shape
  have unlisted : namedColors.lookup (plainText text) = none := by
    rw [Option.eq_none_iff_forall_ne_some]
    intro color found
    apply named_colors_unspelled _ ((named_colors_lookup _ _).mp found)
    rw [shape]
    rfl
  unfold plainText at filled unlisted shape ⊢
  unfold ofText?
  dsimp only
  rw [filled, unlisted]
  dsimp only
  rw [shape]
  rfl

theorem of_text_other (text : String) (filled : plainText text ≠ "")
    (unlisted : ∀ color, (plainText text, color) ∉ namedColors)
    (unmarked : ∀ digits, (plainText text).toList ≠ '#' :: digits) :
    ofText? text = .error (.form (plainText text)) := by
  have isFilled : (plainText text).isEmpty = false := by
    rw [← Bool.not_eq_true, String.isEmpty_iff]
    exact filled
  have missing : namedColors.lookup (plainText text) = none := by
    rw [Option.eq_none_iff_forall_ne_some]
    exact fun color found => unlisted color ((named_colors_lookup _ _).mp found)
  unfold plainText at isFilled missing unmarked ⊢
  unfold ofText?
  dsimp only
  generalize Text.lowerCase (Text.trim text) = shown at isFilled missing unmarked ⊢
  rw [isFilled, missing, if_neg Bool.false_ne_true]
  dsimp only
  split
  next digits shape => exact absurd shape (unmarked digits)
  next => rfl

inductive Says (text : String) : Option Color → Prop
  | nothing (empty : plainText text = "") : Says text none
  | listed (color : Color) (named : (plainText text, color) ∈ namedColors) : Says text (some color)
  | spelled (digits : List Char) (red green blue : UInt8)
      (shape : (plainText text).toList = '#' :: digits) (spells : Spells digits red green blue) :
      Says text (some (.mixed red green blue))

theorem Says.read {text : String} {color : Option Color} (said : Says text color) :
    ofText? text = .ok color := by
  cases said with
  | nothing empty => exact of_text_empty text empty
  | listed color named => exact of_text_named text color named
  | spelled digits red green blue shape spells =>
      rw [of_text_number text digits shape,
        (of_six_digits_iff _ _ _).mpr ⟨red, green, blue, rfl, spells⟩]
      rfl

/-- Some text is left, it is not listed, and it is no number sign with six digits. -/
structure Unreadable (text : String) : Prop where
  filled : plainText text ≠ ""
  unlisted : ∀ color, (plainText text, color) ∉ namedColors
  unspelled : ∀ digits, (plainText text).toList = '#' :: digits →
    ¬(digits.length = 6 ∧ ∀ digit ∈ digits, HexDigit digit)

theorem Unreadable.error {text : String} (unreadable : Unreadable text) :
    ∃ fault, ofText? text = .error fault := by
  by_cases marked : ∃ digits, (plainText text).toList = '#' :: digits
  · obtain ⟨digits, shape⟩ := marked
    rw [of_text_number text digits shape]
    cases read : ofSixDigits (plainText text) digits with
    | error fault => exact ⟨fault, rfl⟩
    | ok color =>
        obtain ⟨red, green, blue, -, spells⟩ := (of_six_digits_iff _ _ _).mp read
        exact absurd spells.digits (unreadable.unspelled digits shape)
  · have unmarked : ∀ digits, (plainText text).toList ≠ '#' :: digits :=
      fun digits shape => marked ⟨digits, shape⟩
    exact ⟨_, of_text_other text unreadable.filled unreadable.unlisted unmarked⟩

theorem says_or_unreadable (text : String) : (∃ color, Says text color) ∨ Unreadable text := by
  by_cases empty : plainText text = ""
  · exact .inl ⟨none, .nothing empty⟩
  by_cases named : ∃ color, (plainText text, color) ∈ namedColors
  · obtain ⟨color, listed⟩ := named
    exact .inl ⟨some color, .listed color listed⟩
  by_cases spelled : ∃ digits red green blue, (plainText text).toList = '#' :: digits ∧
      Spells digits red green blue
  · obtain ⟨digits, red, green, blue, shape, spells⟩ := spelled
    exact .inl ⟨_, .spelled digits red green blue shape spells⟩
  refine .inr ⟨empty, fun color member => named ⟨color, member⟩, ?_⟩
  intro digits shape hex
  obtain ⟨red, green, blue, spells⟩ := (six_digits_iff digits).mpr hex
  exact spelled ⟨digits, red, green, blue, shape, spells⟩

theorem of_text_ok_iff (text : String) (color : Option Color) :
    ofText? text = .ok color ↔ Says text color := by
  refine ⟨fun read => ?_, Says.read⟩
  rcases says_or_unreadable text with ⟨other, said⟩ | unreadable
  · cases read.symm.trans said.read
    exact said
  · obtain ⟨fault, failed⟩ := unreadable.error
    cases read.symm.trans failed

theorem of_text_error_iff (text : String) :
    (∃ fault, ofText? text = .error fault) ↔ Unreadable text := by
  refine ⟨fun ⟨fault, failed⟩ => ?_, Unreadable.error⟩
  rcases says_or_unreadable text with ⟨color, said⟩ | unreadable
  · cases failed.symm.trans said.read
  · exact unreadable

theorem hex_pair_lower (byte : UInt8) : (hexPair byte).map Char.toLower = hexPair byte := by
  have small : ∀ value ∈ List.range 16, (Nat.digitChar value).toLower = value.digitChar := by
    decide +kernel
  have bounded := byte.toNat_lt
  have sixteens := small (byte.toNat / 16) (List.mem_range.mpr (by omega))
  have ones := small (byte.toNat % 16) (List.mem_range.mpr (by omega))
  simp only [hexPair, List.map_cons, List.map_nil, sixteens, ones]

def hexDigits (red green blue : UInt8) : List Char := hexPair red ++ hexPair green ++ hexPair blue

theorem spells_hex_digits (red green blue : UInt8) :
    Spells (hexDigits red green blue) red green blue := by
  simp only [Spells, hexDigits, List.map_append, hex_pair_lower]

/-- Blanks around a number sign with digits, and the letter case of the digits, do not count. -/
theorem plain_text_spelled (text : String) (before digits after : List Char)
    (red green blue : UInt8) (written : text.toList = before ++ ('#' :: digits ++ after))
    (spells : Spells digits red green blue)
    (blankBefore : ∀ character ∈ before, isBlank character = true)
    (blankAfter : ∀ character ∈ after, isBlank character = true) :
    (plainText text).toList = '#' :: hexDigits red green blue := by
  have plain := spells.digits.2
  have visible : ∀ character ∈ '#' :: digits, isBlank character = false := by
    rw [List.forall_mem_cons]
    exact ⟨by decide, fun digit member => (plain digit member).plain.2⟩
  have ascii : ∀ character ∈ '#' :: digits, character.toNat < 128 := by
    rw [List.forall_mem_cons]
    exact ⟨by decide, fun digit member => (plain digit member).plain.1⟩
  rw [plainText, lowerCase, trim, written,
    trim_blanks_between before _ after blankBefore blankAfter visible, String.toList_ofList,
    String.toList_ofList, lower_after_ascii [] _ ascii, List.map_cons, spells]
  rfl

/-- Which texts name which colours. Nothing is named exactly if nothing but blanks is given; a
listed colour exactly by its names; a mixed one exactly by a number sign with six digits that spell
its bytes; and exactly the other texts are refused. So a mixed colour is read from its digits, which
it always has, in any letter case and with blanks around it. -/
theorem text_named_or_spelled (text : String) :
    (ofText? text = .ok none ↔ plainText text = "") ∧
    (∀ color, (ofText? text = .ok (some color) ∧
        ∀ red green blue, color ≠ .mixed red green blue) ↔
      (plainText text, color) ∈ namedColors) ∧
    (∀ red green blue, ofText? text = .ok (some (.mixed red green blue)) ↔
      ∃ digits, (plainText text).toList = '#' :: digits ∧ Spells digits red green blue) ∧
    ((∃ fault, ofText? text = .error fault) ↔ Unreadable text) ∧
    ∀ red green blue, Spells (hexDigits red green blue) red green blue ∧
      ∀ before digits after, text.toList = before ++ ('#' :: digits ++ after) →
        Spells digits red green blue → (∀ character ∈ before, isBlank character = true) →
        (∀ character ∈ after, isBlank character = true) →
        ofText? text = .ok (some (.mixed red green blue)) := by
  simp only [of_text_ok_iff]
  refine ⟨⟨?_, .nothing⟩, fun color => ⟨?_, fun named => ⟨.listed color named, ?_⟩⟩,
    fun red green blue => ⟨?_, ?_⟩, of_text_error_iff text, fun red green blue => ?_⟩
  · rintro ⟨empty⟩
    exact empty
  · rintro ⟨said, unmixed⟩
    cases said with
    | listed _ named => exact named
    | spelled digits red green blue => exact absurd rfl (unmixed red green blue)
  · rintro red green blue rfl
    exact named_colors_plain _ red green blue named
  · intro said
    cases said with
    | listed _ named => exact absurd named (named_colors_plain _ red green blue)
    | spelled digits _ _ _ shape spells => exact ⟨digits, shape, spells⟩
  · rintro ⟨digits, shape, spells⟩
    exact .spelled digits red green blue shape spells
  · refine ⟨spells_hex_digits red green blue, ?_⟩
    intro before digits after written spells blankBefore blankAfter
    have shape := plain_text_spelled text before digits after red green blue written spells
      blankBefore blankAfter
    exact .spelled _ red green blue shape (spells_hex_digits red green blue)

/-- Digits in both cases, with a blank on either side. -/
theorem text_named_or_spelled_loose :
    Spells ['1', 'A', '2', 'b', '3', 'C'] 26 43 60 ∧
      ofText? " #1A2b3C\t" = .ok (some (.mixed 26 43 60)) := by
  have spells : Spells ['1', 'A', '2', 'b', '3', 'C'] 26 43 60 := by decide +kernel
  have reads := ((text_named_or_spelled " #1A2b3C\t").2.2.2.2 26 43 60).2 [' ']
    ['1', 'A', '2', 'b', '3', 'C'] ['\t']
  exact ⟨spells, reads (by decide +kernel) spells (List.forall_mem_singleton.mpr (by decide))
    (List.forall_mem_singleton.mpr (by decide))⟩

end Color

end CounterForms
