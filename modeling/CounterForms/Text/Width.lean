import CounterForms.Text.Basic
import CounterForms.Text.WidthTable

/-!
How many cells of a terminal a text takes. Most characters take one cell, ideographs and emoji two,
and marks that join the character before them none. Some characters share their cells: emoji tied
together by joiners, skin tones and flags, characters with a mark that says how to present them, and
the Arabic letters lam and alef.
-/

namespace CounterForms.Text

/-- The mark that turns the character before it into an emoji. -/
def emojiStyleMark : Char := '\uFE0F'

/-- The mark that turns the emoji before it into a plain character. -/
def textStyleMark : Char := '\uFE0E'

def joiner : Char := '\u200D'

def characterWidth (character : Char) : Nat :=
  if zeroWidthRanges.has character then 0
  else if character = '\u17D8' then 3
  else if character = '\u17A4' || doubleWidthRanges.has character then 2
  else 1

def isFlagLetter (character : Char) : Bool :=
  0x1F1E6 ≤ character.toNat && character.toNat ≤ 0x1F1FF

def isSkinTone (character : Char) : Bool :=
  0x1F3FB ≤ character.toNat && character.toNat ≤ 0x1F3FF

/-- Whether a character and the mark for emoji behind it are an emoji. -/
def takesEmojiStyle (character : Char) : Bool :=
  emojiStyleRanges.has character || emojiRanges.has character

/-- The text behind an emoji, if the text starts with one. -/
def behindEmoji? : List Char → Option (List Char)
  | [] => none
  | first :: rest =>
      match rest with
      | second :: behind =>
          if second = emojiStyleMark && takesEmojiStyle first then some behind
          else if isSkinTone second && skinToneBaseRanges.has first then some behind
          else if isFlagLetter first && isFlagLetter second then some behind
          else if emojiRanges.has first then some rest
          else none
      | [] => if emojiRanges.has first then some rest else none

/-- Whether a joiner ties the text to an emoji before it. -/
def continuesEmoji : List Char → Bool
  | character :: rest => character = joiner && (behindEmoji? rest).isSome
  | [] => false

def isLam (character : Char) : Bool :=
  [0x644, 0x6B5, 0x6B6, 0x6B7, 0x6B8, 0x76A, 0x8A6, 0x8C7].contains character.toNat

def isAlef (character : Char) : Bool :=
  let code := character.toNat
  [0x622, 0x623, 0x625, 0x627, 0x671, 0x672, 0x673, 0x675, 0x773, 0x774].contains code ||
    (0x870 ≤ code && code ≤ 0x882)

/-- Whether a character takes no cell and ties nothing together. -/
def isMute (character : Char) : Bool := characterWidth character = 0 && character ≠ joiner

def meetsAlef (characters : List Char) : Bool :=
  match characters.dropWhile isMute with
  | character :: _ => isAlef character
  | [] => false

/-- The cells of a text. The budget bounds the number of characters. -/
def widthWithin : Nat → List Char → Nat
  | 0, _ => 0
  | _ + 1, [] => 0
  | budget + 1, first :: rest =>
      if first = '\r' && rest.head? == some '\n' then 1 + widthWithin budget rest.tail
      else if rest.head? == some textStyleMark && textStyleRanges.has first then
        1 + widthWithin budget rest.tail
      else
        match behindEmoji? (first :: rest) with
        | some behind =>
            if continuesEmoji behind then widthWithin budget behind.tail
            else 2 + widthWithin budget behind
        | none =>
            if isLam first && meetsAlef rest then widthWithin budget rest
            else characterWidth first + widthWithin budget rest

def width (characters : List Char) : Nat := widthWithin (characters.length + 1) characters

def totalWidth : List (List Char) → Nat
  | [] => 0
  | first :: later => width first + totalWidth later

def textWidth (text : String) : Nat := width text.toList

end CounterForms.Text
