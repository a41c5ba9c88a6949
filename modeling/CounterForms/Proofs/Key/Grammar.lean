import CounterForms.Proofs.Key.Names
import Mathlib.Data.List.Forall2

/-!
The grammar of chord texts. A chord is written as one character, or in angle brackets as a key that
has names of modifiers in front of it, each with a hyphen behind it. Reading accepts just these
texts, and for every other text reports the fault that it meets first: that there is no text or no
brackets, then the first name that no modifier has, and then the key.
-/

namespace CounterForms

namespace Modifiers

inductive Called (name : List Char) : Modifiers → Prop
  | control (spelled : Text.lowerCase (String.ofList name) ∈ ["c", "ctrl"]) :
      Called name { control := true }
  | shift (spelled : Text.lowerCase (String.ofList name) ∈ ["s", "shift"]) :
      Called name { shift := true }
  | alt (spelled : Text.lowerCase (String.ofList name) ∈ ["a", "alt"]) :
      Called name { alt := true }

/-- Every name is that of a modifier, and the modifiers are all of these together. -/
def Gathers (names : List (List Char)) (modifiers : Modifiers) : Prop :=
  ∃ named, List.Forall₂ Called names named ∧ modifiers = named.foldr union {}

theorem named_iff (name : List Char) (modifier : Modifiers) :
    named? (String.ofList name) = some modifier ↔ Called name modifier := by
  constructor
  · intro named
    unfold named? at named
    split at named
    next spelled => cases named; exact .control (by rw [spelled]; decide)
    next spelled => cases named; exact .control (by rw [spelled]; decide)
    next spelled => cases named; exact .shift (by rw [spelled]; decide)
    next spelled => cases named; exact .shift (by rw [spelled]; decide)
    next spelled => cases named; exact .alt (by rw [spelled]; decide)
    next spelled => cases named; exact .alt (by rw [spelled]; decide)
    next => cases named
  · intro called
    unfold named?
    cases called with
    | control spelled =>
        rcases List.mem_pair.mp spelled with spelled | spelled <;> rw [spelled] <;> rfl
    | shift spelled =>
        rcases List.mem_pair.mp spelled with spelled | spelled <;> rw [spelled] <;> rfl
    | alt spelled =>
        rcases List.mem_pair.mp spelled with spelled | spelled <;> rw [spelled] <;> rfl

theorem unnamed_iff (name : List Char) :
    named? (String.ofList name) = none ↔ ∀ modifier, ¬Called name modifier := by
  rw [Option.eq_none_iff_forall_ne_some]
  exact forall_congr' fun modifier => not_congr (named_iff name modifier)

theorem of_names_cons (name : List Char) (later : List (List Char)) (first : Modifiers)
    (called : Called name first) :
    ofNames (name :: later) = ofNames later >>= fun others => pure (first.union others) := by
  rw [ofNames, (named_iff name first).mpr called]

theorem of_names_unknown (name : List Char) (later : List (List Char))
    (unknown : ∀ modifier, ¬Called name modifier) :
    ofNames (name :: later) = .error (.modifier (String.ofList name)) := by
  rw [ofNames, (unnamed_iff name).mpr unknown]
  rfl

theorem of_names_ok (names : List (List Char)) (modifiers : Modifiers) :
    ofNames names = .ok modifiers ↔ Gathers names modifiers := by
  induction names generalizing modifiers with
  | nil =>
      constructor
      · intro read
        cases read
        exact ⟨[], .nil, rfl⟩
      · rintro ⟨named, each, rfl⟩
        cases each
        rfl
  | cons name later induction =>
      constructor
      · intro read
        cases known : named? (String.ofList name) with
        | none =>
            rw [of_names_unknown name later ((unnamed_iff name).mp known)] at read
            cases read
        | some first =>
            have called := (named_iff name first).mp known
            rw [of_names_cons name later first called] at read
            obtain ⟨others, readLater, read⟩ := ok_of_bind read
            cases read
            obtain ⟨named, each, rfl⟩ := (induction others).mp readLater
            exact ⟨first :: named, .cons called each, rfl⟩
      · rintro ⟨named, each, rfl⟩
        cases each with
        | cons called each =>
            rw [of_names_cons name later _ called, (induction _).mpr ⟨_, each, rfl⟩]
            rfl

/-- The first name that no modifier has is reported. -/
theorem of_names_error (names : List (List Char)) (fault : ChordFault) :
    ofNames names = .error fault ↔
      ∃ before name after, names = before ++ name :: after ∧
        (∀ earlier ∈ before, ∃ modifier, Called earlier modifier) ∧
        (∀ modifier, ¬Called name modifier) ∧ fault = .modifier (String.ofList name) := by
  induction names with
  | nil =>
      apply iff_of_false nofun
      rintro ⟨before, name, after, shape, -⟩
      exact absurd shape.symm (by simp)
  | cons first later induction =>
      cases known : named? (String.ofList first) with
      | none =>
          have unknown := (unnamed_iff first).mp known
          rw [of_names_unknown first later unknown]
          constructor
          · intro read
            cases read
            exact ⟨[], first, later, rfl, nofun, unknown, rfl⟩
          · rintro ⟨before, name, after, shape, known, -, rfl⟩
            cases before with
            | nil =>
                cases shape
                rfl
            | cons earlier before =>
                cases shape
                obtain ⟨modifier, called⟩ := known first List.mem_cons_self
                exact absurd called (unknown modifier)
      | some modifier =>
          have called := (named_iff first modifier).mp known
          have step : ofNames (first :: later) = .error fault ↔ ofNames later = .error fault := by
            rw [of_names_cons first later modifier called]
            cases ofNames later with
            | error other => exact Iff.rfl
            | ok others => exact iff_of_false nofun nofun
          rw [step, induction]
          constructor
          · rintro ⟨before, name, after, rfl, knownBefore, rest⟩
            refine ⟨first :: before, name, after, rfl, ?_, rest⟩
            rintro earlier (_ | ⟨_, member⟩)
            · exact ⟨modifier, called⟩
            · exact knownBefore earlier member
          · rintro ⟨before, name, after, shape, knownBefore, unknown, rfl⟩
            cases before with
            | nil =>
                cases shape
                exact absurd called (unknown modifier)
            | cons earlier before =>
                cases shape
                exact ⟨before, name, after, rfl,
                  fun earlier member => knownBefore earlier (List.mem_cons_of_mem _ member),
                  unknown, rfl⟩

def leading (names : List (List Char)) : List Char := names.flatMap (· ++ ['-'])

end Modifiers

namespace Chord

theorem stands_for_lowered (chord bound : Chord) :
    chord.reported.StandsFor bound ↔ chord.lowered = bound := by
  rw [ReportedChord.stands_for_iff, reported_lowered]
  exact ⟨reported_injective _ _, congrArg reported⟩

/-- The inner text has the names of the modifiers first, each with the first hyphen behind it, and
then the key. If it ends in two hyphens, the second one is the key. -/
structure Divides (inner : List Char) (names : List (List Char)) (key : List Char) : Prop where
  joined : inner = Modifiers.leading names ++ key
  plain : ∀ name ∈ names, '-' ∉ name
  last : if ['-', '-'] <:+ inner then key = ['-'] else '-' ∉ key

theorem bracket_parts_doubled (before : List Char) :
    bracketParts (before ++ ['-', '-']) = (Text.pieces '-' before, ['-']) := by
  have doubled : ['-', '-'].isSuffixOf (before ++ ['-', '-']) = true :=
    List.isSuffixOf_iff_suffix.mpr ⟨before, rfl⟩
  unfold bracketParts
  dsimp only
  rw [if_pos doubled, Text.pieces_append_separator]
  show ((Text.pieces '-' before ++ [[], []]).dropLast.dropLast, ['-']) = _
  simp [List.dropLast_append_of_ne_nil]

theorem bracket_parts_single (inner : List Char) (single : ¬['-', '-'] <:+ inner)
    (names : List (List Char)) (key : List Char) :
    bracketParts inner = (names, key) ↔ Text.pieces '-' inner = names ++ [key] := by
  have filled := Text.pieces_ne_nil '-' inner
  unfold bracketParts
  dsimp only
  rw [if_neg fun suffix => single (List.isSuffixOf_iff_suffix.mp suffix)]
  constructor
  · rintro ⟨⟩
    rw [List.getLastD_eq_getLast?, List.getLast?_eq_some_getLast filled, Option.getD_some,
      List.dropLast_append_getLast filled]
  · intro cut
    rw [cut]
    simp

/-- An inner text is divided in one way. -/
theorem divides_iff (inner : List Char) (names : List (List Char)) (key : List Char) :
    bracketParts inner = (names, key) ↔ Divides inner names key := by
  by_cases doubled : ['-', '-'] <:+ inner
  · obtain ⟨before, rfl⟩ := doubled
    -- The text up to the first of the two hyphens is that of the names alone.
    have closed := Text.pieces_eq_iff '-' (before ++ ['-']) names []
    rw [Text.pieces_append_separator, List.append_nil] at closed
    have split : before ++ ['-', '-'] = before ++ ['-'] ++ ['-'] := by
      rw [List.append_assoc]
      rfl
    rw [bracket_parts_doubled]
    constructor
    · rintro ⟨⟩
      obtain ⟨joined, plain, -⟩ := closed.mp rfl
      exact ⟨by rw [split, joined]; rfl, plain, by rw [if_pos ⟨before, rfl⟩]⟩
    · rintro ⟨joined, plain, last⟩
      rw [if_pos ⟨before, rfl⟩] at last
      subst last
      rw [split] at joined
      have cut := closed.mpr ⟨List.append_cancel_right joined, plain, List.not_mem_nil⟩
      rw [List.append_cancel_right cut]
  · rw [bracket_parts_single inner doubled, Text.pieces_eq_iff]
    constructor
    · rintro ⟨joined, plain, absent⟩
      exact ⟨joined, plain, by rw [if_neg doubled]; exact absent⟩
    · rintro ⟨joined, plain, last⟩
      rw [if_neg doubled] at last
      exact ⟨joined, plain, last⟩

inductive Fits (names : List (List Char)) (key : List Char) (modifiers : Modifiers) : Chord → Prop
  | named (code : KeyCode) (read : KeyCode.ofName (String.ofList key) = .ok code) :
      Fits names key modifiers ⟨code, modifiers⟩
  | typed (character : Char) (bound : Chord) (modified : names ≠ []) (single : key = [character])
      (stands : (Chord.mk (.character character) modifiers).reported.StandsFor bound) :
      Fits names key modifiers bound

/-- A chord is written as the character alone, or in brackets with the names of its modifiers. -/
inductive Written : List Char → Chord → Prop
  | alone (character : Char) (bound : Chord)
      (stands : (Chord.mk (.character character) {}).reported.StandsFor bound) :
      Written [character] bound
  | bracketed (names : List (List Char)) (key : List Char) (modifiers : Modifiers) (chord : Chord)
      (gathered : Modifiers.Gathers names modifiers) (fits : Fits names key modifiers chord) :
      Written ('<' :: (Modifiers.leading names ++ key ++ ['>'])) chord

/-- The fault that a text without blanks around it has. In brackets it is that of the first name
that no modifier has, and only where there is none that of the key. -/
inductive Refused : List Char → ChordFault → Prop
  | empty : Refused [] .empty
  | form (text : List Char) (several : 2 ≤ text.length)
      (bare : ∀ inner, inner ≠ [] → text ≠ '<' :: (inner ++ ['>'])) :
      Refused text (.form (String.ofList text))
  | modifier (inner : List Char) (before : List (List Char)) (name : List Char)
      (after : List (List Char)) (key : List Char) (filled : inner ≠ [])
      (divided : Divides inner (before ++ name :: after) key)
      (known : ∀ earlier ∈ before, ∃ modifier, Modifiers.Called earlier modifier)
      (unknown : ∀ modifier, ¬Modifiers.Called name modifier) :
      Refused ('<' :: (inner ++ ['>'])) (.modifier (String.ofList name))
  | key (inner : List Char) (names : List (List Char)) (key : List Char) (modifiers : Modifiers)
      (filled : inner ≠ []) (divided : Divides inner names key)
      (gathered : Modifiers.Gathers names modifiers)
      (unfit : ∀ chord, ¬Fits names key modifiers chord) :
      Refused ('<' :: (inner ++ ['>'])) (.key (String.ofList key))

theorem bracketed_iff (characters inner : List Char) :
    bracketed? characters = some inner ↔ inner ≠ [] ∧ characters = '<' :: (inner ++ ['>']) := by
  unfold bracketed?
  constructor
  · intro found
    split at found
    next rest =>
      obtain ⟨closed, found⟩ := Option.ite_none_right_eq_some.mp found
      cases found
      rw [Bool.and_eq_true, decide_eq_true_eq, beq_iff_eq] at closed
      refine ⟨?_, ?_⟩
      · apply List.ne_nil_of_length_pos
        rw [List.length_dropLast]
        omega
      · rw [List.dropLast_append_getLast?  _ closed.2]
    next => cases found
  · rintro ⟨filled, rfl⟩
    have positive := List.length_pos_iff.mpr filled
    simp [positive]

theorem of_text_alone (text : String) (character : Char)
    (held : Text.trimBlanks text.toList = [character]) :
    ofText text = .ok (ofCharacter character {}) := by
  unfold ofText
  dsimp only
  rw [held]
  have unbracketed : bracketed? [character] = none := by
    rw [Option.eq_none_iff_forall_ne_some]
    intro inner found
    have shape := ((bracketed_iff _ _).mp found).2
    exact absurd (congrArg List.length shape) (by simp)
  rw [unbracketed]
  rfl

/-- An inner text has its names and its key, and then a chord that is written so or a fault. -/
theorem bracketed_judged (inner : List Char) (filled : inner ≠ []) :
    (∃ chord, Written ('<' :: (inner ++ ['>'])) chord) ∨
      ∃ fault, Refused ('<' :: (inner ++ ['>'])) fault := by
  cases parts : bracketParts inner with
  | mk names key =>
      have divided := (divides_iff inner names key).mp parts
      cases read : Modifiers.ofNames names with
      | error fault =>
          obtain ⟨before, name, after, rfl, known, unknown, -⟩ :=
            (Modifiers.of_names_error names fault).mp read
          exact .inr ⟨_, .modifier inner before name after key filled divided known unknown⟩
      | ok modifiers =>
          have gathered := (Modifiers.of_names_ok names modifiers).mp read
          by_cases fit : ∃ chord, Fits names key modifiers chord
          · obtain ⟨chord, fits⟩ := fit
            have written := Written.bracketed names key modifiers chord gathered fits
            rw [← divided.joined] at written
            exact .inl ⟨chord, written⟩
          · exact .inr ⟨_, .key inner names key modifiers filled divided gathered
              (not_exists.mp fit)⟩

/-- Every text is written for a chord or refused. -/
theorem judged (characters : List Char) :
    (∃ chord, Written characters chord) ∨ ∃ fault, Refused characters fault := by
  by_cases enclosed : ∃ inner, inner ≠ [] ∧ characters = '<' :: (inner ++ ['>'])
  · obtain ⟨inner, filled, rfl⟩ := enclosed
    exact bracketed_judged inner filled
  · match characters with
    | [] => exact .inr ⟨_, .empty⟩
    | [character] => exact .inl ⟨_, .alone character _ ((stands_for_lowered _ _).mpr rfl)⟩
    | _ :: _ :: _ =>
        refine .inr ⟨_, .form _ (by simp) ?_⟩
        intro inner filled shape
        exact enclosed ⟨inner, filled, shape⟩

end Chord

end CounterForms
