import CounterForms.Proofs.Form.Binding
import CounterForms.Proofs.Outcome
import CounterForms.Proofs.Text.Basic
import Mathlib.Data.List.Induction

/-!
Which definitions are fit for use, and what is reported of the others. A definition is fit if its
title shows, it has questions, every name is made of name characters, every label shows, and no name
comes twice. Otherwise the title is judged first, then whether there are questions, and then the
questions one after the other: the name of each before its label, and both before a clash with an
earlier name. In a form of a fit definition every question is found under its own name.
-/

namespace CounterForms

def NameCharacter (character : Char) : Prop :=
  ('a' ≤ character ∧ character ≤ 'z') ∨ ('A' ≤ character ∧ character ≤ 'Z') ∨
    ('0' ≤ character ∧ character ≤ '9') ∨ character = '_' ∨ character = '-'

theorem is_name_character_iff (character : Char) :
    isNameCharacter character = true ↔ NameCharacter character := by
  unfold isNameCharacter Char.isAlphanum Char.isAlpha Char.isUpper Char.isLower Char.isDigit
  simp only [Bool.or_eq_true, Bool.and_eq_true, decide_eq_true_eq, beq_iff_eq]
  rw [or_assoc, or_assoc, or_assoc, or_left_comm]
  exact Iff.rfl

theorem NameCharacter.visible {character : Char} (fits : NameCharacter character) :
    Text.isBlank character = false := by
  have codes : (97 ≤ character.toNat ∧ character.toNat ≤ 122) ∨
      (65 ≤ character.toNat ∧ character.toNat ≤ 90) ∨
      (48 ≤ character.toNat ∧ character.toNat ≤ 57) ∨ character.toNat = 95 ∨
      character.toNat = 45 :=
    fits.imp id (Or.imp id (Or.imp id (Or.imp (congrArg Char.toNat) (congrArg Char.toNat))))
  have above : 32 < character.toNat := by omega
  have below : character.toNat < 133 := by omega
  simp [Text.isBlank, Text.blankRanges, Text.Ranges.has, Text.Ranges.covers]
  omega

def WellNamed (name : String) : Prop :=
  name ≠ "" ∧ ∀ character ∈ name.toList, NameCharacter character

theorem WellNamed.shows {name : String} (named : WellNamed name) : Text.Shows name := by
  obtain ⟨filled, fits⟩ := named
  have some : name.toList ≠ [] := by simpa using filled
  obtain ⟨first, isFirst⟩ := List.exists_mem_of_ne_nil _ some
  exact ⟨first, isFirst, (fits first isFirst).visible⟩

theorem well_named_iff (name : String) (shows : Text.Shows name) :
    name.toList.all isNameCharacter = true ↔ WellNamed name := by
  have filled : name ≠ "" := by
    rintro rfl
    obtain ⟨character, member, -⟩ := shows
    cases member
  simp only [List.all_eq_true, is_name_character_iff, WellNamed, filled, ne_eq, not_false_eq_true,
    true_and]

namespace Declaration

/-- Nothing is wrong with a declaration that stands behind others of these names. -/
structure Fit (earlier : List String) (declaration : Declaration) : Prop where
  named : WellNamed declaration.name
  labelled : Text.Shows declaration.label
  apart : declaration.name ∉ earlier

inductive Faulty (title : String) (earlier : List String) (declaration : Declaration) :
    FormFault → Prop
  | blankName (blank : ¬Text.Shows declaration.name) :
      Faulty title earlier declaration (.declaration .blankName)
  | nameCharacters (shows : Text.Shows declaration.name) (odd : ¬WellNamed declaration.name) :
      Faulty title earlier declaration (.declaration (.nameCharacters declaration.name))
  | blankLabel (named : WellNamed declaration.name) (blank : ¬Text.Shows declaration.label) :
      Faulty title earlier declaration (.declaration (.blankLabel declaration.name))
  | repeatedName (named : WellNamed declaration.name) (labelled : Text.Shows declaration.label)
      (again : declaration.name ∈ earlier) :
      Faulty title earlier declaration (.repeatedName declaration.name title)

variable {title : String} {earlier : List String} {declaration : Declaration} {fault : FormFault}

theorem fit_or_faulty (title : String) (earlier : List String) (declaration : Declaration) :
    declaration.Fit earlier ∨ ∃ fault, declaration.Faulty title earlier fault := by
  by_cases shows : Text.Shows declaration.name
  · by_cases named : WellNamed declaration.name
    · by_cases labelled : Text.Shows declaration.label
      · by_cases again : declaration.name ∈ earlier
        · exact .inr ⟨_, .repeatedName named labelled again⟩
        · exact .inl ⟨named, labelled, again⟩
      · exact .inr ⟨_, .blankLabel named labelled⟩
    · exact .inr ⟨_, .nameCharacters shows named⟩
  · exact .inr ⟨_, .blankName shows⟩

def judge (title : String) (earlier : List String) (declaration : Declaration) :
    Except FormFault Unit := do
  declaration.check.mapError FormFault.declaration
  if earlier.contains declaration.name then throw (.repeatedName declaration.name title)

theorem check_named (named : WellNamed declaration.name) :
    declaration.check =
      if Text.isBlankText declaration.label then .error (.blankLabel declaration.name)
      else .ok () := by
  have shows := (Text.shows_iff _).mpr named.shows
  have characters := (well_named_iff _ named.shows).mpr named
  rw [check, shows, characters]
  rfl

theorem Fit.judge (fit : declaration.Fit earlier) : declaration.judge title earlier = .ok () := by
  have labelled := (Text.shows_iff _).mpr fit.labelled
  have fresh : earlier.contains declaration.name = false := by simpa using fit.apart
  rw [Declaration.judge, check_named fit.named, labelled, fresh]
  rfl

theorem Faulty.judge (faulty : declaration.Faulty title earlier fault) :
    declaration.judge title earlier = .error fault := by
  cases faulty with
  | blankName blank =>
      rw [Declaration.judge, check, (Text.blank_iff _).mpr blank]
      rfl
  | nameCharacters shows odd =>
      have characters : declaration.name.toList.all isNameCharacter = false :=
        Bool.eq_false_iff.mpr (mt (well_named_iff _ shows).mp odd)
      rw [Declaration.judge, check, (Text.shows_iff _).mpr shows, characters]
      rfl
  | blankLabel named blank =>
      rw [Declaration.judge, check_named named, (Text.blank_iff _).mpr blank]
      rfl
  | repeatedName named labelled again =>
      have known : earlier.contains declaration.name = true := by simpa using again
      rw [Declaration.judge, check_named named, (Text.shows_iff _).mpr labelled, known]
      rfl

theorem judge_congr {one other : List String} (same : ∀ name, name ∈ one ↔ name ∈ other) :
    declaration.judge title one = declaration.judge title other := by
  have members : one.contains declaration.name = other.contains declaration.name := by
    rw [Bool.eq_iff_iff, List.contains_iff_mem, List.contains_iff_mem]
    exact same _
  rw [Declaration.judge, Declaration.judge, members]

end Declaration

structure Sound (declarations : List Declaration) : Prop where
  named : ∀ declaration ∈ declarations, WellNamed declaration.name
  labelled : ∀ declaration ∈ declarations, Text.Shows declaration.label
  apart : (declarations.map Declaration.name).Nodup

theorem sound_snoc (before : List Declaration) (last : Declaration) :
    Sound (before ++ [last]) ↔ Sound before ∧ last.Fit (before.map Declaration.name) := by
  constructor
  · rintro ⟨named, labelled, apart⟩
    rw [List.map_append, List.nodup_append] at apart
    refine ⟨⟨fun one member => named one (by simp [member]), fun one member =>
      labelled one (by simp [member]), apart.1⟩, named last (by simp), labelled last (by simp), ?_⟩
    intro again
    exact apart.2.2 _ again last.name (by simp) rfl
  · rintro ⟨⟨named, labelled, apart⟩, fit⟩
    refine ⟨?_, ?_, ?_⟩
    · intro one member
      rcases List.mem_append.mp member with isBefore | isLast
      · exact named one isBefore
      · rw [List.mem_singleton.mp isLast]
        exact fit.named
    · intro one member
      rcases List.mem_append.mp member with isBefore | isLast
      · exact labelled one isBefore
      · rw [List.mem_singleton.mp isLast]
        exact fit.labelled
    · rw [List.map_append, List.nodup_append]
      refine ⟨apart, by simp, ?_⟩
      rintro one member other isLast rfl
      exact fit.apart (List.mem_singleton.mp isLast ▸ member)

/-- The first declaration with something wrong stands behind sound ones. -/
def FirstFaulty (title : String) (declarations : List Declaration) (fault : FormFault) : Prop :=
  ∃ before declaration later, declarations = before ++ declaration :: later ∧ Sound before ∧
    declaration.Faulty title (before.map Declaration.name) fault

theorem sound_or_faulty (title : String) (declarations : List Declaration) :
    Sound declarations ∨ ∃ fault, FirstFaulty title declarations fault := by
  induction declarations using List.reverseRecOn with
  | nil => exact .inl ⟨by simp, by simp, by simp⟩
  | append_singleton before last induction =>
      rcases induction with sound | ⟨fault, first, declaration, later, rfl, sound, faulty⟩
      · rcases last.fit_or_faulty title (before.map Declaration.name) with fit | ⟨fault, faulty⟩
        · exact .inl ((sound_snoc before last).mpr ⟨sound, fit⟩)
        · exact .inr ⟨fault, before, last, [], rfl, sound, faulty⟩
      · exact .inr ⟨fault, first, declaration, later ++ [last], by simp, sound, faulty⟩

theorem check_declarations_cons (title : String) (earlier : List String) (first : Declaration)
    (later : List Declaration) :
    checkDeclarations title earlier (first :: later) = first.judge title earlier >>= fun _ =>
      checkDeclarations title (first.name :: earlier) later := by
  rw [checkDeclarations, Declaration.judge]
  cases first.check with
  | error fault => rfl
  | ok passed => cases earlier.contains first.name <;> rfl

/-- Sound declarations are gone through, and what has been seen then are their names. -/
theorem check_declarations_passed (title : String) (before later : List Declaration)
    (sound : Sound before) :
    ∃ seen, (∀ name, name ∈ seen ↔ name ∈ before.map Declaration.name) ∧
      checkDeclarations title [] (before ++ later) = checkDeclarations title seen later := by
  induction before using List.reverseRecOn generalizing later with
  | nil => exact ⟨[], by simp, rfl⟩
  | append_singleton before last induction =>
      obtain ⟨soundBefore, fit⟩ := (sound_snoc before last).mp sound
      obtain ⟨seen, names, passed⟩ := induction (last :: later) soundBefore
      refine ⟨last.name :: seen, fun name => ?_, ?_⟩
      · rw [List.mem_cons, names]
        simp [or_comm]
      · rw [List.append_assoc, List.singleton_append, passed, check_declarations_cons,
          Declaration.judge_congr names, fit.judge]
        rfl

theorem Sound.check {declarations : List Declaration} (sound : Sound declarations)
    (title : String) : checkDeclarations title [] declarations = .ok () := by
  obtain ⟨seen, -, passed⟩ := check_declarations_passed title declarations [] sound
  rw [List.append_nil] at passed
  exact passed

theorem FirstFaulty.check {title : String} {declarations : List Declaration} {fault : FormFault}
    (faulty : FirstFaulty title declarations fault) :
    checkDeclarations title [] declarations = .error fault := by
  obtain ⟨before, declaration, later, rfl, sound, isFaulty⟩ := faulty
  obtain ⟨seen, names, passed⟩ :=
    check_declarations_passed title before (declaration :: later) sound
  rw [passed, check_declarations_cons, Declaration.judge_congr names, isFaulty.judge]
  rfl

namespace FormDefinition

structure Fit (definition : FormDefinition) : Prop where
  titled : Text.Shows definition.title
  filled : definition.questions ≠ []
  sound : Sound definition.questions

inductive Faulty (definition : FormDefinition) : FormFault → Prop
  | blankTitle (blank : ¬Text.Shows definition.title) : Faulty definition .blankTitle
  | noQuestions (titled : Text.Shows definition.title) (none : definition.questions = []) :
      Faulty definition (.noQuestions definition.title)
  | question (fault : FormFault) (titled : Text.Shows definition.title)
      (first : FirstFaulty definition.title definition.questions fault) : Faulty definition fault

variable {definition : FormDefinition} {fault : FormFault}

theorem fit_or_faulty (definition : FormDefinition) :
    definition.Fit ∨ ∃ fault, definition.Faulty fault := by
  by_cases titled : Text.Shows definition.title
  · by_cases none : definition.questions = []
    · exact .inr ⟨_, .noQuestions titled none⟩
    · rcases sound_or_faulty definition.title definition.questions with sound | ⟨fault, first⟩
      · exact .inl ⟨titled, none, sound⟩
      · exact .inr ⟨fault, .question fault titled first⟩
  · exact .inr ⟨_, .blankTitle titled⟩

theorem Fit.check (fit : definition.Fit) : definition.check = .ok () := by
  have titled := (Text.shows_iff _).mpr fit.titled
  have filled : definition.questions.isEmpty = false := by simpa using fit.filled
  rw [FormDefinition.check, titled, filled]
  exact fit.sound.check definition.title

theorem Faulty.check (faulty : definition.Faulty fault) : definition.check = .error fault := by
  cases faulty with
  | blankTitle blank =>
      rw [FormDefinition.check, (Text.blank_iff _).mpr blank]
      rfl
  | noQuestions titled none =>
      rw [FormDefinition.check, (Text.shows_iff _).mpr titled, none]
      rfl
  | question fault titled first =>
      have filled : definition.questions.isEmpty = false := by
        obtain ⟨before, declaration, later, split, -⟩ := first
        simp [split]
      rw [FormDefinition.check, (Text.shows_iff _).mpr titled, filled]
      exact first.check

theorem check_ok_iff (definition : FormDefinition) : definition.check = .ok () ↔ definition.Fit := by
  refine ⟨fun passed => ?_, Fit.check⟩
  rcases definition.fit_or_faulty with fit | ⟨fault, faulty⟩
  · exact fit
  · cases passed.symm.trans faulty.check

/-- A checked definition has questions, and their names are told apart. -/
theorem check_names (definition : FormDefinition) (checked : definition.check = .ok ()) :
    definition.names.Nodup ∧ definition.questions ≠ [] := by
  have fit := definition.check_ok_iff.mp checked
  exact ⟨fit.sound.apart, fit.filled⟩

theorem check_error_iff (definition : FormDefinition) (fault : FormFault) :
    definition.check = .error fault ↔ definition.Faulty fault := by
  refine ⟨fun failed => ?_, Faulty.check⟩
  rcases definition.fit_or_faulty with fit | ⟨other, faulty⟩
  · cases failed.symm.trans fit.check
  · cases failed.symm.trans faulty.check
    exact faulty

end FormDefinition

/-- Where no name comes twice, every name is found at its own place. -/
theorem Form.index_of_apart (form : Form) (apart : form.names.Nodup) (index : Nat)
    (question : Question) (held : form.question? index = some question) :
    form.indexOf? question.name = some index := by
  obtain ⟨inside, isQuestion⟩ := List.getElem?_eq_some_iff.mp held
  rw [indexOf?, List.findIdx?_eq_some_iff_getElem]
  refine ⟨inside, by simp [isQuestion], fun earlier before same => ?_⟩
  have there : earlier < form.questions.length := by omega
  have sameName : form.names[earlier]? = form.names[index]? := by
    rw [names, List.getElem?_map, List.getElem?_map, List.getElem?_eq_getElem there,
      List.getElem?_eq_getElem inside, isQuestion]
    simpa using same
  have samePlace := (List.getElem?_inj (by simpa [names] using there) apart).mp sameName
  omega

namespace FormDefinition

/-- How definitions are judged. A definition passes exactly if it is fit for use, and otherwise the
first fault is the one that is reported. In a form of a definition that passes, whatever its answers
are, looking for the name of a question finds that question. -/
theorem judged_exactly (definition : FormDefinition) :
    (definition.check = .ok () ↔ definition.Fit) ∧
    (∀ fault, definition.check = .error fault ↔ definition.Faulty fault) ∧
    (definition.check = .ok () → ∀ answerOf index declaration,
      definition.questions[index]? = some declaration →
        (Form.bind definition answerOf).indexOf? declaration.name = some index ∧
        (Form.bind definition answerOf).question? index =
          some (.ofDeclaration declaration (answerOf declaration.name))) := by
  refine ⟨definition.check_ok_iff, definition.check_error_iff, ?_⟩
  intro passed answerOf index declaration declared
  have held : (Form.bind definition answerOf).question? index =
      some (.ofDeclaration declaration (answerOf declaration.name)) := by
    simp [Form.bind, Form.question?, declared]
  have names := (Form.bind_fills definition answerOf).names
  have apart := (definition.check_names passed).1
  exact ⟨Form.index_of_apart _ (names ▸ apart) index _ held, held⟩

def census : FormDefinition where
  title := "Farm census"
  questions :=
    [⟨"cows", "How many cows?", some "Count calves separately", false⟩,
      ⟨"farm_id", "Farm identifier", none, true⟩]

def blankInFront : FormDefinition where
  title := "Farm census"
  questions := [⟨"cows", "Cows", none, false⟩, ⟨"hens", " ", none, false⟩, ⟨"cows", "", none, true⟩]

theorem judged_exactly_census :
    census.check = .ok () ∧
      (∀ answerOf, (Form.bind census answerOf).indexOf? "farm_id" = some 1) ∧
      blankInFront.Faulty (.declaration (.blankLabel "hens")) := by
  have passed : census.check = .ok () := by decide +kernel
  have failed : blankInFront.check = .error (.declaration (.blankLabel "hens")) := by
    decide +kernel
  refine ⟨passed, fun answerOf => ?_, ((judged_exactly blankInFront).2.1 _).mp failed⟩
  exact ((judged_exactly census).2.2 passed answerOf 1 _ rfl).1

end FormDefinition

end CounterForms
