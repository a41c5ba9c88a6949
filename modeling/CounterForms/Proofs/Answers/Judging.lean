import CounterForms.Proofs.Answers.Counting

/-!
Which texts are accepted as answers files. A blank text is, and so is an object in which the last
value under every name is null or equals a whole number. Of the names for which that fails, the one
that comes first in the text is reported with its last value; values that a later one under the same
name replaces do not count. A number counts for the value that it is read as.
-/

namespace CounterForms

open Json

/-- What an answers file may give to a name: null, or a number that equals a whole number. -/
inductive Json.Admitted : Json → Prop
  | null : Admitted .null
  | integer (value : Int) : Admitted (.integer value)
  | whole (number : Binary64) (value : Int) (equals : number.numerator = value * number.ratio.2) :
      Admitted (.number number)

theorem Binary64.whole_iff (number : Binary64) :
    number.isWhole = true ↔ ∃ value, number.numerator = value * number.ratio.2 := by
  refine ⟨number.numerator_of_whole, ?_⟩
  rintro ⟨value, equals⟩
  have magnitude : number.numerator.natAbs = number.ratio.1 := by
    unfold numerator
    split <;> simp
  have divides : number.ratio.2 ∣ number.ratio.1 := by
    rw [← magnitude, equals, Int.natAbs_mul, Int.natAbs_natCast]
    exact Nat.dvd_mul_left _ _
  rw [isWhole, beq_iff_eq]
  exact Nat.mod_eq_zero_of_dvd divides

theorem Json.admitted_iff (value : Json) :
    value.Admitted ↔ (StoredAnswer.ofJson? value).isSome = true := by
  constructor
  · intro admitted
    cases admitted with
    | null => rfl
    | integer => rfl
    | whole number value equals =>
        have whole := number.whole_iff.mpr ⟨value, equals⟩
        rw [StoredAnswer.ofJson?, if_pos whole]
        rfl
  · intro accepted
    cases value with
    | null => exact .null
    | integer value => exact .integer value
    | number number =>
        rw [StoredAnswer.ofJson?] at accepted
        split at accepted
        next whole =>
          obtain ⟨value, equals⟩ := number.whole_iff.mp whole
          exact .whole number value equals
        next => cases accepted
    | bool | string | array | object => cases accepted

/-- A value that was read is admitted if it is null, a whole number of 64 bits, or a binary number
that equals a whole number. -/
theorem Json.admitted_read_iff (value : Json) (fits : Fits value) :
    value.Admitted ↔ value = .null ∨
      (∃ held, value = .integer held ∧
        -9223372036854775808 ≤ held ∧ held < 18446744073709551616) ∨
      ∃ number held, value = .number number ∧ number.numerator = held * number.ratio.2 := by
  constructor
  · intro admitted
    cases admitted with
    | null => exact .inl rfl
    | integer held => exact .inr (.inl ⟨held, rfl, (Word.holds_either_iff held).mp fits⟩)
    | whole number held equals => exact .inr (.inr ⟨number, held, rfl, equals⟩)
  · rintro (rfl | ⟨held, rfl, -⟩ | ⟨number, held, rfl, equals⟩)
    · exact .null
    · exact .integer held
    · exact .whole number held equals

/-- The last value that members give to a name. -/
def LastGiven (members : List (String × Json)) (name : String) (value : Json) : Prop :=
  ∃ before after, members = before ++ (name, value) :: after ∧ name ∉ after.map Prod.fst

theorem last_given_iff (members : List (String × Json)) (name : String) (value : Json) :
    LastGiven members name value ↔ (Ledger.ofList members).get? name = some value := by
  rw [Ledger.get_of_list, List.lookup_eq_some_iff]
  constructor
  · rintro ⟨before, after, rfl, absent⟩
    refine ⟨after.reverse, before.reverse, by simp, fun entry member => ?_⟩
    rw [bne_iff_ne]
    rintro rfl
    exact absent (List.mem_map_of_mem (List.mem_reverse.mp member))
  · rintro ⟨after, before, split, apart⟩
    refine ⟨before.reverse, after.reverse, ?_, fun again => ?_⟩
    · rw [← List.reverse_reverse members, split]
      simp
    · obtain ⟨entry, member, rfl⟩ := List.mem_map.mp again
      exact bne_iff_ne.mp (apart entry (List.mem_reverse.mp member)) rfl

/-- The first name in the order of the members whose last value is not admitted, with that value. -/
def FirstRefused (members : List (String × Json)) (name : String) (value : Json) : Prop :=
  ∃ before after, members.map Prod.fst = before ++ name :: after ∧
    LastGiven members name value ∧ ¬value.Admitted ∧
    ∀ earlier ∈ before, ∀ last, LastGiven members earlier last → last.Admitted

/-- Leaving out repetitions does not change what comes first. -/
theorem find_erase_dups (names : List String) (asked : String → Bool) :
    names.eraseDups.find? asked = names.find? asked := by
  induction names using List.reverseRecOn with
  | nil => rfl
  | append_singleton names last induction =>
      rw [List.eraseDups_append, List.find?_append, List.find?_append, induction]
      by_cases known : last ∈ names
      · have removed : [last].removeAll names = [] := by simp [List.removeAll, known]
        rw [removed, List.eraseDups_nil, List.find?_nil, Option.or_none]
        cases found : names.find? asked with
        | some first => rfl
        | none =>
            have refused := List.find?_eq_none.mp found last known
            simp [refused]
      · have kept : [last].removeAll names = [last] := by simp [List.removeAll, known]
        rw [kept]
        rfl

namespace AnswerLedger

def refuses (entry : String × Json) : Bool := (StoredAnswer.ofJson? entry.2).isNone

theorem refuses_iff (entry : String × Json) : refuses entry = true ↔ ¬entry.2.Admitted := by
  rw [Json.admitted_iff, refuses]
  simp

/-- The first entry that is refused is the one that is reported. -/
theorem fault_of_classify_all (entries : List (String × Json)) :
    faultOf? (classifyAll entries) =
      (entries.find? refuses).map fun entry => ⟨[], .answerKind entry.1 entry.2⟩ := by
  induction entries with
  | nil => rfl
  | cons entry later induction =>
      rw [List.find?_cons, refuses, classifyAll, classify]
      cases StoredAnswer.ofJson? entry.2 with
      | none => rfl
      | some stored =>
          rw [Option.isNone_some, ← induction]
          cases classifyAll later <;> rfl

theorem read_object_not_blank (text : String) (members : List (String × Json))
    (read : readObject text = .ok members) : Text.isBlankText text = false := by
  cases blank : Text.isBlankText text with
  | false => rfl
  | true =>
      exfalso
      unfold readObject at read
      dsimp only at read
      split at read
      · cases read
      next rest opened =>
        -- The brace that opens the object is no blank.
        have brace : '\x7b' ∈ text.toList := by
          have within : '\x7b' ∈ skipSpaces text.toList := by simp [opened]
          exact List.dropWhile_sublist _ |>.subset within
        have isBlank := List.all_eq_true.mp blank _ brace
        exact absurd isBlank (by decide)
      · cases read
      · obtain ⟨leaf, -, refused⟩ := ok_of_bind read
        cases refused

theorem of_text_object (text : String) (members : List (String × Json))
    (read : readObject text = .ok members) :
    faultOf? (ofText text) = ((Ledger.ofList members).entries.find? refuses).map fun entry =>
      ⟨[], .answerKind entry.1 entry.2⟩ := by
  have shown := read_object_not_blank text members read
  have judged : ofText text = classifyAll (Ledger.ofList members).entries >>= fun stored =>
      .ok (Ledger.ofList stored) := by
    rw [ofText, shown, read]
    rfl
  rw [judged, ← fault_of_classify_all]
  cases classifyAll (Ledger.ofList members).entries <;> rfl

def refusedAt (members : List (String × Json)) (name : String) : Bool :=
  ((Ledger.ofList members).get? name).any fun value => refuses (name, value)

theorem refused_at_entry (members : List (String × Json)) (entry : String × Json)
    (held : entry ∈ (Ledger.ofList members).entries) :
    refusedAt members entry.1 = refuses entry := by
  have found := (Ledger.get_eq_some (Ledger.ofList members) entry.1 entry.2).mpr held
  rw [refusedAt, found]
  rfl

theorem not_refused_at (members : List (String × Json)) (name : String) :
    refusedAt members name = false ↔ ∀ last, LastGiven members name last → last.Admitted := by
  simp only [last_given_iff]
  rw [refusedAt]
  cases (Ledger.ofList members).get? name with
  | none => simp
  | some value =>
      rw [Option.any_some, Bool.eq_false_iff, ne_eq, refuses_iff, not_not]
      simp

/-- The first entry that is refused is under the first name whose last value is. -/
theorem find_refuses_iff (members : List (String × Json)) (name : String) (value : Json) :
    (Ledger.ofList members).entries.find? refuses = some (name, value) ↔
      FirstRefused members name value := by
  have byName : (Ledger.ofList members).entries.find? refuses =
      (Ledger.ofList members).entries.find? (refusedAt members ∘ Prod.fst) := by
    have same : (Ledger.ofList members).entries.filter refuses =
        (Ledger.ofList members).entries.filter (refusedAt members ∘ Prod.fst) :=
      List.filter_congr fun entry held => (refused_at_entry members entry held).symm
    rw [← List.head?_filter, ← List.head?_filter, same]
  have named : ((Ledger.ofList members).entries.find? refuses).map Prod.fst =
      (members.map Prod.fst).find? (refusedAt members) := by
    rw [byName, ← List.find?_map, ← find_erase_dups (members.map Prod.fst),
      ← Ledger.names_of_list]
    rfl
  constructor
  · intro found
    rw [found, Option.map_some] at named
    obtain ⟨-, before, after, split, passed⟩ := List.find?_eq_some_iff_append.mp named.symm
    have held := List.mem_of_find?_eq_some found
    have refused : refuses (name, value) = true := List.find?_some found
    refine ⟨before, after, split, ?_, (refuses_iff _).mp refused, fun earlier member => ?_⟩
    · rw [last_given_iff, Ledger.get_eq_some]
      exact held
    · exact (not_refused_at members earlier).mp (by simpa using passed earlier member)
  · rintro ⟨before, after, split, last, refused, passed⟩
    have held := (last_given_iff members name value).mp last
    have asked : (members.map Prod.fst).find? (refusedAt members) = some name := by
      rw [List.find?_eq_some_iff_append]
      refine ⟨?_, before, after, split, fun earlier member => ?_⟩
      · rw [refusedAt, held]
        exact (refuses_iff (name, value)).mpr refused
      · simpa using (not_refused_at members earlier).mpr (passed earlier member)
    rw [asked] at named
    obtain ⟨⟨first, other⟩, found, rfl⟩ := Option.map_eq_some_iff.mp named
    have again := (Ledger.get_eq_some (Ledger.ofList members) first other).mpr
      (List.mem_of_find?_eq_some found)
    cases Option.some.inj (again.symm.trans held)
    exact found

/-- Without a name whose last value is refused no entry is. -/
theorem find_refuses_none (members : List (String × Json)) :
    (Ledger.ofList members).entries.find? refuses = none ↔
      ∀ name last, LastGiven members name last → last.Admitted := by
  simp only [List.find?_eq_none, refuses_iff, not_not, last_given_iff, Ledger.get_eq_some]
  exact ⟨fun passed name last held => passed (name, last) held,
    fun passed entry held => passed entry.1 entry.2 held⟩

/-- Which texts are answers files. A text is accepted exactly if it is blank, and then it holds no
answers, or is an object in which the last value under every name is null or equals a whole number.
A number counts as it is read and held: as a whole number of 64 bits, or else as a binary number.
What an accepted object gives a name is the last value under it. Of an object in which some last
value is neither, the first such name in the order of the text is reported with its last value. -/
theorem texts_accepted (text : String) :
    ((∃ ledger, ofText text = .ok ledger) ↔ Text.isBlankText text = true ∨
      ∃ members, readObject text = .ok members ∧
        ∀ name last, LastGiven members name last → last.Admitted) ∧
    (Text.isBlankText text = true → ofText text = .ok Ledger.empty) ∧
    ∀ members, readObject text = .ok members →
      (∀ name last, LastGiven members name last → (last.Admitted ↔ last = .null ∨
        (∃ value, last = .integer value ∧
          -9223372036854775808 ≤ value ∧ value < 18446744073709551616) ∨
        ∃ number value, last = .number number ∧ number.numerator = value * number.ratio.2)) ∧
      (∀ ledger, ofText text = .ok ledger → ∀ name stored, ledger.get? name = some stored ↔
        ∃ last, LastGiven members name last ∧ StoredAnswer.ofJson? last = some stored) ∧
      ((∃ name last, LastGiven members name last ∧ ¬last.Admitted) →
        ∃ name last, FirstRefused members name last ∧
          ofText text = .error ⟨[], .answerKind name last⟩ ∧
          (Failure.mk [] (.answerKind name last)).messages =
            ["Answer '" ++ name ++ "' must be an integer or null, found " ++
              String.ofList last.compact]) := by
  have blank (isBlank : Text.isBlankText text = true) : ofText text = .ok Ledger.empty := by
    rw [ofText, if_pos isBlank]
  have accepted (members : List (String × Json)) (read : readObject text = .ok members) :
      (∃ ledger, ofText text = .ok ledger) ↔
        ∀ name last, LastGiven members name last → last.Admitted := by
    rw [← fault_of_none, of_text_object text members read, Option.map_eq_none_iff,
      find_refuses_none]
  refine ⟨⟨?_, ?_⟩, blank, fun members read => ⟨?_, ?_, ?_⟩⟩
  · rintro ⟨ledger, isAnswers⟩
    rcases of_text_members text ledger isAnswers with ⟨isBlank, -⟩ | ⟨members, read, -, -⟩
    · exact .inl isBlank
    · exact .inr ⟨members, read, (accepted members read).mp ⟨ledger, isAnswers⟩⟩
  · rintro (isBlank | ⟨members, read, passed⟩)
    · exact ⟨_, blank isBlank⟩
    · exact (accepted members read).mpr passed
  · rintro name last ⟨before, after, split, -⟩
    have object : (readObject text).toOption = some members := by rw [read]; rfl
    have fits := read_object_fits text members object (name, last) (by simp [split])
    exact last.admitted_read_iff fits
  · intro ledger isAnswers name stored
    rcases of_text_members text ledger isAnswers with ⟨isBlank, -⟩ | ⟨again, reread, -, held⟩
    · rw [read_object_not_blank text members read] at isBlank
      cases isBlank
    · cases Except.ok.inj (reread.symm.trans read)
      simp only [last_given_iff, Ledger.get_of_list]
      rw [held, Option.bind_eq_some_iff]
  · rintro ⟨other, last, given, refused⟩
    cases found : (Ledger.ofList members).entries.find? refuses with
    | none => exact absurd ((find_refuses_none members).mp found other last given) refused
    | some entry =>
        refine ⟨entry.1, entry.2, (find_refuses_iff members _ _).mp found, ?_, rfl⟩
        rw [← fault_of_some, of_text_object text members read, found]
        rfl

def replacedText : String := "\x7b\"b\": \"x\", \"a\": true, \"c\": 1.0, \"b\": 2, \"a\": [1]\x7d"

theorem texts_accepted_replaced :
    ∃ members name last, readObject replacedText = .ok members ∧
      FirstRefused members name last ∧
      ofText replacedText = .error ⟨[], .answerKind name last⟩ ∧
      (faultOf? (ofText replacedText)).map Failure.messages =
        some ["Answer 'a' must be an integer or null, found [1]"] := by
  have shown : Text.isBlankText replacedText = false := by decide +kernel
  have object : (readObject replacedText).toOption.isSome = true := by decide +kernel
  have reported : (faultOf? (ofText replacedText)).map Failure.messages =
      some ["Answer 'a' must be an integer or null, found [1]"] := by decide +kernel
  obtain ⟨accepted, -, judged⟩ := texts_accepted replacedText
  obtain ⟨members, found⟩ := Option.isSome_iff_exists.mp object
  have read : readObject replacedText = .ok members := ok_of_to_option _ _ found
  have someRefused : ∃ name last, LastGiven members name last ∧ ¬last.Admitted := by
    by_contra none
    push Not at none
    obtain ⟨ledger, isAnswers⟩ := accepted.mpr (.inr ⟨members, read, none⟩)
    rw [isAnswers] at reported
    cases reported
  obtain ⟨name, last, first, refused, -⟩ := (judged members read).2.2 someRefused
  exact ⟨members, name, last, read, first, refused, reported⟩

end AnswerLedger

end CounterForms
