import CounterForms.Proofs.Answers.Ledger
import CounterForms.Proofs.Answers.Stored

/-!
The text of an answers file. Reading what was written for a ledger gives the same names in the same
order, each with what becomes of its value when its own text is read again; it is refused exactly if
one of the values is. Whatever an accepted file holds may be stored.
-/

namespace CounterForms

open Json

namespace AnswerLedger

def closing : List Char := ['\n', '\x7d', '\n']

def behindEntry (later : List (String × StoredAnswer)) : List Char :=
  later.flatMap (fun entry => ',' :: entryLine entry) ++ closing

def member? (entry : String × StoredAnswer) : Option (String × Json) :=
  entry.2.json?.map fun value => (entry.1, value)

theorem ends_number_behind (later : List (String × StoredAnswer)) :
    EndsNumber (behindEntry later) := by
  cases later with
  | nil => exact ends_number_cons '\n' _ rfl
  | cons entry later => exact ends_number_cons ',' _ rfl

theorem intercalate_lines (line : List Char) (lines : List (List Char)) :
    [','].intercalate (line :: lines) = line ++ lines.flatMap fun other => ',' :: other := by
  induction lines generalizing line with
  | nil => simp [List.intercalate]
  | cons other lines induction =>
      have step : [','].intercalate (line :: other :: lines) =
          line ++ ',' :: [','].intercalate (other :: lines) := by
        simp [List.intercalate]
      rw [step, induction, List.flatMap_cons, List.cons_append]

theorem characters_cons (entry : String × StoredAnswer) (later : List (String × StoredAnswer))
    (ledger : AnswerLedger) (held : ledger.entries = entry :: later) :
    ledger.characters = '\x7b' :: (entryLine entry ++ behindEntry later) := by
  rw [characters, held, behindEntry, List.map_cons, intercalate_lines, List.flatMap_map,
    List.append_assoc]
  rfl

theorem next_member_entry (first : Bool) (entry : String × StoredAnswer) (rest : List Char) :
    nextMember first ((if first then [] else [',']) ++ entryLine entry ++ rest) =
      .ok (.element (entry.1.toList.flatMap escaped ++
        '"' :: ':' :: ' ' :: (entry.2.text ++ rest))) := by
  have line : entryLine entry ++ rest = '\n' :: ' ' :: ' ' :: '"' ::
      (entry.1.toList.flatMap escaped ++ '"' :: ':' :: ' ' :: (entry.2.text ++ rest)) := by
    simp [entryLine, quote]
  rw [List.append_assoc, line]
  cases first <;> rfl

/-- What is left over of a number, unless it is nothing, is no further member. -/
theorem read_members_leftover (budget depth : Nat) (first : Char) (later : List Char)
    (isNumber : isNumberCharacter first = true) :
    (readMembers (budget + 1) depth false (first :: later)).toOption = none := by
  obtain ⟨shown, -, -, noEnd, noComma⟩ := number_character_apart first isNumber
  have refused : nextMember false (first :: later) = .error .malformed := by
    simp only [nextMember, skip_spaces_cons first later shown]
    split <;> simp_all [throw, throwThe, MonadExceptOf.throw]
  rw [readMembers, refused]
  rfl

/-- Reading from an entry on gives its member and then the members behind it. -/
theorem read_members_entry (budget depth : Nat) (first : Bool) (entry : String × StoredAnswer)
    (rest : List Char) (ends : EndsNumber rest) :
    (readMembers (budget + 2) depth first
        ((if first then [] else [',']) ++ entryLine entry ++ rest)).toOption =
      (member? entry).bind fun member =>
        (readMembers (budget + 1) depth false rest).toOption.map fun read =>
          (member :: read.1, read.2) := by
  have opened : readMembers (budget + 2) depth first
      ((if first then [] else [',']) ++ entryLine entry ++ rest) =
      readValue (budget + 1) depth (' ' :: (entry.2.text ++ rest)) >>= fun value =>
        readMembers (budget + 1) depth false value.2 >>= fun read =>
          pure ((entry.1, value.1) :: read.1, read.2) := by
    rw [readMembers, next_member_entry]
    simp only [bind, Except.bind, read_string_quoted]
    rfl
  rw [opened, to_option_bind, read_value_space, entry.2.read_text_append budget depth rest ends,
    member?, entry.2.json_eq]
  have leftover := entry.2.read_text_rest
  cases reading : (readValue 1 0 entry.2.text).toOption with
  | none => rfl
  | some read =>
      obtain ⟨value, left⟩ := read
      rw [reading] at leftover
      simp only [Option.map_some, Option.bind_some, withBehind, to_option_bind]
      cases left with
      | nil =>
          rw [List.nil_append]
          cases (readMembers (budget + 1) depth false rest).toOption <;> rfl
      | cons character more =>
          have isNumber := leftover (value, character :: more) rfl character (by simp)
          rw [List.cons_append, read_members_leftover budget depth character _ isNumber]
          rfl

theorem read_members_behind (later : List (String × StoredAnswer)) (budget depth : Nat)
    (enough : later.length < budget) :
    (readMembers budget depth false (behindEntry later)).toOption =
      (later.mapM member?).map fun members => (members, ['\n']) := by
  induction later generalizing budget with
  | nil =>
      obtain ⟨less, rfl⟩ := Nat.exists_eq_succ_of_ne_zero (Nat.ne_zero_of_lt enough)
      rfl
  | cons entry later induction =>
      obtain ⟨less, rfl⟩ := Nat.exists_eq_add_of_le (show 2 ≤ budget by
        simp only [List.length_cons] at enough
        omega)
      have split : behindEntry (entry :: later) =
          (if false then [] else [',']) ++ entryLine entry ++ behindEntry later := by
        simp [behindEntry]
      rw [split, Nat.add_comm 2 less,
        read_members_entry less depth false entry _ (ends_number_behind later),
        induction (less + 1) (by simp only [List.length_cons] at enough; omega), List.mapM_cons]
      cases member? entry with
      | none => rfl
      | some member => cases later.mapM member? <;> rfl

theorem behind_entry_length (later : List (String × StoredAnswer)) :
    later.length ≤ (behindEntry later).length := by
  induction later with
  | nil => simp
  | cons entry later induction =>
      simp only [behindEntry, List.flatMap_cons, List.length_append, List.length_cons]
        at induction ⊢
      omega

theorem read_object_text (ledger : AnswerLedger) :
    (readObject ledger.text).toOption = ledger.entries.mapM member? := by
  cases held : ledger.entries with
  | nil =>
      have shown : ledger.text.toList = ['\x7b', '\x7d', '\n'] := by
        rw [text, String.toList_ofList, characters, held]
        rfl
      rw [readObject, shown]
      rfl
  | cons entry later =>
      have shown : ledger.text.toList = '\x7b' :: (entryLine entry ++ behindEntry later) := by
        rw [text, String.toList_ofList, characters_cons entry later ledger held]
      have members (budget : Nat) (enough : later.length < budget + 1) :
          (readMembers (budget + 2) (greatestDepth - 1) true
            (entryLine entry ++ behindEntry later)).toOption =
          ((entry :: later).mapM member?).map fun members => (members, ['\n']) := by
        have first := read_members_entry budget (greatestDepth - 1) true entry _
          (ends_number_behind later)
        simp only [if_true, List.nil_append] at first
        rw [first, read_members_behind later _ _ enough, List.mapM_cons]
        cases member? entry with
        | none => rfl
        | some member => cases later.mapM member? <;> rfl
      have enough : later.length < 2 * ledger.text.toList.length + 1 := by
        have long := behind_entry_length later
        simp only [shown, List.length_cons, List.length_append]
        omega
      have opened : readObject ledger.text =
          readMembers (2 * ledger.text.toList.length + 2) (greatestDepth - 1) true
            (entryLine entry ++ behindEntry later) >>= fun read =>
              if skipSpaces read.2 = [] then pure read.1 else throw .malformed := by
        rw [readObject, shown]
        rfl
      rw [opened, to_option_bind, members _ enough]
      cases (entry :: later).mapM member? <;> rfl

theorem or_fail_to_option {Fault Content : Type} (cause : Fault → Cause)
    (outcome : Except Fault Content) : (orFail cause outcome).toOption = outcome.toOption := by
  cases outcome <;> rfl

def stored? (entry : String × Json) : Option (String × StoredAnswer) :=
  (StoredAnswer.ofJson? entry.2).map fun stored => (entry.1, stored)

def reread? (entry : String × StoredAnswer) : Option (String × StoredAnswer) :=
  entry.2.reread?.map fun stored => (entry.1, stored)

theorem classify_all_to_option (entries : List (String × Json)) :
    (classifyAll entries).toOption = entries.mapM stored? := by
  induction entries with
  | nil => rfl
  | cons entry later induction =>
      have first : (classify entry).toOption = stored? entry := by
        rw [classify, stored?]
        cases StoredAnswer.ofJson? entry.2 <;> rfl
      rw [classifyAll, to_option_bind, first, List.mapM_cons]
      cases stored? entry with
      | none => rfl
      | some stored =>
          rw [Option.bind_some, to_option_bind, induction]
          rfl

/-- Going through a list twice, or once with both steps at each element. -/
theorem map_m_bind {One Other Last : Type} (first : One → Option Other)
    (next : Other → Option Last) (list : List One) :
    ((list.mapM first).bind fun middle => middle.mapM next) =
      list.mapM fun one => (first one).bind next := by
  induction list with
  | nil => rfl
  | cons one later induction =>
      rw [List.mapM_cons, List.mapM_cons, ← induction]
      cases first one with
      | none => rfl
      | some other =>
          cases later.mapM first with
          | none => simp
          | some others =>
              show (List.mapM next (other :: others)) = _
              rw [List.mapM_cons]
              rfl

theorem map_m_names {One Other : Type} (step : String × One → Option (String × Other))
    (keeps : ∀ entry, ∀ result ∈ step entry, result.1 = entry.1) (entries : List (String × One))
    (results : List (String × Other)) (done : entries.mapM step = some results) :
    results.map Prod.fst = entries.map Prod.fst := by
  induction entries generalizing results with
  | nil =>
      cases Option.some.inj done
      rfl
  | cons entry later induction =>
      rw [List.mapM_cons] at done
      obtain ⟨result, first, rest⟩ := Option.bind_eq_some_iff.mp done
      obtain ⟨others, behind, same⟩ := Option.bind_eq_some_iff.mp rest
      cases Option.some.inj same
      rw [List.map_cons, List.map_cons, keeps entry result first, induction others behind]

/-- Looking a name up after a step was made at every value, or making the step at the value found.
-/
theorem map_m_lookup {One Other : Type} (step : One → Option Other) (entries : List (String × One))
    (results : List (String × Other))
    (done : (entries.mapM fun entry => (step entry.2).map fun other => (entry.1, other)) =
      some results) (name : String) :
    results.lookup name = (entries.lookup name).bind step := by
  induction entries generalizing results with
  | nil =>
      cases Option.some.inj done
      rfl
  | cons entry later induction =>
      rw [List.mapM_cons] at done
      obtain ⟨result, first, rest⟩ := Option.bind_eq_some_iff.mp done
      obtain ⟨others, behind, same⟩ := Option.bind_eq_some_iff.mp rest
      obtain ⟨other, stepped, rfl⟩ := Option.map_eq_some_iff.mp first
      cases Option.some.inj same
      rw [lookup_cons, lookup_cons, induction others behind]
      by_cases equal : name = entry.1
      · rw [if_pos equal, if_pos equal, Option.bind_some, stepped]
      · rw [if_neg equal, if_neg equal]

theorem member_name (entry : String × StoredAnswer) :
    ∀ member ∈ member? entry, member.1 = entry.1 := by
  intro member read
  obtain ⟨value, -, rfl⟩ := Option.map_eq_some_iff.mp read
  rfl

theorem stored_name (entry : String × Json) : ∀ stored ∈ stored? entry, stored.1 = entry.1 := by
  intro stored accepted
  obtain ⟨value, -, rfl⟩ := Option.map_eq_some_iff.mp accepted
  rfl

theorem text_not_blank (ledger : AnswerLedger) : Text.isBlankText ledger.text = false := by
  have brace : Text.isBlank '\x7b' = false := by decide
  rw [Text.isBlankText, text, String.toList_ofList, characters]
  split <;> simp [brace]

theorem of_text_to_option (text : String) (shown : Text.isBlankText text = false) :
    (ofText text).toOption = (readObject text).toOption.bind fun members =>
      ((Ledger.ofList members).entries.mapM stored?).map Ledger.ofList := by
  unfold ofText
  simp only [shown, Bool.false_eq_true, if_false, to_option_bind, or_fail_to_option]
  cases (readObject text).toOption with
  | none => rfl
  | some members =>
      simp only [Option.bind_some, classify_all_to_option]
      cases (Ledger.ofList members).entries.mapM stored? <;> rfl

/-- Reading the text of a ledger gives each name in its place with its value read again, and is
refused if one of the values is. -/
theorem of_text_text (ledger : AnswerLedger) :
    (ofText ledger.text).toOption.map Ledger.entries = ledger.entries.mapM reread? := by
  rw [of_text_to_option ledger.text ledger.text_not_blank, read_object_text]
  have twice : ledger.entries.mapM reread? =
      (ledger.entries.mapM member?).bind fun members => members.mapM stored? := by
    rw [map_m_bind]
    congr 1
    funext entry
    rw [reread?, StoredAnswer.reread?, member?]
    cases entry.2.json? <;> rfl
  rw [twice]
  cases read : ledger.entries.mapM member? with
  | none => rfl
  | some members =>
      have names := map_m_names member? member_name ledger.entries members read
      have apart : (members.map Prod.fst).Nodup := names ▸ ledger.distinct
      rw [Option.bind_some, Option.bind_some, Ledger.entries_of_list members apart]
      cases accepted : members.mapM stored? with
      | none => rfl
      | some stored =>
          have storedNames := map_m_names stored? stored_name members stored accepted
          simp [Ledger.entries_of_list stored (storedNames ▸ apart)]

theorem reread_all_defined (entries : List (String × StoredAnswer)) :
    (entries.mapM reread?).isSome = true ↔ ∀ entry ∈ entries, entry.2.reread?.isSome = true := by
  induction entries with
  | nil => simp
  | cons entry later induction =>
      rw [List.forall_mem_cons, ← induction, List.mapM_cons, reread?]
      cases entry.2.reread? with
      | none => simp
      | some stored => cases later.mapM reread? <;> simp

/-- A ledger that was written and read again gives each name the value that its own value is read
again as. -/
theorem get_of_text (ledger again : AnswerLedger) (read : ofText ledger.text = .ok again)
    (name : String) : again.get? name = (ledger.get? name).bind StoredAnswer.reread? := by
  have entries := ledger.of_text_text
  rw [read] at entries
  exact map_m_lookup StoredAnswer.reread? ledger.entries again.entries entries.symm name

theorem of_text_accepted (ledger : AnswerLedger) :
    (∃ again, ofText ledger.text = .ok again) ↔
      ∀ entry ∈ ledger.entries, entry.2.reread?.isSome = true := by
  rw [← reread_all_defined, ← of_text_text]
  cases ofText ledger.text with
  | error failure => simp [Except.toOption]
  | ok again => simp [Except.toOption]

/-- A ledger whose values come back when they are read again comes back as a whole. -/
theorem of_text_of_rereads (ledger : AnswerLedger)
    (rereads : ∀ entry ∈ ledger.entries, entry.2.reread? = some entry.2) :
    ofText ledger.text = .ok ledger := by
  have same : ledger.entries.mapM reread? = some ledger.entries := by
    generalize ledger.entries = entries at rereads
    induction entries with
    | nil => rfl
    | cons entry later induction =>
        rw [List.mapM_cons, reread?, rereads entry (by simp),
          induction fun other member => rereads other (by simp [member])]
        rfl
  have entries := ledger.of_text_text.trans same
  cases read : ofText ledger.text with
  | error failure =>
      rw [read] at entries
      cases entries
  | ok again =>
      rw [read] at entries
      have equal : again.entries = ledger.entries := Option.some.inj entries
      cases again
      cases ledger
      cases equal
      rfl

/-- What is read of a text: nothing if it is blank, and else the members of an object, a repeated
name in its first position with its last value. -/
theorem of_text_members (text : String) (ledger : AnswerLedger) (read : ofText text = .ok ledger) :
    (Text.isBlankText text = true ∧ ledger = Ledger.empty) ∨
      ∃ members, readObject text = .ok members ∧
        ledger.names = (members.map Prod.fst).eraseDups ∧
        ∀ name, ledger.get? name = (members.reverse.lookup name).bind StoredAnswer.ofJson? := by
  by_cases blank : Text.isBlankText text = true
  · rw [ofText, if_pos blank] at read
    exact .inl ⟨blank, (Except.ok.inj read).symm⟩
  · have option : (ofText text).toOption = some ledger := by rw [read]; rfl
    rw [of_text_to_option text (by simpa using blank)] at option
    obtain ⟨members, object, accepted⟩ := Option.bind_eq_some_iff.mp option
    obtain ⟨stored, judged, rfl⟩ := Option.map_eq_some_iff.mp accepted
    have names := map_m_names stored? stored_name _ stored judged
    have placed : (Ledger.ofList stored).entries = stored :=
      Ledger.entries_of_list stored (names ▸ (Ledger.ofList members).distinct)
    refine .inr ⟨members, ok_of_to_option _ members object, ?_, fun name => ?_⟩
    · rw [Ledger.names, placed, names]
      exact Ledger.names_of_list members
    · rw [Ledger.get?, placed, map_m_lookup StoredAnswer.ofJson? _ stored judged name,
        ← Ledger.get_of_list]
      rfl

theorem stored_storable (entry : String × Json) (fits : Fits entry.2) :
    ∀ stored ∈ stored? entry, stored.2.Storable := by
  intro stored accepted
  obtain ⟨value, kind, rfl⟩ := Option.map_eq_some_iff.mp accepted
  revert kind
  obtain ⟨name, found⟩ := entry
  cases found with
  | null => intro kind; cases Option.some.inj kind; trivial
  | integer whole => intro kind; cases Option.some.inj kind; exact fits
  | number number =>
      intro kind
      simp only [StoredAnswer.ofJson?] at kind
      split at kind
      next whole => cases Option.some.inj kind; exact whole
      next => cases kind
  | bool _ => intro kind; cases kind
  | string _ => intro kind; cases kind
  | array _ => intro kind; cases kind
  | object _ => intro kind; cases kind

theorem map_m_forall {One Other : Type} (step : One → Option Other) (before : One → Prop)
    (after : Other → Prop) (kept : ∀ one, before one → ∀ other ∈ step one, after other)
    (list : List One) (results : List Other) (done : list.mapM step = some results)
    (given : ∀ one ∈ list, before one) : ∀ other ∈ results, after other := by
  induction list generalizing results with
  | nil =>
      cases Option.some.inj done
      simp
  | cons one later induction =>
      rw [List.mapM_cons] at done
      obtain ⟨result, first, rest⟩ := Option.bind_eq_some_iff.mp done
      obtain ⟨others, behind, same⟩ := Option.bind_eq_some_iff.mp rest
      cases Option.some.inj same
      rw [List.forall_mem_cons]
      exact ⟨kept one (given one (by simp)) result first,
        induction others behind fun other member => given other (by simp [member])⟩

theorem read_members_fits (budget depth : Nat) (first : Bool) (input : List Char) :
    Gives (fun members _ => ∀ member ∈ members, Fits member.2)
      (readMembers budget depth first input) := by
  induction budget generalizing first input with
  | zero => exact gives_throw
  | succ budget induction =>
      intro read member
      rw [readMembers, to_option_bind] at member
      obtain ⟨next, -, reached⟩ := Option.bind_eq_some_iff.mp member
      cases next with
      | closed rest =>
          cases Option.some.inj reached
          simp
      | element rest =>
          simp only [to_option_bind, Option.bind_eq_some_iff] at reached
          obtain ⟨key, -, colon, -, value, valued, others, behind, same⟩ := reached
          cases Option.some.inj same
          rw [List.forall_mem_cons]
          exact ⟨read_value_gives budget depth colon value valued,
            induction false value.2 others behind⟩

theorem read_object_fits (text : String) (members : List (String × Json))
    (read : (readObject text).toOption = some members) : ∀ member ∈ members, Fits member.2 := by
  unfold readObject at read
  dsimp only at read
  split at read
  · cases read
  · simp only [to_option_bind, Option.bind_eq_some_iff] at read
    obtain ⟨result, inside, outcome⟩ := read
    split at outcome
    · cases Option.some.inj outcome
      exact read_members_fits _ _ _ _ result inside
    · cases outcome
  · cases read
  · simp only [to_option_bind, Option.bind_eq_some_iff] at read
    obtain ⟨-, -, refused⟩ := read
    cases refused

/-- Whatever an accepted file holds may be stored. -/
theorem of_text_storable (text : String) (ledger : AnswerLedger) (read : ofText text = .ok ledger) :
    ∀ entry ∈ ledger.entries, entry.2.Storable := by
  by_cases blank : Text.isBlankText text = true
  · rw [ofText, if_pos blank] at read
    cases read
    intro entry member
    cases member
  · have option : (ofText text).toOption = some ledger := by rw [read]; rfl
    rw [of_text_to_option text (by simpa using blank)] at option
    obtain ⟨members, object, accepted⟩ := Option.bind_eq_some_iff.mp option
    obtain ⟨stored, judged, rfl⟩ := Option.map_eq_some_iff.mp accepted
    have fits := read_object_fits text members object
    intro entry member
    refine map_m_forall stored? (fun entry => Fits entry.2) (fun entry => entry.2.Storable)
      stored_storable _ stored judged ?_ entry (Ledger.mem_of_list stored member)
    exact fun one held => fits one (Ledger.mem_of_list members held)

end AnswerLedger

end CounterForms
