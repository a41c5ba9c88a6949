import CounterForms.Proofs.Answers.File

/-!
Answers files without loss. Null and whole numbers of 64 bits are read again as what they were, so a
ledger of such values is the ledger that is read of its text, whatever its names are made of. A text
that was read as such a ledger may spell it in other ways, and may repeat names; what is written in
its place gives the same ledger again.
-/

namespace CounterForms

open Json

/-- Values that are written without loss: null and whole numbers of 64 bits, with a sign or without.
-/
def StoredAnswer.Exact : StoredAnswer → Prop
  | absent => True
  | integer value => Word.holdsEither 63 value = true
  | floating _ => False

instance : DecidablePred StoredAnswer.Exact
  | .absent => inferInstanceAs (Decidable True)
  | .integer value => inferInstanceAs (Decidable (Word.holdsEither 63 value = true))
  | .floating _ => inferInstanceAs (Decidable False)

def AnswerLedger.Exact (ledger : AnswerLedger) : Prop :=
  ∀ entry ∈ ledger.entries, entry.2.Exact

theorem StoredAnswer.exact_iff (stored : StoredAnswer) :
    stored.Exact ↔
      stored = absent ∨ ∃ value, stored = integer value ∧
        -9223372036854775808 ≤ value ∧ value < 18446744073709551616 := by
  cases stored with
  | absent => simp [Exact]
  | integer value => simp [Exact, Word.holds_either_iff]
  | floating number => simp [Exact]

theorem StoredAnswer.reread_exact (stored : StoredAnswer) (exact : stored.Exact) :
    stored.reread? = some stored := by
  cases stored with
  | absent => exact reread_absent
  | integer value => exact reread_integer value exact
  | floating number => cases exact

theorem AnswerLedger.of_text_exact (ledger : AnswerLedger) (exact : ledger.Exact) :
    ofText ledger.text = .ok ledger :=
  ledger.of_text_of_rereads fun entry member => entry.2.reread_exact (exact entry member)

theorem AnswerFile.flush_wrote (file : AnswerFile) (disk : Disk)
    (wrote : (file.flush disk).written = .ok true) :
    (file.flush disk).disk.find file.path = .ok (.file file.ledger.text.toUTF8) := by
  have outcome := file.flush_cases disk
  generalize file.flush disk = flushed at outcome wrote ⊢
  cases outcome with
  | skipped clean there => cases wrote
  | failed quiet unwritten => cases wrote
  | written extended found others => exact found

/-- What is written of null and whole numbers of 64 bits, under any names, is accepted and gives the
same names in the same order with the same values. A number is one of 64 bits if it is held as a
whole number, not as a binary one, and is in the range of one of the two words. An accepted text
that holds nothing else gives the same ledger as what is written in its place; what it gives are the
members of its object, where a repeated name keeps its first position and its last value. -/
theorem answers_text_round_trips :
    (∀ ledger : AnswerLedger, ledger.Exact ↔ ∀ entry ∈ ledger.entries, entry.2 = .absent ∨
      ∃ value, entry.2 = .integer value ∧
        -9223372036854775808 ≤ value ∧ value < 18446744073709551616) ∧
    (∀ file : AnswerFile, file.ledger.Exact →
      AnswerLedger.ofText file.ledger.text = .ok file.ledger ∧
      ∀ disk : Disk, (file.flush disk).written = .ok true →
        (file.flush disk).disk.readText file.path = .ok file.ledger.text ∧
          AnswerFile.load (file.flush disk).disk file.path = .ok { file with dirty := false }) ∧
    ∀ (text : String) (ledger : AnswerLedger), AnswerLedger.ofText text = .ok ledger →
      ledger.Exact →
      AnswerLedger.ofText ledger.text = .ok ledger ∧
        ((Text.isBlankText text = true ∧ ledger = Ledger.empty) ∨
          ∃ members, readObject text = .ok members ∧
            ledger.names = (members.map Prod.fst).eraseDups ∧
            ∀ name, ledger.get? name =
              (members.reverse.lookup name).bind StoredAnswer.ofJson?) := by
  refine ⟨?_, ?_, ?_⟩
  · intro ledger
    exact forall₂_congr fun entry _ => entry.2.exact_iff
  · intro file exact
    refine ⟨file.ledger.of_text_exact exact, fun disk wrote => ?_⟩
    have found := file.flush_wrote disk wrote
    have text := Disk.read_text_find _ file.path file.ledger.text found
    refine ⟨text, file.load_rereads _ found ?_⟩
    exact fun entry member => entry.2.reread_exact (exact entry member)
  · intro text ledger read exact
    exact ⟨ledger.of_text_exact exact, AnswerLedger.of_text_members text ledger read⟩

def oddFile : AnswerFile where
  path := ⟨"odd.json"⟩
  ledger := ⟨[("\"\\\n\x01\x7f", .integer 18446744073709551615), ("", .absent),
    ("\u2028é😀", .integer (-9223372036854775808))], by decide⟩
  dirty := true

def bareDisk : Disk := { entries := [], workingDirectory := [] }

def repeatedText : String := " \x7b\"a\" : 1, \"b\":null,\"\\u0061\":-2\x7d\n"

def repeatedLedger : AnswerLedger := ⟨[("a", .integer (-2)), ("b", .absent)], by decide⟩

theorem answers_text_round_trips_odd :
    AnswerFile.load (oddFile.flush bareDisk).disk oddFile.path =
        .ok { oddFile with dirty := false } ∧
      AnswerLedger.ofText repeatedText = .ok repeatedLedger ∧
      AnswerLedger.ofText repeatedLedger.text = .ok repeatedLedger := by
  have exact : oddFile.ledger.Exact := by unfold AnswerLedger.Exact; decide
  have wrote : (oddFile.flush bareDisk).written = .ok true :=
    ok_of_to_option _ _ (by decide +kernel)
  have repeatedExact : repeatedLedger.Exact := by unfold AnswerLedger.Exact; decide
  have read : AnswerLedger.ofText repeatedText = .ok repeatedLedger :=
    ok_of_to_option _ _ (by decide +kernel)
  obtain ⟨-, written, reopened⟩ := answers_text_round_trips
  obtain ⟨-, loaded⟩ := (written oddFile exact).2 bareDisk wrote
  obtain ⟨again, -⟩ := reopened repeatedText repeatedLedger read repeatedExact
  exact ⟨loaded, read, again⟩

end CounterForms
