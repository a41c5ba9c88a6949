import CounterForms.Proofs.Answers.Calls
import CounterForms.Proofs.Answers.RoundTrip

/-!
Flushes after one that failed. A flush that fails leaves memory as it was, so what is entered
afterwards is added to the answers that are still to be written. The next flush that goes well
writes them all, unless the file was clean and is still clean, and its path led nowhere and now
leads somewhere: then the flush that failed left something at the path, and that is taken for the
file.
-/

namespace CounterForms

namespace AnswerLedger

/-- The text of a ledger is read as the ledger exactly if each of its values is read as it was. -/
theorem of_text_same_iff (ledger : AnswerLedger) :
    ofText ledger.text = .ok ledger ↔
      ∀ entry ∈ ledger.entries, entry.2.reread? = some entry.2 := by
  constructor
  · intro read entry member
    have held := (ledger.get_eq_some entry.1 entry.2).mpr member
    have again := get_of_text ledger ledger read entry.1
    rw [held, Option.bind_some] at again
    exact again.symm
  · exact ledger.of_text_of_rereads

end AnswerLedger

namespace AnswerFile

/-- A file on the disk is read as what was written exactly if each value is read as it was. -/
theorem load_written_iff (file : AnswerFile) (disk : Disk)
    (found : disk.find file.path = .ok (.file file.ledger.text.toUTF8)) :
    load disk file.path = .ok { file with dirty := false } ↔
      ∀ entry ∈ file.ledger.entries, entry.2.reread? = some entry.2 := by
  rw [load_text disk file.path _ found, ← file.ledger.of_text_same_iff]
  cases AnswerLedger.ofText file.ledger.text with
  | error failure => simp [during, Except.map]
  | ok ledger => simp [during, Except.map]

/-- A file is dirty after answers were entered exactly if it was before or did not hold them all. -/
theorem set_answers_dirty_iff (file : AnswerFile) (answers : List (String × Option Int)) :
    (file.setAnswers answers).dirty = true ↔ file.dirty = true ∨
      ∃ answer ∈ answers, file.ledger.get? answer.1 ≠ some (.ofAnswer answer.2) := by
  rw [← Bool.not_eq_false, set_answers_clean_iff, Decidable.not_and_iff_or_not]
  simp

/-- A flush that goes well writes a file that is dirty or not there, and no other. -/
theorem flush_wrote_iff (file : AnswerFile) (disk : Disk) (wrote : Bool)
    (done : (file.flush disk).written = .ok wrote) :
    wrote = true ↔ file.dirty = true ∨ disk.contains file.path = false := by
  by_cases idle : file.dirty = false ∧ disk.contains file.path = true
  · rw [(file.flush_idle_iff disk).mpr idle] at done
    cases done
    simp [idle.1, idle.2]
  · have outcome := file.flush_cases disk
    generalize file.flush disk = flushed at outcome done
    cases outcome with
    | skipped clean there => exact absurd ⟨clean, there⟩ idle
    | written extended found others =>
        cases done
        apply iff_of_true rfl
        rcases Decidable.not_and_iff_or_not.mp idle with dirty | missing
        · exact .inl (by simpa using dirty)
        · exact .inr (by simpa using missing)
    | failed quiet unwritten => cases done

end AnswerFile

def FileCall.entered? : FileCall → Option (String × Option Int)
  | .set name answer _ => some (name, answer)
  | .flush => none

namespace OpenFile

def Fails (held : OpenFile) : Prop := ∃ failure, held.flushed.written = .error failure

def FailsAll (held : OpenFile) : List FileCall → Prop
  | [] => True
  | call :: later => (call = .flush → held.Fails) ∧ (held.call call).FailsAll later

theorem fails_of_undone (held : OpenFile) (undone : held.flushed.written.toOption = none) :
    held.Fails := by
  unfold Fails
  generalize held.flushed.written = written at undone ⊢
  cases written with
  | error failure => exact ⟨failure, rfl⟩
  | ok wrote => cases undone

theorem Fails.call_flush_file {held : OpenFile} (fails : held.Fails) :
    (held.call .flush).file = held.file := by
  obtain ⟨failure, failed⟩ := fails
  exact held.flushed_failed failure failed

/-- Only a file that is dirty or not there is tried to be written. -/
theorem Fails.unwritten {held : OpenFile} (fails : held.Fails) :
    ¬(held.file.dirty = false ∧ held.disk.contains held.file.path = true) := by
  intro idle
  obtain ⟨failure, failed⟩ := fails
  rw [flushed, (held.file.flush_idle_iff held.disk).mpr idle] at failed
  cases failed

/-- As long as all flushes fail, memory takes the answers that are entered and nothing else. -/
theorem FailsAll.call_all_file (calls : List FileCall) {held : OpenFile}
    (failing : held.FailsAll calls) :
    (held.callAll calls).file = held.file.setAnswers (calls.filterMap FileCall.entered?) := by
  induction calls generalizing held with
  | nil => rfl
  | cons call later induction =>
      obtain ⟨first, rest⟩ := failing
      have memory := induction rest
      cases call with
      | set name answer fits => exact memory
      | flush =>
          rw [(first rfl).call_flush_file] at memory
          exact memory

/-- What becomes of answers whose flush has failed. After any further calls of which no flush goes
well, memory holds the answers that it held and those that were entered since.

Let the next flush go well. It writes exactly if the file was dirty when the flush failed, or an
answer was entered that the file did not hold, or the path leads nowhere. If it writes, the path
leads to the whole text of what memory holds, and opening it gives what memory holds exactly if each
value can be written and read again. If it does not write, it leaves the disk as it is; the path led
nowhere before the flush that failed and leads somewhere since, and memory is what it was. -/
theorem failed_write_retried (held : OpenFile) (calls : List FileCall) (wrote : Bool)
    (fails : held.Fails) (failing : (held.call .flush).FailsAll calls)
    (done : ((held.call .flush).callAll calls).flushed.written = .ok wrote) :
    let entered := calls.filterMap FileCall.entered?
    let later := (held.call .flush).callAll calls
    later.file = held.file.setAnswers entered ∧
    (wrote = true ↔ held.file.dirty = true ∨
      (∃ answer ∈ entered, held.file.ledger.get? answer.1 ≠ some (.ofAnswer answer.2)) ∨
      later.disk.contains held.file.path = false) ∧
    (wrote = true →
      later.flushed.disk.find held.file.path = .ok (.file later.file.ledger.text.toUTF8) ∧
      (AnswerFile.load later.flushed.disk held.file.path =
          .ok ⟨held.file.path, later.file.ledger, false⟩ ↔
        ∀ entry ∈ later.file.ledger.entries, entry.2.reread? = some entry.2)) ∧
    (wrote = false →
      later.flushed.disk = later.disk ∧ later.file = held.file ∧
      held.disk.contains held.file.path = false ∧
      later.disk.contains held.file.path = true) := by
  intro entered later
  have memory : later.file = held.file.setAnswers entered := by
    rw [← fails.call_flush_file]
    exact failing.call_all_file
  have located : later.file.path = held.file.path := by
    rw [memory]
    exact held.file.set_answers_path entered
  have wroteIff := later.file.flush_wrote_iff later.disk wrote done
  rw [located] at wroteIff
  refine ⟨memory, ?_, ?_, ?_⟩
  · rw [wroteIff, memory, AnswerFile.set_answers_dirty_iff, or_assoc]
  · rintro rfl
    have found := later.file.flush_wrote later.disk done
    have reopened := later.file.load_written_iff _ found
    rw [located] at found reopened
    exact ⟨found, reopened⟩
  · rintro rfl
    have idle : later.file.dirty = false ∧ later.disk.contains held.file.path = true := by
      simpa using wroteIff
    have same : later.file = held.file := by
      rw [memory]
      apply held.file.set_answers_clean
      rw [← memory]
      exact idle.1
    have missing : held.disk.contains held.file.path = false := by
      have tried := fails.unwritten
      rw [← same] at tried ⊢
      simpa [idle.1] using tried
    have kept := (later.file.flush_idle_iff later.disk).mpr ⟨idle.1, located.symm ▸ idle.2⟩
    exact ⟨congrArg AnswerFile.Flushed.disk kept, same, missing, idle.2⟩

def bareFile : AnswerFile := ⟨smallPath, Ledger.empty, false⟩

/-- The bare disk without space for the next write, which leaves the first brace of its text. -/
def tornBareDisk : Disk :=
  { bareDisk with hindrances := [some ⟨.noSpace, some "\x7b".toUTF8⟩] }

/-- A file that was opened where there was none is flushed twice. The first flush fails and leaves a
brace, and the second goes well, though it leaves the brace as it is. -/
theorem torn_write_kept :
    (AnswerFile.load tornBareDisk smallPath).toOption.map
        (fun file => (file.path, file.ledger, file.dirty)) =
      some (bareFile.path, bareFile.ledger, bareFile.dirty) ∧
    (OpenFile.mk bareFile tornBareDisk).Fails ∧
    ((OpenFile.mk bareFile tornBareDisk).call .flush).flushed.written = .ok false ∧
    ((OpenFile.mk bareFile tornBareDisk).callAll [.flush, .flush]).disk.readText smallPath =
      .ok "\x7b" ∧
    (AnswerFile.load ((OpenFile.mk bareFile tornBareDisk).callAll [.flush, .flush]).disk
      smallPath).toBool = false := by
  have fails : (OpenFile.mk bareFile tornBareDisk).Fails :=
    fails_of_undone _ (by decide +kernel)
  refine ⟨by decide +kernel, fails, ok_of_to_option _ _ (by decide +kernel),
    ok_of_to_option _ _ (by decide +kernel), by decide +kernel⟩

/-- The small disk without space for the next two writes, the first of which leaves a part of its
text. -/
def tornTwiceDisk : Disk :=
  { smallDisk with
    hindrances := [some ⟨.noSpace, some "\x7b\n".toUTF8⟩, some ⟨.noSpace, none⟩] }

def tornFile : OpenFile := ⟨smallFile.setAnswer "a" (some 4), tornTwiceDisk⟩

def retryingCalls : List FileCall := [.set "b" (some 2) (by decide), .flush]

theorem failed_write_retried_torn :
    ((tornFile.call .flush).callAll retryingCalls).file =
        tornFile.file.setAnswers [("b", some 2)] ∧
      AnswerFile.load ((tornFile.call .flush).callAll retryingCalls).flushed.disk smallPath =
        .ok ⟨smallPath, ((tornFile.call .flush).callAll retryingCalls).file.ledger, false⟩ := by
  have fails : tornFile.Fails := fails_of_undone _ (by decide +kernel)
  have failing : (tornFile.call .flush).FailsAll retryingCalls := by
    refine ⟨by simp, fun _ => fails_of_undone _ (by decide +kernel), trivial⟩
  have done : ((tornFile.call .flush).callAll retryingCalls).flushed.written = .ok true :=
    ok_of_to_option _ _ (by decide +kernel)
  have rereads : ∀ entry ∈ ((tornFile.call .flush).callAll retryingCalls).file.ledger.entries,
      entry.2.reread? = some entry.2 := by decide +kernel
  obtain ⟨memory, -, full, -⟩ := failed_write_retried tornFile retryingCalls true fails failing done
  exact ⟨memory, (full rfl).2.mpr rereads⟩

end OpenFile

end CounterForms
