import CounterForms.Proofs.Answers.Merging

/-!
An answers file under any calls. Answers may be entered in any order, flushes may come at any time
and may fail; what holds throughout is that a clean file whose path leads somewhere is the file that
would be read there.
-/

namespace CounterForms

theorem Word.holds_either_of_signed (bits : Nat) (value : Int)
    (fits : Word.holdsSigned bits value = true) : Word.holdsEither bits value = true := by
  cases value with
  | negSucc beyond => exact fits
  | ofNat magnitude =>
      simp only [holdsSigned, decide_eq_true_eq] at fits
      simp only [holdsEither, decide_eq_true_eq]
      have wider : count bits ≤ count (bits + 1) := Nat.pow_le_pow_right (by decide) (by omega)
      omega

/-- What is called on an opened file: an answer is entered, if there is one a whole number of 64
bits with a sign, or the file is flushed. -/
inductive FileCall
  | set (name : String) (answer : Option Int)
      (fits : ∀ value ∈ answer, Word.holdsSigned 63 value = true)
  | flush

structure OpenFile where
  file : AnswerFile
  disk : Disk

namespace OpenFile

def flushed (held : OpenFile) : AnswerFile.Flushed := held.file.flush held.disk

def call (held : OpenFile) : FileCall → OpenFile
  | .set name answer _ => { held with file := held.file.setAnswer name answer }
  | .flush => ⟨held.flushed.file, held.flushed.disk⟩

@[simp] theorem call_set_file (held : OpenFile) (name : String) (answer : Option Int)
    (fits : ∀ value ∈ answer, Word.holdsSigned 63 value = true) :
    (held.call (.set name answer fits)).file = held.file.setAnswer name answer := rfl

@[simp] theorem call_set_disk (held : OpenFile) (name : String) (answer : Option Int)
    (fits : ∀ value ∈ answer, Word.holdsSigned 63 value = true) :
    (held.call (.set name answer fits)).disk = held.disk := rfl

@[simp] theorem call_flush_file (held : OpenFile) :
    (held.call .flush).file = held.flushed.file := rfl

def callAll (held : OpenFile) (calls : List FileCall) : OpenFile := calls.foldl call held

/-- A flush leaves what the path leads to as it was, if it fails. -/
def Spares (held : OpenFile) : Prop :=
  ∀ failure, held.flushed.written = .error failure →
    (held.flushed.disk.find held.file.path).toOption =
      (held.disk.find held.file.path).toOption

theorem spares_of_done (held : OpenFile)
    (done : held.flushed.written.toOption.isSome = true) : held.Spares := by
  intro failure failed
  rw [failed] at done
  cases done

def SparesAll (held : OpenFile) : List FileCall → Prop
  | [] => True
  | call :: later => (call = .flush → held.Spares) ∧ (held.call call).SparesAll later

/-- The file comes from a path, its values can be written and read again, and as long as it is clean
it is the file that the path leads to, if it leads anywhere. -/
structure Faithful (held : OpenFile) (path : Path) : Prop where
  located : held.file.path = path
  rereads : ∀ entry ∈ held.file.ledger.entries, entry.2.reread? = some entry.2
  clean : held.file.dirty = false → held.disk.contains path = true →
    AnswerFile.load held.disk path = .ok held.file

variable {held : OpenFile} {path : Path}

theorem faithful_load (disk : Disk) (path : Path) (file : AnswerFile)
    (opened : AnswerFile.load disk path = .ok file) (numbers : file.ledger.NumbersReread) :
    (OpenFile.mk file disk).Faithful path := by
  obtain ⟨whole, storable, -⟩ := AnswerFile.load_ok disk path file opened
  refine ⟨by rw [whole], ?_, fun _ _ => opened⟩
  exact AnswerFile.reread_storable file.ledger storable numbers

theorem Faithful.set (faithful : held.Faithful path) (name : String) (answer : Option Int)
    (fits : ∀ value ∈ answer, Word.holdsSigned 63 value = true) :
    (held.call (.set name answer fits)).Faithful path := by
  refine ⟨(held.file.set_answer_path name answer).trans faithful.located, ?_, ?_⟩
  · intro entry member
    rw [call_set_file, AnswerFile.set_answer_ledger] at member
    rcases Ledger.mem_place name _ held.file.ledger.entries member with rfl | old
    · cases answer with
      | none => exact StoredAnswer.reread_absent
      | some value =>
          exact StoredAnswer.reread_integer value
            (Word.holds_either_of_signed 63 value (fits value rfl))
    · exact faithful.rereads entry old
  · intro isClean there
    rw [call_set_file] at isClean ⊢
    rw [call_set_disk] at there ⊢
    -- A file that is still clean held the answer already.
    have same := held.file.set_answer_clean name answer isClean
    rw [same] at isClean ⊢
    exact faithful.clean isClean there

/-- A flush that goes well leaves a clean file on the disk, with what memory held. -/
theorem Faithful.flushed (faithful : held.Faithful path) (wrote : Bool)
    (done : held.flushed.written = .ok wrote) :
    held.flushed.disk.contains path = true ∧
      held.flushed.file = { held.file with dirty := false } ∧
      AnswerFile.load held.flushed.disk path = .ok held.flushed.file := by
  obtain ⟨rfl, rereads, clean⟩ := faithful
  unfold OpenFile.flushed at done ⊢
  have outcome := held.file.flush_cases held.disk
  generalize held.file.flush held.disk = flushed at outcome done ⊢
  cases outcome with
  | skipped isClean there =>
      refine ⟨there, ?_, clean isClean there⟩
      rw [← isClean]
  | written extended found others =>
      exact ⟨Disk.contains_find _ _ _ found, rfl, held.file.load_rereads _ found rereads⟩
  | failed quiet unwritten => cases done

theorem flushed_failed (held : OpenFile) (failure : Failure)
    (failed : held.flushed.written = .error failure) : held.flushed.file = held.file := by
  unfold flushed at failed ⊢
  have outcome := held.file.flush_cases held.disk
  generalize held.file.flush held.disk = flushed at outcome failed ⊢
  cases outcome with
  | skipped isClean there => cases failed
  | written extended found others => cases failed
  | failed quiet unwritten => rfl

/-- As long as the path leads to the same, nothing else on the disk matters. -/
theorem Faithful.disk (faithful : held.Faithful path) (after : Disk)
    (same : (after.find path).toOption = (held.disk.find path).toOption) :
    (OpenFile.mk held.file after).Faithful path := by
  refine ⟨faithful.located, faithful.rereads, fun isClean there => ?_⟩
  have before : held.disk.contains path = true := by
    rwa [Disk.contains, same] at there
  obtain ⟨entry, found⟩ := Option.isSome_iff_exists.mp there
  have equal : after.find path = held.disk.find path :=
    (ok_of_to_option _ entry found).trans (ok_of_to_option _ entry (same.symm.trans found)).symm
  rw [AnswerFile.load_congr held.disk after path equal]
  exact faithful.clean isClean before

theorem Faithful.flush (faithful : held.Faithful path) (spares : held.Spares) :
    (held.call .flush).Faithful path := by
  cases written : held.flushed.written with
  | ok wrote =>
      obtain ⟨-, file, loaded⟩ := faithful.flushed wrote written
      refine ⟨?_, ?_, fun _ _ => loaded⟩
      · rw [call_flush_file, file]
        exact faithful.located
      · rw [call_flush_file, file]
        exact faithful.rereads
  | error failure =>
      have same := spares failure written
      rw [faithful.located] at same
      have kept := faithful.disk held.flushed.disk same
      rw [← held.flushed_failed failure written] at kept
      exact kept

theorem Faithful.call_all (calls : List FileCall) {held : OpenFile}
    (faithful : held.Faithful path) (spares : held.SparesAll calls) :
    (held.callAll calls).Faithful path := by
  induction calls generalizing held with
  | nil => exact faithful
  | cons call later induction =>
      obtain ⟨first, rest⟩ := spares
      cases call with
      | set name answer fits => exact induction (faithful.set name answer fits) rest
      | flush => exact induction (faithful.flush (first rfl)) rest

/-- Whatever is called on an opened file: whenever it is clean and its path leads somewhere, it is
the file that is read there; a flush that goes well leaves it there and clean; and one that fails
leaves memory as it was. -/
theorem clean_is_kept (disk : Disk) (path : Path) (file : AnswerFile) (calls : List FileCall)
    (opened : AnswerFile.load disk path = .ok file) (numbers : file.ledger.NumbersReread)
    (spares : (OpenFile.mk file disk).SparesAll calls) :
    let held := (OpenFile.mk file disk).callAll calls
    (held.file.dirty = false → held.disk.contains path = true →
      AnswerFile.load held.disk path = .ok held.file) ∧
    (∀ wrote, held.flushed.written = .ok wrote →
      held.flushed.disk.contains path = true ∧
        held.flushed.file = { held.file with dirty := false } ∧
        AnswerFile.load held.flushed.disk path = .ok held.flushed.file) ∧
    ∀ failure, held.flushed.written = .error failure → held.flushed.file = held.file := by
  have faithful := (faithful_load disk path file opened numbers).call_all calls spares
  exact ⟨faithful.clean, faithful.flushed, OpenFile.flushed_failed _⟩

def smallCalls : List FileCall := [.set "a" (some 4) (by decide), .flush, .flush]

def hinderedDisk : Disk := { smallDisk with hindrances := [some ⟨.noSpace, none⟩] }

theorem hindered_opened : AnswerFile.load hinderedDisk smallPath = .ok smallFile :=
  AnswerFile.load_of_ledger _ _ _ (by decide +kernel)

theorem clean_is_kept_small :
    let held := (OpenFile.mk smallFile hinderedDisk).callAll smallCalls
    ((OpenFile.mk smallFile hinderedDisk).callAll (smallCalls.take 2)).file.dirty = true ∧
      held.file.dirty = false ∧ AnswerFile.load held.disk smallPath = .ok held.file := by
  have spares : (OpenFile.mk smallFile hinderedDisk).SparesAll smallCalls := by
    refine ⟨by simp, fun _ _ _ => by decide +kernel, fun _ => spares_of_done _ ?_, trivial⟩
    decide +kernel
  have clean : ((OpenFile.mk smallFile hinderedDisk).callAll smallCalls).file.dirty = false := by
    decide +kernel
  have there : ((OpenFile.mk smallFile hinderedDisk).callAll smallCalls).disk.contains smallPath =
      true := by decide +kernel
  refine ⟨by decide +kernel, clean, ?_⟩
  exact (clean_is_kept hinderedDisk smallPath smallFile smallCalls hindered_opened small_numbers
    spares).1 clean there

end OpenFile

end CounterForms
