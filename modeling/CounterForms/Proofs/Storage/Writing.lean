import CounterForms.Proofs.Storage.Disk

/-!
What writing does to a disk. Making directories changes no file. A write that succeeds is read back
at once and changes no other file; a write that fails changes nothing at all on a disk whose
hindrances leave no half-written files behind.
-/

namespace CounterForms

open Storage

namespace Disk

/-- A disk extends another one and every file has the bytes that it had. -/
structure Quiet (before after : Disk) : Prop extends Extends before after where
  bytes : ∀ place, after.bytesAt place = before.bytesAt place

theorem Quiet.refl (disk : Disk) : Quiet disk disk := ⟨Extends.refl disk, fun _ => rfl⟩

theorem Quiet.trans {before between after : Disk} (first : Quiet before between)
    (second : Quiet between after) : Quiet before after :=
  ⟨first.toExtends.trans second.toExtends,
    fun place => (second.bytes place).trans (first.bytes place)⟩

/-- The file that a path means has the bytes that it had. -/
def SameFile (before after : Disk) (path : Path) : Prop :=
  after.bytesAt (before.placeOf path) = before.bytesAt (before.placeOf path)

theorem SameFile.trans {before between after : Disk} {path : Path}
    (first : SameFile before between path) (second : SameFile between after path)
    (extended : Extends before between) : SameFile before after path := by
  rw [SameFile, extended.placeOf path] at second
  exact Eq.trans second first

/-- A disk extends another one, and no file has other bytes but one at an exempt place. -/
structure QuietBeside (before after : Disk) (exempt : Option Place) : Prop
    extends Extends before after where
  bytes : ∀ place, some place ≠ exempt → after.bytesAt place = before.bytesAt place

theorem QuietBeside.refl (disk : Disk) (exempt : Option Place) : QuietBeside disk disk exempt :=
  ⟨Extends.refl disk, fun _ _ => rfl⟩

theorem QuietBeside.trans {before between after : Disk} {exempt : Option Place}
    (first : QuietBeside before between exempt) (second : QuietBeside between after exempt) :
    QuietBeside before after exempt :=
  ⟨first.toExtends.trans second.toExtends,
    fun place other => (second.bytes place other).trans (first.bytes place other)⟩

theorem Quiet.beside {before after : Disk} (quiet : Quiet before after) (exempt : Option Place) :
    QuietBeside before after exempt :=
  ⟨quiet.toExtends, fun place _ => quiet.bytes place⟩

structure Keeps (before after : Disk) (place : Place) : Prop extends Extends before after where
  bytes : after.bytesAt place = before.bytesAt place

theorem Keeps.trans {before between after : Disk} {place : Place}
    (first : Keeps before between place) (second : Keeps between after place) :
    Keeps before after place :=
  ⟨first.toExtends.trans second.toExtends, second.bytes.trans first.bytes⟩

theorem Keeps.find {before after : Disk} {path : Path} {bytes : ByteArray}
    (keeps : Keeps before after (before.placeOf path))
    (found : before.find path = .ok (.file bytes)) : after.find path = .ok (.file bytes) :=
  keeps.toExtends.find_same found keeps.bytes

theorem QuietBeside.keeps {before after : Disk} {exempt : Option Place}
    (quiet : QuietBeside before after exempt) (place : Place) (elsewhere : some place ≠ exempt) :
    Keeps before after place :=
  ⟨quiet.toExtends, quiet.bytes place elsewhere⟩

/-- The hindrances in wait leave every file as it was. -/
def SparesFiles (disk : Disk) : Prop :=
  ∀ hindrance ∈ disk.hindrances, ∀ comes ∈ hindrance, comes.left = none

theorem Extends.sparesFiles {before after : Disk} (extended : Extends before after)
    (spares : before.SparesFiles) : after.SparesFiles :=
  fun hindrance member => spares hindrance (extended.hindrances.subset member)

theorem take_hindrance_quiet (disk : Disk) : Quiet disk disk.takeHindrance.2 := by
  unfold takeHindrance
  split
  · exact Quiet.refl disk
  next first later waiting =>
    exact ⟨⟨rfl, waiting ▸ List.suffix_cons first later, fun _ there => there,
      fun _ bytes there => ⟨bytes, there⟩⟩, fun _ => rfl⟩

theorem take_hindrance_spares (disk : Disk) (spares : disk.SparesFiles) :
    ∀ hindrance ∈ disk.takeHindrance.1, hindrance.left = none := by
  unfold takeHindrance
  split
  · simp
  next first later waiting =>
    intro hindrance comes
    exact spares first (by simp [waiting]) hindrance comes

theorem put_directory_quiet (disk : Disk) (place : Place) (free : disk.entry? place = none) :
    Quiet disk (disk.put place .directory) := by
  have below : place ≠ [] := by
    rintro rfl
    simp [Disk.entry?] at free
  have elsewhere (other : Place) (entry : Entry) (there : disk.entry? other = some entry) :
      Disk.entry? (disk.put place .directory) other = some entry := by
    have apart : other ≠ place := by
      rintro rfl
      rw [free] at there
      cases there
    rw [entry_put_other _ _ _ _ apart, there]
  refine ⟨⟨rfl, List.suffix_rfl, fun other => elsewhere other _,
    fun other bytes there => ⟨bytes, elsewhere other _ there⟩⟩, fun other => ?_⟩
  by_cases same : other = place
  · subst same
    simp [bytesAt, entry_put_same _ _ _ below, free]
  · simp [bytesAt, entry_put_other _ _ _ _ same]

theorem put_file_extends (disk : Disk) (place : Place) (bytes : ByteArray)
    (noDirectory : disk.entry? place ≠ some .directory) :
    Extends disk (disk.put place (.file bytes)) := by
  have below : place ≠ [] := by
    rintro rfl
    simp [Disk.entry?] at noDirectory
  refine ⟨rfl, List.suffix_rfl, fun other there => ?_, fun other old there => ?_⟩
  · have apart : other ≠ place := by
      rintro rfl
      exact noDirectory there
    rw [entry_put_other _ _ _ _ apart, there]
  · by_cases same : other = place
    · subst same
      exact ⟨bytes, entry_put_same _ _ _ below⟩
    · exact ⟨old, by rw [entry_put_other _ _ _ _ same, there]⟩

theorem put_bytes_other (disk : Disk) (place other : Place) (entry : Entry)
    (apart : other ≠ place) : (disk.put place entry).bytesAt other = disk.bytesAt other := by
  simp [bytesAt, entry_put_other _ _ _ _ apart]

theorem make_directory_quiet (disk : Disk) (path : Path) (made : Disk)
    (done : disk.makeDirectory path = .ok made) : Quiet disk made := by
  unfold makeDirectory at done
  split at done
  · cases done
  next found reached =>
    split at done
    · cases done
    next free =>
      cases Except.ok.inj done
      apply put_directory_quiet
      rw [← free]
      exact ((target_leads reached).entry (by simp [free])).1

theorem make_way_quiet (budget : Nat) (disk : Disk) (path : Path) :
    Quiet disk (disk.makeWay budget path).2 := by
  induction budget generalizing disk path with
  | zero => exact Quiet.refl disk
  | succ budget induction =>
      unfold makeWay
      split
      · exact Quiet.refl disk
      split
      next made done => exact make_directory_quiet disk path made done
      · split
        · exact Quiet.refl disk
        next parent named =>
          have way := induction disk parent
          split
          next prepared reached =>
            rw [reached] at way
            exact way
          next prepared reached =>
            rw [reached] at way
            split
            next made done => exact way.trans (make_directory_quiet prepared path made done)
            next => exact way
      · exact Quiet.refl disk

/-- Making directories changes no file. -/
theorem make_directories_quiet (disk : Disk) (path : Path) :
    Quiet disk (disk.makeDirectories path).2 := by
  have taken := disk.take_hindrance_quiet
  unfold makeDirectories
  split
  next hindrance later taking =>
    rw [taking] at taken
    exact taken
  next later taking =>
    rw [taking] at taken
    exact taken.trans (make_way_quiet _ later path)

theorem leads_blank (disk : Disk) (place : Place) (later : List (List Char))
    (ends : later.all List.isEmpty = true) :
    disk.Leads place later ⟨place, some .directory, false⟩ := by
  induction later with
  | nil => exact .stop place
  | cons piece later induction =>
      simp only [List.all_cons, Bool.and_eq_true, List.isEmpty_iff] at ends
      exact .blank (.inl ends.1) (induction ends.2)

theorem Leads.put_directory {disk : Disk} {current : Place} {pieces : List (List Char)}
    {found : Target} (leads : disk.Leads current pieces found) (free : found.entry = none) :
    (disk.put found.place .directory).Leads current pieces
      ⟨found.place, some .directory, false⟩ := by
  induction leads with
  | stop current => cases free
  | blank isBlank further induction => exact .blank isBlank (induction free)
  | parent further induction => exact .parent (induction free)
  | @enter current piece later found names there further induction =>
      have held := (further.entry (by simp [free])).1
      have apart : current ++ [String.ofList piece] ≠ found.place := by
        intro same
        rw [same, held, free] at there
        cases there
      refine .enter names ?_ (induction free)
      rw [entry_put_other _ _ _ _ apart, there]
  | file names there ends => cases free
  | absent names there ends =>
      exact .enter names (entry_put_same _ _ _ (by simp)) (leads_blank _ _ _ ends)

theorem make_directory_found (disk : Disk) (path : Path) (made : Disk)
    (done : disk.makeDirectory path = .ok made) : made.find path = .ok .directory := by
  unfold makeDirectory at done
  split at done
  · cases done
  next found reached =>
    split at done
    · cases done
    next free =>
      cases Except.ok.inj done
      have leads := (target_leads reached).put_directory free
      exact find_directory.mpr ⟨_, target_of_leads reached leads, rfl⟩

theorem is_directory_iff (disk : Disk) (path : Path) :
    disk.isDirectory path = true ↔ disk.find path = .ok .directory := by
  unfold isDirectory
  cases disk.find path with
  | error fault => simp [Except.toOption]
  | ok entry => simp [Except.toOption]

theorem settle_directory_found (disk : Disk) (path : Path) (fault : Fault)
    (done : (disk.settleDirectory path fault).1 = .ok ()) :
    disk.find path = .ok .directory := by
  unfold settleDirectory at done
  split at done
  next there => exact (disk.is_directory_iff path).mp there
  next => cases done

theorem make_way_found (budget : Nat) (disk : Disk) (path : Path) (filled : path.isEmpty = false)
    (done : (disk.makeWay budget path).1 = .ok ()) :
    (disk.makeWay budget path).2.find path = .ok .directory := by
  cases budget with
  | zero => cases done
  | succ budget =>
      unfold makeWay at done ⊢
      rw [filled] at done ⊢
      simp only [Bool.false_eq_true, if_false] at done ⊢
      split at done
      next made single => exact disk.make_directory_found path made single
      next =>
        split at done
        · cases done
        next parent named =>
          split at done
          · cases done
          next prepared reached =>
            split at done
            next made single => exact prepared.make_directory_found path made single
            next fault refused => exact prepared.settle_directory_found path fault done
      next => exact disk.settle_directory_found path _ done

theorem make_directories_there (disk : Disk) (path : Path) (free : disk.hindrances = [])
    (there : disk.find path = .ok .directory) : disk.makeDirectories path = (.ok (), disk) := by
  obtain ⟨found, reached, directory⟩ := find_directory.mp there
  have refused : disk.makeDirectory path = .error .alreadyExists := by
    rw [makeDirectory, reached]
    simp only [directory]
  rw [makeDirectories, takeHindrance, free]
  simp only [makeWay, refused, settleDirectory, (disk.is_directory_iff path).mpr there, if_true,
    ite_self]

/-- The place of a write is the one that its path means, and no directory lies there. -/
theorem write_place_entry (disk : Disk) (path : Path) (place : Place)
    (chosen : disk.writePlace path = .ok place) :
    ∃ entry, disk.target path = .ok ⟨disk.placeOf path, entry, false⟩ ∧
      entry ≠ some .directory ∧ place = disk.placeOf path := by
  unfold writePlace at chosen
  split at chosen
  · cases chosen
  next found reached =>
    split at chosen
    · cases chosen
    next fit =>
      cases Except.ok.inj chosen
      have meant := target_place reached
      simp only [not_or, Bool.not_eq_true] at fit
      obtain ⟨place, entry, asks⟩ := found
      dsimp only at meant fit
      obtain ⟨noDirectory, noSlash⟩ := fit
      subst meant noSlash
      exact ⟨entry, reached, noDirectory, rfl⟩

/-- Where a path leads nowhere, no file lies at the place that it means. It may be otherwise for a
path that ends with a slash, or that leads through a missing directory and up again. -/
def Settled (disk : Disk) (path : Path) : Prop :=
  disk.contains path = false → disk.bytesAt (disk.placeOf path) = none

/-- A path at which a file may be written right away is settled. -/
theorem settled_of_write_place (disk : Disk) (path : Path) (place : Place)
    (chosen : disk.writePlace path = .ok place) : disk.Settled path := by
  obtain ⟨entry, reached, noDirectory, -⟩ := disk.write_place_entry path place chosen
  intro missing
  have held : disk.entry? (disk.placeOf path) = entry :=
    ((target_leads reached).entry noDirectory).1
  rcases entry with _ | _ | bytes
  · simp [bytesAt, held]
  · exact absurd rfl noDirectory
  · rw [contains, find_file.mpr reached] at missing
    cases missing

theorem put_file_beside (disk : Disk) (place : Place) (bytes : ByteArray)
    (noDirectory : disk.entry? place ≠ some .directory) :
    QuietBeside disk (disk.put place (.file bytes)) (some place) := by
  refine ⟨disk.put_file_extends place bytes noDirectory, ?_⟩
  intro other apart
  apply disk.put_bytes_other
  exact fun same => apart (congrArg some same)

/-- Putting a file where a path may be written makes the path lead to it, and changes no other file.
-/
theorem put_at_path (disk : Disk) (path : Path) (place : Place) (bytes : ByteArray)
    (chosen : disk.writePlace path = .ok place) :
    QuietBeside disk (disk.put place (.file bytes)) (some (disk.placeOf path)) ∧
      (disk.put place (.file bytes)).find path = .ok (.file bytes) := by
  obtain ⟨entry, reached, noDirectory, rfl⟩ := disk.write_place_entry path place chosen
  have leads := target_leads reached
  have held : disk.entry? (disk.placeOf path) = entry := (leads.entry noDirectory).1
  have beside := disk.put_file_beside (disk.placeOf path) bytes (held ▸ noDirectory)
  refine ⟨beside, ?_⟩
  rw [find_file, beside.placeOf path]
  exact target_of_leads reached (leads.put_file noDirectory bytes)

/-- A write that succeeds is read back. -/
theorem write_text_found (disk : Disk) (path : Path) (text : String)
    (written : (disk.writeText path text).1 = .ok ()) :
    (disk.writeText path text).2.find path = .ok (.file text.toUTF8) := by
  unfold writeText at written ⊢
  split at written
  · split at written <;> cases written
  next later taking =>
    split at written
    · cases written
    next place chosen => exact (later.put_at_path path place text.toUTF8 chosen).2

/-- Whatever a write leaves behind, it changes no file but its own. -/
theorem write_text_beside (disk : Disk) (path : Path) (text : String) :
    QuietBeside disk (disk.writeText path text).2 (some (disk.placeOf path)) := by
  have taken := disk.take_hindrance_quiet
  unfold writeText
  split
  next hindrance later taking =>
    rw [taking] at taken
    split
    next bytes place left chosen =>
      have put := (later.put_at_path path place bytes chosen).1
      exact (taken.beside _).trans (taken.placeOf path ▸ put)
    next => exact taken.beside _
  next later taking =>
    rw [taking] at taken
    split
    next => exact taken.beside _
    next place chosen =>
      have put := (later.put_at_path path place text.toUTF8 chosen).1
      exact (taken.beside _).trans (taken.placeOf path ▸ put)

/-- A write that fails changes nothing where the hindrances spare files. -/
theorem write_text_error (disk : Disk) (path : Path) (text : String) (fault : Fault)
    (refused : (disk.writeText path text).1 = .error fault) (spares : disk.SparesFiles) :
    Quiet disk (disk.writeText path text).2 := by
  have taken := disk.take_hindrance_quiet
  have harmless := disk.take_hindrance_spares spares
  unfold writeText at refused ⊢
  split
  next hindrance later taking =>
    rw [taking] at taken harmless
    rw [harmless hindrance rfl]
    exact taken
  next later taking =>
    rw [taking] at taken refused
    dsimp only at refused
    split at refused
    · exact taken
    · cases refused

end Disk

end CounterForms
