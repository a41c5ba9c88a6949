import CounterForms.Storage.Disk

/-!
Following paths on a disk that changes. A path means one place whatever lies there; what it leads to
depends on the entries on its way. A disk extends another one if directories stay directories and
files stay files: then a path that led to something still leads to the same place, and only the
contents of a file may be new.
-/

namespace CounterForms

open Storage

namespace Disk

/-- The place that one piece of a path means, seen from another place. -/
def stepTo (current : Place) (piece : List Char) : Place :=
  if piece = [] ∨ piece = ['.'] then current
  else if piece = ['.', '.'] then current.dropLast
  else current ++ [String.ofList piece]

def startOf (disk : Disk) (path : Path) : Place :=
  if path.isAbsolute then [] else disk.workingDirectory

/-- The place that a path means, whatever lies there. -/
def placeOf (disk : Disk) (path : Path) : Place :=
  (Text.pieces '/' path.chars).foldl stepTo (disk.startOf path)

theorem lookup_filter_other (entries : List (Place × Entry)) (place other : Place)
    (apart : other ≠ place) :
    (entries.filter fun entry => entry.1 != place).lookup other = entries.lookup other := by
  induction entries with
  | nil => rfl
  | cons entry later induction =>
      obtain ⟨key, kind⟩ := entry
      by_cases same : key = place
      · have different : (other == key) = false := by
          rw [beq_eq_false_iff_ne, same]
          exact apart
        simp only [same, List.filter_cons, bne_self_eq_false, Bool.false_eq_true, if_false,
          induction]
        rw [List.lookup_cons, ← same, different]
      · have kept : (key != place) = true := by simpa using same
        simp only [List.filter_cons, kept, if_true, List.lookup_cons, induction]

theorem entry_put_same (disk : Disk) (place : Place) (entry : Entry) (below : place ≠ []) :
    Disk.entry? (disk.put place entry) place = some entry := by
  simp [Disk.entry?, put, below]

theorem entry_put_other (disk : Disk) (place other : Place) (entry : Entry)
    (apart : other ≠ place) : Disk.entry? (disk.put place entry) other = disk.entry? other := by
  have different : (other == place) = false := by simpa using apart
  simp only [Disk.entry?, put, remove, List.lookup_cons, different,
    lookup_filter_other disk.entries _ _ apart]

theorem fold_blank (later : List (List Char)) (place : Place)
    (ends : later.all List.isEmpty = true) : later.foldl stepTo place = place := by
  induction later with
  | nil => rfl
  | cons piece later induction =>
      simp only [List.all_cons, Bool.and_eq_true, List.isEmpty_iff] at ends
      have stay : stepTo place piece = place := by simp [stepTo, ends.1]
      rw [List.foldl_cons, stay]
      exact induction (by simpa using ends.2)

theorem follow_name (disk : Disk) (current : Place) (piece : List Char) (later : List (List Char))
    (noBlank : ¬(piece = [] ∨ piece = ['.'])) (noParent : ¬piece = ['.', '.']) :
    disk.follow current (piece :: later) =
      if greatestName < (String.ofList piece).utf8ByteSize then .error .nameTooLong
      else
        match disk.entry? (current ++ [String.ofList piece]) with
        | some .directory => disk.follow (current ++ [String.ofList piece]) later
        | some (.file bytes) =>
            if later.all List.isEmpty then
              .ok ⟨current ++ [String.ofList piece], some (.file bytes), !later.isEmpty⟩
            else .error .notADirectory
        | none =>
            if later.all List.isEmpty then
              .ok ⟨current ++ [String.ofList piece], none, !later.isEmpty⟩
            else .error .notFound :=
  (if_neg noBlank).trans (if_neg noParent)

theorem follow_blank (disk : Disk) (current : Place) (piece : List Char) (later : List (List Char))
    (blank : piece = [] ∨ piece = ['.']) :
    disk.follow current (piece :: later) = disk.follow current later := by
  simp only [follow, blank, if_true]

theorem follow_parent (disk : Disk) (current : Place) (later : List (List Char)) :
    disk.follow current (['.', '.'] :: later) = disk.follow current.dropLast later := by
  simp [follow]

structure Names (piece : List Char) : Prop where
  noBlank : ¬(piece = [] ∨ piece = ['.'])
  noParent : ¬piece = ['.', '.']
  short : ¬greatestName < (String.ofList piece).utf8ByteSize

inductive Leads (disk : Disk) : Place → List (List Char) → Target → Prop
  | stop (current : Place) : Leads disk current [] ⟨current, some .directory, false⟩
  | blank {current piece later found} (isBlank : piece = [] ∨ piece = ['.'])
      (further : Leads disk current later found) : Leads disk current (piece :: later) found
  | parent {current later found} (further : Leads disk current.dropLast later found) :
      Leads disk current (['.', '.'] :: later) found
  | enter {current piece later found} (names : Names piece)
      (there : disk.entry? (current ++ [String.ofList piece]) = some .directory)
      (further : Leads disk (current ++ [String.ofList piece]) later found) :
      Leads disk current (piece :: later) found
  | file {current piece later bytes} (names : Names piece)
      (there : disk.entry? (current ++ [String.ofList piece]) = some (.file bytes))
      (ends : later.all List.isEmpty = true) :
      Leads disk current (piece :: later)
        ⟨current ++ [String.ofList piece], some (.file bytes), !later.isEmpty⟩
  | absent {current piece later} (names : Names piece)
      (there : disk.entry? (current ++ [String.ofList piece]) = none)
      (ends : later.all List.isEmpty = true) :
      Leads disk current (piece :: later)
        ⟨current ++ [String.ofList piece], none, !later.isEmpty⟩

theorem leads_of_follow (disk : Disk) (current : Place) (pieces : List (List Char))
    (found : Target) (reached : disk.follow current pieces = .ok found) :
    disk.Leads current pieces found := by
  induction pieces generalizing current with
  | nil =>
      cases Except.ok.inj reached
      exact .stop current
  | cons piece later induction =>
      by_cases isBlank : piece = [] ∨ piece = ['.']
      · rw [follow_blank _ _ _ _ isBlank] at reached
        exact .blank isBlank (induction current reached)
      by_cases isParent : piece = ['.', '.']
      · subst isParent
        rw [follow_parent] at reached
        exact .parent (induction _ reached)
      rw [follow_name _ _ _ _ isBlank isParent] at reached
      split at reached
      · cases reached
      next short =>
        have names : Names piece := ⟨isBlank, isParent, short⟩
        split at reached
        next there => exact .enter names there (induction _ reached)
        next bytes there =>
          split at reached
          next ends =>
            cases Except.ok.inj reached
            exact .file names there ends
          next => cases reached
        next there =>
          split at reached
          next ends =>
            cases Except.ok.inj reached
            exact .absent names there ends
          next => cases reached

theorem follow_of_leads (disk : Disk) (current : Place) (pieces : List (List Char))
    (found : Target) (leads : disk.Leads current pieces found) :
    disk.follow current pieces = .ok found := by
  induction leads with
  | stop current => rfl
  | blank isBlank further induction => rw [follow_blank _ _ _ _ isBlank, induction]
  | parent further induction => rw [follow_parent, induction]
  | enter names there further induction =>
      rw [follow_name _ _ _ _ names.noBlank names.noParent, if_neg names.short, there]
      exact induction
  | file names there ends =>
      rw [follow_name _ _ _ _ names.noBlank names.noParent, if_neg names.short, there]
      exact if_pos ends
  | absent names there ends =>
      rw [follow_name _ _ _ _ names.noBlank names.noParent, if_neg names.short, there]
      exact if_pos ends

theorem step_to_name (current : Place) (piece : List Char) (names : Names piece) :
    stepTo current piece = current ++ [String.ofList piece] := by
  rw [stepTo, if_neg names.noBlank, if_neg names.noParent]

theorem Leads.place {disk : Disk} {current : Place} {pieces : List (List Char)} {found : Target}
    (leads : disk.Leads current pieces found) : found.place = pieces.foldl stepTo current := by
  induction leads with
  | stop current => rfl
  | blank isBlank further induction => rw [induction, List.foldl_cons, stepTo, if_pos isBlank]
  | parent further induction => rw [induction, List.foldl_cons]; rfl
  | enter names there further induction => rw [induction, List.foldl_cons, step_to_name _ _ names]
  | file names there ends => rw [List.foldl_cons, step_to_name _ _ names, fold_blank _ _ ends]
  | absent names there ends => rw [List.foldl_cons, step_to_name _ _ names, fold_blank _ _ ends]

/-- What is not a directory at the end of a path is what lies at its place. -/
theorem Leads.entry {disk : Disk} {current : Place} {pieces : List (List Char)} {found : Target}
    (leads : disk.Leads current pieces found) (noDirectory : found.entry ≠ some .directory) :
    disk.entry? found.place = found.entry ∧ found.place ≠ [] := by
  induction leads with
  | stop current => exact absurd rfl noDirectory
  | blank isBlank further induction => exact induction noDirectory
  | parent further induction => exact induction noDirectory
  | enter names there further induction => exact induction noDirectory
  | file names there ends => exact ⟨there, by simp⟩
  | absent names there ends => exact ⟨there, by simp⟩

/-- What is there stays there, a directory as a directory and a file as a file, whatever it holds;
and nothing new lies in wait. -/
structure Extends (before after : Disk) : Prop where
  sameDirectory : after.workingDirectory = before.workingDirectory
  hindrances : after.hindrances <:+ before.hindrances
  directories : ∀ place, before.entry? place = some .directory →
    after.entry? place = some .directory
  files : ∀ place bytes, before.entry? place = some (.file bytes) →
    ∃ later, after.entry? place = some (.file later)

theorem Extends.refl (disk : Disk) : Extends disk disk :=
  ⟨rfl, List.suffix_rfl, fun _ there => there, fun _ bytes there => ⟨bytes, there⟩⟩

theorem Extends.trans {before between after : Disk} (first : Extends before between)
    (second : Extends between after) : Extends before after where
  sameDirectory := second.sameDirectory.trans first.sameDirectory
  hindrances := second.hindrances.trans first.hindrances
  directories place there := second.directories place (first.directories place there)
  files place bytes there :=
    let ⟨middle, stays⟩ := first.files place bytes there
    second.files place middle stays

theorem Extends.placeOf {before after : Disk} (extended : Extends before after) (path : Path) :
    after.placeOf path = before.placeOf path := by
  simp only [Disk.placeOf, startOf, extended.sameDirectory]

/-- On a larger disk a path still leads to a directory that it led to. -/
theorem Leads.extend_directory {before after : Disk} (extended : Extends before after)
    {current : Place} {pieces : List (List Char)} {found : Target}
    (leads : before.Leads current pieces found) (directory : found.entry = some .directory) :
    after.Leads current pieces found := by
  induction leads with
  | stop current => exact .stop current
  | blank isBlank further induction => exact .blank isBlank (induction directory)
  | parent further induction => exact .parent (induction directory)
  | enter names there further induction =>
      exact .enter names (extended.directories _ there) (induction directory)
  | file names there ends => cases directory
  | absent names there ends => cases directory

theorem Leads.extend_file {before after : Disk} (extended : Extends before after)
    {current : Place} {pieces : List (List Char)} {found : Target} {bytes later : ByteArray}
    (leads : before.Leads current pieces found) (file : found.entry = some (.file bytes))
    (now : after.entry? found.place = some (.file later)) :
    after.Leads current pieces ⟨found.place, some (.file later), found.asksDirectory⟩ := by
  induction leads with
  | stop current => cases file
  | blank isBlank further induction => exact .blank isBlank (induction file now)
  | parent further induction => exact .parent (induction file now)
  | enter names there further induction =>
      exact .enter names (extended.directories _ there) (induction file now)
  | file names there ends => exact .file names now ends
  | absent names there ends => cases file

/-- Where a path leads to nothing, it leads to a file once one is put at its place. -/
theorem Leads.put_file {disk : Disk} {current : Place} {pieces : List (List Char)} {found : Target}
    (leads : disk.Leads current pieces found) (noDirectory : found.entry ≠ some .directory)
    (bytes : ByteArray) :
    (disk.put found.place (.file bytes)).Leads current pieces
      ⟨found.place, some (.file bytes), found.asksDirectory⟩ := by
  induction leads with
  | stop current => exact absurd rfl noDirectory
  | blank isBlank further induction => exact .blank isBlank (induction noDirectory)
  | parent further induction => exact .parent (induction noDirectory)
  | @enter current piece later found names there further induction =>
      have held := (further.entry noDirectory).1
      -- The end of the path is no directory, so the directories on its way lie elsewhere.
      have apart : current ++ [String.ofList piece] ≠ found.place := by
        intro same
        rw [same, held] at there
        exact noDirectory there
      refine .enter names ?_ (induction noDirectory)
      rw [entry_put_other _ _ _ _ apart, there]
  | file names there ends => exact .file names (entry_put_same _ _ _ (by simp)) ends
  | absent names there ends => exact .file names (entry_put_same _ _ _ (by simp)) ends

/-- What a path leads to depends on the disk only through the entries on its way. -/
theorem target_leads {disk : Disk} {path : Path} {found : Target}
    (reached : disk.target path = .ok found) :
    disk.Leads (disk.startOf path) (Text.pieces '/' path.chars) found := by
  unfold target at reached
  split at reached
  · cases reached
  · split at reached
    · cases reached
    · exact leads_of_follow _ _ _ _ reached

theorem target_of_leads {before after : Disk} {path : Path} {found other : Target}
    (reached : before.target path = .ok found)
    (leads : after.Leads (after.startOf path) (Text.pieces '/' path.chars) other) :
    after.target path = .ok other := by
  unfold target at reached ⊢
  split at reached
  · cases reached
  next noZero =>
    split at reached
    · cases reached
    next filled =>
      rw [if_neg noZero, if_neg filled]
      exact follow_of_leads _ _ _ _ leads

theorem target_place {disk : Disk} {path : Path} {found : Target}
    (reached : disk.target path = .ok found) : found.place = disk.placeOf path :=
  (target_leads reached).place

theorem find_file {disk : Disk} {path : Path} {bytes : ByteArray} :
    disk.find path = .ok (.file bytes) ↔
      disk.target path = .ok ⟨disk.placeOf path, some (.file bytes), false⟩ := by
  constructor
  · intro found
    unfold find at found
    split at found
    · cases found
    next finish reached =>
      have place := target_place reached
      obtain ⟨atPlace, entry, asks⟩ := finish
      dsimp only at found place
      subst place
      split at found
      · cases found
      · cases found
      · split at found
        · cases found
        next noDirectory =>
          cases Except.ok.inj found
          simp only [Bool.not_eq_true] at noDirectory
          rw [reached, noDirectory]
  · intro reached
    simp [find, reached]

theorem find_directory {disk : Disk} {path : Path} :
    disk.find path = .ok .directory ↔
      ∃ found, disk.target path = .ok found ∧ found.entry = some .directory := by
  constructor
  · intro found
    unfold find at found
    split at found
    · cases found
    next finish reached =>
      refine ⟨finish, reached, ?_⟩
      split at found
      · cases found
      next directory => exact directory
      · split at found <;> cases found
  · rintro ⟨found, reached, directory⟩
    simp [find, reached, directory]

theorem bytes_at {disk : Disk} {place : Place} {bytes : ByteArray} :
    disk.bytesAt place = some bytes ↔ disk.entry? place = some (.file bytes) := by
  unfold bytesAt
  split
  next held => simp [held]
  next noFile =>
    constructor
    · intro none
      cases none
    · intro held
      exact absurd held (noFile bytes)

/-- The bytes of the file that a path leads to are those at the place that it means. -/
theorem find_file_bytes {disk : Disk} {path : Path} {bytes : ByteArray}
    (found : disk.find path = .ok (.file bytes)) :
    disk.bytesAt (disk.placeOf path) = some bytes :=
  bytes_at.mpr ((target_leads (find_file.mp found)).entry (by simp)).1

theorem Extends.find_file {before after : Disk} (extended : Extends before after) {path : Path}
    {bytes : ByteArray} (found : before.find path = .ok (.file bytes)) :
    ∃ later, after.find path = .ok (.file later) ∧
      after.bytesAt (before.placeOf path) = some later := by
  have reached := Disk.find_file.mp found
  have leads := target_leads reached
  have held := bytes_at.mp (find_file_bytes found)
  obtain ⟨later, stays⟩ := extended.files _ bytes held
  have start : after.startOf path = before.startOf path := by
    simp only [startOf, extended.sameDirectory]
  refine ⟨later, ?_, bytes_at.mpr stays⟩
  rw [Disk.find_file, extended.placeOf path]
  exact target_of_leads reached (start ▸ leads.extend_file extended rfl stays)

theorem Extends.find_directory {before after : Disk} (extended : Extends before after)
    {path : Path} (found : before.find path = .ok .directory) :
    after.find path = .ok .directory := by
  obtain ⟨finish, reached, directory⟩ := Disk.find_directory.mp found
  have start : after.startOf path = before.startOf path := by
    simp only [startOf, extended.sameDirectory]
  have leads := (target_leads reached).extend_directory extended directory
  exact Disk.find_directory.mpr ⟨finish, target_of_leads reached (start ▸ leads), directory⟩

/-- A file keeps its bytes on a larger disk that has the same bytes at its place. -/
theorem Extends.find_same {before after : Disk} (extended : Extends before after) {path : Path}
    {bytes : ByteArray} (found : before.find path = .ok (.file bytes))
    (same : after.bytesAt (before.placeOf path) = before.bytesAt (before.placeOf path)) :
    after.find path = .ok (.file bytes) := by
  obtain ⟨later, stays, held⟩ := extended.find_file found
  rw [same, find_file_bytes found] at held
  cases Option.some.inj held
  exact stays

end Disk

end CounterForms
