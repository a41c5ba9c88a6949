import CounterForms.Proofs.Storage.Writing

/-!
Disks that differ in nothing but what their files hold. Every operation that makes directories or
chooses a place to write to has the same outcome on both, and leaves disks that are alike again.
-/

namespace CounterForms

open Storage

def Storage.Entry.isDirectory : Entry → Bool
  | .directory => true
  | .file _ => false

namespace Disk

/-- Two disks with the same directories, and files at the same places. -/
structure Alike (before after : Disk) : Prop where
  sameDirectory : after.workingDirectory = before.workingDirectory
  hindrances : after.hindrances = before.hindrances
  kinds : ∀ place, (after.entry? place).map Entry.isDirectory =
    (before.entry? place).map Entry.isDirectory

theorem Alike.refl (disk : Disk) : Alike disk disk := ⟨rfl, rfl, fun _ => rfl⟩

theorem Alike.trans {before between after : Disk} (first : Alike before between)
    (second : Alike between after) : Alike before after :=
  ⟨second.sameDirectory.trans first.sameDirectory, second.hindrances.trans first.hindrances,
    fun place => (second.kinds place).trans (first.kinds place)⟩

inductive SameKind : Option Entry → Option Entry → Prop
  | absent : SameKind none none
  | directory : SameKind (some .directory) (some .directory)
  | file (bytes later : ByteArray) : SameKind (some (.file bytes)) (some (.file later))

theorem same_kind_of_map {one other : Option Entry}
    (same : other.map Entry.isDirectory = one.map Entry.isDirectory) : SameKind one other := by
  rcases one with _ | _ | bytes <;> rcases other with _ | _ | later <;> simp_all [Entry.isDirectory]
  · exact .absent
  · exact .directory
  · exact .file bytes later

theorem Alike.sameKind {before after : Disk} (alike : Alike before after) (place : Place) :
    SameKind (before.entry? place) (after.entry? place) :=
  same_kind_of_map (alike.kinds place)

theorem Alike.extends {before after : Disk} (alike : Alike before after) :
    Extends before after where
  sameDirectory := alike.sameDirectory
  hindrances := alike.hindrances ▸ List.suffix_rfl
  directories place there := by
    have kind := alike.sameKind place
    rw [there] at kind
    generalize after.entry? place = now at kind ⊢
    cases kind
    rfl
  files place bytes there := by
    have kind := alike.sameKind place
    rw [there] at kind
    generalize after.entry? place = now at kind ⊢
    cases kind with
    | file _ later => exact ⟨later, rfl⟩

inductive SameEnd : Except Fault Target → Except Fault Target → Prop
  | fault (fault : Fault) : SameEnd (.error fault) (.error fault)
  | found (place : Place) {one other : Option Entry} (asksDirectory : Bool)
      (kind : SameKind one other) :
      SameEnd (.ok ⟨place, one, asksDirectory⟩) (.ok ⟨place, other, asksDirectory⟩)

theorem Alike.follow {before after : Disk} (alike : Alike before after) (current : Place)
    (pieces : List (List Char)) :
    SameEnd (before.follow current pieces) (after.follow current pieces) := by
  induction pieces generalizing current with
  | nil => exact .found current false .directory
  | cons piece later induction =>
      by_cases isBlank : piece = [] ∨ piece = ['.']
      · rw [follow_blank _ _ _ _ isBlank, follow_blank _ _ _ _ isBlank]
        exact induction current
      by_cases isParent : piece = ['.', '.']
      · subst isParent
        rw [follow_parent, follow_parent]
        exact induction _
      rw [follow_name _ _ _ _ isBlank isParent, follow_name _ _ _ _ isBlank isParent]
      split
      · exact .fault _
      have kind := alike.sameKind (current ++ [String.ofList piece])
      generalize before.entry? (current ++ [String.ofList piece]) = one at kind ⊢
      generalize after.entry? (current ++ [String.ofList piece]) = other at kind ⊢
      cases kind with
      | absent =>
          dsimp only
          split
          · exact .found _ _ .absent
          · exact .fault _
      | directory => exact induction _
      | file bytes later =>
          dsimp only
          split
          · exact .found _ _ (.file bytes later)
          · exact .fault _

theorem Alike.target {before after : Disk} (alike : Alike before after) (path : Path) :
    SameEnd (before.target path) (after.target path) := by
  unfold Disk.target
  split
  · exact .fault _
  · split
    · exact .fault _
    · rw [alike.sameDirectory]
      exact alike.follow _ _

theorem Alike.write_place {before after : Disk} (alike : Alike before after) (path : Path) :
    after.writePlace path = before.writePlace path := by
  have ends := alike.target path
  unfold writePlace
  generalize before.target path = one at ends ⊢
  generalize after.target path = other at ends ⊢
  cases ends with
  | fault => rfl
  | found place asksDirectory kind => cases kind <;> simp

theorem Alike.is_directory {before after : Disk} (alike : Alike before after) (path : Path) :
    after.isDirectory path = before.isDirectory path := by
  have ends := alike.target path
  unfold isDirectory find
  generalize before.target path = one at ends ⊢
  generalize after.target path = other at ends ⊢
  cases ends with
  | fault => rfl
  | found place asksDirectory kind =>
      cases kind with
      | absent => rfl
      | directory => rfl
      | file bytes later => cases asksDirectory <;> rfl

/-- A path leads to the same on both disks if the same bytes lie at the place that it means. -/
theorem Alike.find_same {before after : Disk} (alike : Alike before after) (path : Path)
    (same : after.bytesAt (before.placeOf path) = before.bytesAt (before.placeOf path)) :
    after.find path = before.find path := by
  cases found : before.find path with
  | ok entry =>
      cases entry with
      | directory => exact alike.extends.find_directory found
      | file bytes => exact alike.extends.find_same found same
  | error fault =>
      have ends := alike.target path
      unfold find at found ⊢
      generalize before.target path = one at ends found
      generalize after.target path = other at ends ⊢
      cases ends with
      | fault => exact found
      | found place asksDirectory kind =>
          cases kind with
          | absent => exact found
          | directory => cases found
          | file bytes later => cases asksDirectory <;> first | exact found | cases found

theorem Alike.put {before after : Disk} (alike : Alike before after) (place : Place)
    (entry : Entry) : Alike (before.put place entry) (after.put place entry) := by
  refine ⟨alike.sameDirectory, alike.hindrances, fun other => ?_⟩
  by_cases same : other = place
  · subst same
    by_cases root : other = []
    · simp [Disk.entry?, root]
    · rw [entry_put_same _ _ _ root, entry_put_same _ _ _ root]
  · rw [entry_put_other _ _ _ _ same, entry_put_other _ _ _ _ same]
    exact alike.kinds other

inductive SameOutcome : Except Fault Disk → Except Fault Disk → Prop
  | fault (fault : Fault) : SameOutcome (.error fault) (.error fault)
  | made {one other : Disk} (alike : Alike one other) : SameOutcome (.ok one) (.ok other)

theorem Alike.make_directory {before after : Disk} (alike : Alike before after) (path : Path) :
    SameOutcome (before.makeDirectory path) (after.makeDirectory path) := by
  have ends := alike.target path
  unfold makeDirectory
  generalize before.target path = one at ends ⊢
  generalize after.target path = other at ends ⊢
  cases ends with
  | fault => exact .fault _
  | found place asksDirectory kind =>
      cases kind with
      | absent => exact .made (alike.put place .directory)
      | directory => exact .fault _
      | file bytes later => exact .fault _

theorem Alike.settle_directory {before after : Disk} (alike : Alike before after) (path : Path)
    (fault : Fault) :
    (after.settleDirectory path fault).1 = (before.settleDirectory path fault).1 ∧
      Alike (before.settleDirectory path fault).2 (after.settleDirectory path fault).2 := by
  refine ⟨?_, alike⟩
  rw [settleDirectory, settleDirectory, alike.is_directory]

theorem Alike.make_way (budget : Nat) {before after : Disk} (alike : Alike before after)
    (path : Path) :
    (after.makeWay budget path).1 = (before.makeWay budget path).1 ∧
      Alike (before.makeWay budget path).2 (after.makeWay budget path).2 := by
  induction budget generalizing before after path with
  | zero => exact ⟨rfl, alike⟩
  | succ budget induction =>
      unfold makeWay
      split
      · exact ⟨rfl, alike⟩
      have first := alike.make_directory path
      generalize before.makeDirectory path = one at first ⊢
      generalize after.makeDirectory path = other at first ⊢
      cases first with
      | made made => exact ⟨rfl, made⟩
      | fault fault =>
          cases fault with
          | notFound =>
              dsimp only
              cases path.parent? with
              | none => exact ⟨rfl, alike⟩
              | some parent =>
                  -- The way to the parent is made on both disks, with the same result.
                  obtain ⟨sameResult, prepared⟩ := induction alike parent
                  dsimp only
                  revert sameResult prepared
                  generalize before.makeWay budget parent = one
                  generalize after.makeWay budget parent = other
                  obtain ⟨oneResult, oneDisk⟩ := one
                  obtain ⟨otherResult, otherDisk⟩ := other
                  intro sameResult prepared
                  dsimp only at sameResult prepared ⊢
                  subst sameResult
                  cases otherResult with
                  | error fault => exact ⟨rfl, prepared⟩
                  | ok _ =>
                      dsimp only
                      have second := prepared.make_directory path
                      generalize oneDisk.makeDirectory path = made at second ⊢
                      generalize otherDisk.makeDirectory path = remade at second ⊢
                      cases second with
                      | made made => exact ⟨rfl, made⟩
                      | fault fault => exact prepared.settle_directory path fault
          | _ => exact alike.settle_directory path _

theorem Alike.make_directories {before after : Disk} (alike : Alike before after) (path : Path) :
    (after.makeDirectories path).1 = (before.makeDirectories path).1 ∧
      Alike (before.makeDirectories path).2 (after.makeDirectories path).2 := by
  unfold makeDirectories takeHindrance
  rw [alike.hindrances]
  cases before.hindrances with
  | nil => exact alike.make_way _ path
  | cons next later =>
      have taken : Alike { before with hindrances := later } { after with hindrances := later } :=
        ⟨alike.sameDirectory, rfl, alike.kinds⟩
      cases next with
      | none => exact taken.make_way _ path
      | some hindrance => exact ⟨rfl, taken⟩

end Disk

end CounterForms
