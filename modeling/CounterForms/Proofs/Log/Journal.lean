import CounterForms.Log.Journal
import CounterForms.Proofs.Storage.Alike

/-!
What the notes of a run do to its disk. A journal that was opened is a file that is there; its notes
make that file longer and leave everything else as it is. So a file that is not the journal is found
after any notes as it was before them.
-/

namespace CounterForms

open Storage

theorem Disk.make_file_bytes (disk ready : Disk) (path : Path) (place : Place)
    (made : disk.makeFile path = (.ok place, ready)) : ∃ bytes, ready.bytesAt place = some bytes := by
  unfold makeFile at made
  split at made
  · cases made
  next later _ =>
    split at made
    · cases made
    next written =>
      obtain ⟨entry, reached, noDirectory, rfl⟩ := later.write_place_entry _ _ written
      obtain ⟨held, below⟩ := (target_leads reached).entry noDirectory
      dsimp only at held below
      split at made
      next kind there =>
        cases made
        cases kind with
        | directory => exact absurd (held.symm.trans there) noDirectory
        | file bytes => exact ⟨bytes, bytes_at.mpr there⟩
      next =>
        cases made
        exact ⟨.empty, bytes_at.mpr (entry_put_same _ _ _ below)⟩

/-- A journal that was opened has a file. -/
theorem Journal.start_file (environment : Environment) (disk ready : Disk) (journal : Journal)
    (started : Journal.start environment disk = (.ok journal, ready)) :
    ∃ bytes, ready.bytesAt journal.place = some bytes := by
  unfold start at started
  split at started
  · cases started
  · dsimp only at started
    split at started
    · cases started
    · split at started
      · cases started
      next place chosen =>
        cases started
        exact Disk.make_file_bytes _ _ _ place (Prod.ext chosen rfl)

namespace Workspace

/-- The journal, if one is kept, is a file that is there and not the one that a path means. -/
def Apart (workspace : Workspace) (path : Path) : Prop :=
  ∀ journal ∈ workspace.journal, journal.place ≠ workspace.disk.placeOf path ∧
    ∃ bytes, workspace.disk.bytesAt journal.place = some bytes

theorem apart_unkept (disk : Disk) (path : Path) : (Workspace.mk disk none).Apart path := by
  intro journal kept
  cases kept

/-- Nothing is different but what is held by files other than that of a path. -/
structure Notes (before after : Workspace) (path : Path) : Prop where
  journal : after.journal = before.journal
  alike : before.disk.Alike after.disk
  bytes : before.disk.SameFile after.disk path

theorem Notes.refl (workspace : Workspace) (path : Path) : workspace.Notes workspace path :=
  ⟨rfl, Disk.Alike.refl _, rfl⟩

theorem Notes.trans {before between after : Workspace} {path : Path}
    (first : before.Notes between path) (second : between.Notes after path) :
    before.Notes after path :=
  ⟨second.journal.trans first.journal, first.alike.trans second.alike,
    first.bytes.trans second.bytes first.alike.extends⟩

/-- A journal stays apart from a file while the disk extends. -/
theorem Apart.extend {before after : Workspace} {path : Path} (apart : before.Apart path)
    (sameJournal : after.journal = before.journal) (extended : before.disk.Extends after.disk) :
    after.Apart path := by
  intro journal kept
  obtain ⟨elsewhere, bytes, there⟩ := apart journal (sameJournal ▸ kept)
  obtain ⟨later, stays⟩ := extended.files _ bytes (Disk.bytes_at.mp there)
  exact ⟨extended.placeOf path ▸ elsewhere, later, Disk.bytes_at.mpr stays⟩

theorem note_notes (workspace : Workspace) (event : LogEvent) (path : Path)
    (apart : workspace.Apart path) : workspace.Notes (workspace.note event) path := by
  unfold note
  split
  · exact Notes.refl workspace path
  next journal kept =>
    split
    · obtain ⟨elsewhere, bytes, there⟩ := apart journal kept
      refine ⟨rfl, ⟨rfl, rfl, fun place => ?_⟩, ?_⟩
      · have file := Disk.bytes_at.mp there
        by_cases same : place = journal.place
        · subst same
          have below : journal.place ≠ [] := by
            intro root
            simp [root, Disk.entry?] at file
          simp only [Disk.extend, Disk.entry_put_same _ _ _ below, file, Option.map_some,
            Entry.isDirectory]
        · simp only [Disk.extend, Disk.entry_put_other _ _ _ _ same]
      · exact Disk.put_bytes_other _ _ _ _ elsewhere.symm
    · exact Notes.refl workspace path

theorem note_all_notes (workspace : Workspace) (events : List LogEvent) (path : Path)
    (apart : workspace.Apart path) : workspace.Notes (workspace.noteAll events) path := by
  induction events generalizing workspace with
  | nil => exact Notes.refl workspace path
  | cons event later induction =>
      have first := workspace.note_notes event path apart
      exact first.trans (induction _ (apart.extend first.journal first.alike.extends))

/-- A path leads after notes to what it led to before. -/
theorem Notes.find {before after : Workspace} {path : Path} (notes : before.Notes after path) :
    after.disk.find path = before.disk.find path :=
  notes.alike.find_same path notes.bytes

end Workspace

end CounterForms
