import CounterForms.Proofs.Log.Journal

/-!
What a run with a journal leaves alone. Opening the journal may make directories and the file of the
journal, and notes make that file longer; no other file gets other bytes. Where the journal lies is
told by the environment and the working directory.
-/

namespace CounterForms

open Storage

namespace Disk

theorem make_file_beside (disk : Disk) (path : Path) :
    disk.QuietBeside (disk.makeFile path).2 (some (disk.placeOf path)) ∧
      ∀ place, (disk.makeFile path).1 = .ok place → place = disk.placeOf path := by
  have taken := disk.take_hindrance_quiet
  unfold makeFile
  split
  next hindrance later taking =>
    rw [taking] at taken
    exact ⟨taken.beside _, by simp⟩
  next later taking =>
    rw [taking] at taken
    split
    · exact ⟨taken.beside _, by simp⟩
    next place chosen =>
      obtain ⟨entry, reached, noDirectory, rfl⟩ := later.write_place_entry path place chosen
      have held := (target_leads reached).entry noDirectory
      rw [taken.placeOf path] at held ⊢
      split
      · refine ⟨taken.beside _, ?_⟩
        intro place made
        exact (Except.ok.inj made).symm
      · refine ⟨(taken.beside _).trans (later.put_file_beside _ _ ?_), ?_⟩
        · rw [held.1]
          exact noDirectory
        · intro place made
          exact (Except.ok.inj made).symm

end Disk

/-- Where the journal of a run lies, if it has a place at all. -/
def Journal.placeIn? (environment : Environment) (disk : Disk) : Option Place :=
  (dataDirectory environment).toOption.map fun directory => disk.placeOf (directory.join fileName)

theorem Journal.place_in_extends {before after : Disk} (extended : before.Extends after)
    (environment : Environment) : placeIn? environment after = placeIn? environment before := by
  unfold placeIn?
  congr
  funext directory
  exact extended.placeOf (directory.join fileName)

/-- Opening a journal touches no file but that of the journal, which is then in its place. -/
theorem Journal.start_beside (environment : Environment) (disk : Disk) :
    disk.QuietBeside (start environment disk).2 (placeIn? environment disk) ∧
      ∀ journal, (start environment disk).1 = .ok journal →
        some journal.place = placeIn? environment disk := by
  unfold start placeIn?
  cases dataDirectory environment with
  | error failure => exact ⟨Disk.QuietBeside.refl _ _, by simp⟩
  | ok directory =>
      have made := disk.make_directories_quiet directory
      simp only [Except.toOption, Option.map_some]
      generalize disk.makeDirectories directory = way at made ⊢
      obtain ⟨outcome, prepared⟩ := way
      dsimp only at made ⊢
      cases outcome with
      | error fault => exact ⟨made.beside _, by simp [during, failBy]⟩
      | ok _ =>
          obtain ⟨file, placed⟩ := prepared.make_file_beside (directory.join fileName)
          rw [made.placeOf] at file placed
          generalize prepared.makeFile (directory.join fileName) = ready at file placed ⊢
          obtain ⟨chosen, after⟩ := ready
          dsimp only at file placed ⊢
          cases chosen with
          | error fault => exact ⟨(made.beside _).trans file, by simp [during, failBy]⟩
          | ok place =>
              refine ⟨(made.beside _).trans file, ?_⟩
              intro journal started
              cases started
              exact congrArg some (placed place rfl)

namespace Workspace

def KeptAt (workspace : Workspace) (exempt : Option Place) : Prop :=
  ∀ journal ∈ workspace.journal, some journal.place = exempt ∧
    ∃ bytes, workspace.disk.bytesAt journal.place = some bytes

structure Journals (before after : Workspace) (exempt : Option Place) : Prop where
  journal : after.journal = before.journal
  quiet : before.disk.QuietBeside after.disk exempt

variable {before between after : Workspace} {exempt : Option Place}

theorem Journals.refl (workspace : Workspace) (exempt : Option Place) :
    workspace.Journals workspace exempt :=
  ⟨rfl, Disk.QuietBeside.refl _ _⟩

theorem Journals.trans (first : before.Journals between exempt)
    (second : between.Journals after exempt) : before.Journals after exempt :=
  ⟨second.journal.trans first.journal, first.quiet.trans second.quiet⟩

theorem KeptAt.extend (kept : before.KeptAt exempt) (sameJournal : after.journal = before.journal)
    (extended : before.disk.Extends after.disk) : after.KeptAt exempt := by
  intro journal isKept
  obtain ⟨placed, bytes, there⟩ := kept journal (sameJournal ▸ isKept)
  obtain ⟨later, stays⟩ := extended.files _ bytes (Disk.bytes_at.mp there)
  exact ⟨placed, later, Disk.bytes_at.mpr stays⟩

theorem KeptAt.later (kept : before.KeptAt exempt) (journals : before.Journals after exempt) :
    after.KeptAt exempt :=
  kept.extend journals.journal journals.quiet.toExtends

theorem KeptAt.apart {workspace : Workspace} (kept : workspace.KeptAt exempt) (path : Path)
    (elsewhere : some (workspace.disk.placeOf path) ≠ exempt) : workspace.Apart path := by
  intro journal isKept
  obtain ⟨placed, there⟩ := kept journal isKept
  refine ⟨?_, there⟩
  intro same
  exact elsewhere (same ▸ placed)

theorem note_journals (workspace : Workspace) (event : LogEvent)
    (kept : workspace.KeptAt exempt) : workspace.Journals (workspace.note event) exempt := by
  unfold note
  split
  · exact Journals.refl workspace exempt
  next journal isKept =>
    obtain ⟨placed, bytes, there⟩ := kept journal isKept
    split
    · refine ⟨rfl, ?_⟩
      rw [← placed]
      apply Disk.put_file_beside
      rw [Disk.bytes_at.mp there]
      simp
    · exact Journals.refl workspace exempt

theorem note_all_journals (workspace : Workspace) (events : List LogEvent)
    (kept : workspace.KeptAt exempt) : workspace.Journals (workspace.noteAll events) exempt := by
  induction events generalizing workspace with
  | nil => exact Journals.refl workspace exempt
  | cons event later induction =>
      have first := workspace.note_journals event kept
      exact first.trans (induction _ (kept.later first))

end Workspace

end CounterForms
