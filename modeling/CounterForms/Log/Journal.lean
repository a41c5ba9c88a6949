import CounterForms.Files
import CounterForms.Log.Filter

/-!
The journal of a run: a file among the program's data to which admitted events are added line by
line. A run without a journal goes on all the same.
-/

namespace CounterForms

structure Journal where
  place : Storage.Place
  filter : LogFilter

namespace Journal

def fileName : String := "tally.log"

def filterVariable : String := "TALLY_LOG"

/-- Opens the journal, and gives the disk as it is afterwards. -/
def start (environment : Environment) (disk : Disk) : Attempted Journal × Disk :=
  match dataDirectory environment with
  | .error failure => (.error failure, disk)
  | .ok directory =>
      let (made, prepared) := disk.makeDirectories directory
      match made with
      | .error fault => (during (.makeLogDirectory directory) (failBy (.storage fault)), prepared)
      | .ok () =>
          let path := directory.join fileName
          let (place, ready) := prepared.makeFile path
          match place with
          | .error fault => (during (.openLog path) (failBy (.storage fault)), ready)
          | .ok place =>
              (.ok ⟨place, LogFilter.ofVariable (environment.value? filterVariable)⟩, ready)

end Journal

/-- The disk that a run works on, and the journal kept there, if one is. -/
structure Workspace where
  disk : Disk
  journal : Option Journal := none

namespace Workspace

def note (workspace : Workspace) (event : LogEvent) : Workspace :=
  match workspace.journal with
  | none => workspace
  | some journal =>
      if journal.filter.admits event then
        { workspace with disk := workspace.disk.extend journal.place event.line }
      else workspace

def noteAll (workspace : Workspace) (events : List LogEvent) : Workspace :=
  events.foldl note workspace

end Workspace

end CounterForms
