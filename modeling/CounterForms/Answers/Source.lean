import CounterForms.Answers.Stored
import CounterForms.Form.Basic
import CounterForms.Log.Journal

/-!
Where answers come from and go back to: a file, or memory that nothing outlives. A file is read when
it is opened and written when it is flushed; in between its answers may differ from what is on the
disk, and then it is called dirty. A file that is written is noted in the journal.
-/

namespace CounterForms

structure AnswerFile where
  path : Path
  ledger : AnswerLedger
  dirty : Bool

namespace AnswerFile

/-- Reads the answers at a path. A path that leads nowhere gives no answers. -/
def load (disk : Disk) (path : Path) : Attempted AnswerFile :=
  if disk.contains path then do
    let text ← during (.readFile path) (orFail .storage (disk.readText path))
    let ledger ← during (.parseFile path) (AnswerLedger.ofText text)
    .ok ⟨path, ledger, false⟩
  else .ok ⟨path, Ledger.empty, false⟩

def answer? (file : AnswerFile) (name : String) : Option Int :=
  (file.ledger.get? name).bind StoredAnswer.answer?

/-- Whether the file holds anything but null under a name, in range or not. -/
def holdsValue (file : AnswerFile) (name : String) : Bool :=
  match file.ledger.get? name with
  | none | some .absent => false
  | some _ => true

/-- Enters an answer. The file becomes dirty only if it held something else. -/
def setAnswer (file : AnswerFile) (name : String) (answer : Option Int) : AnswerFile :=
  let stored := StoredAnswer.ofAnswer answer
  if file.ledger.get? name = some stored then file
  else { file with ledger := file.ledger.enter name stored, dirty := true }

def makeParent (disk : Disk) (path : Path) : Attempted Unit × Disk :=
  match path.parent? with
  | none => (.ok (), disk)
  | some parent =>
      if parent.isEmpty then (.ok (), disk)
      else
        let (made, after) := disk.makeDirectories parent
        (during (.makeDirectory parent) (orFail .storage made), after)

structure Flushed where
  written : Attempted Bool
  file : AnswerFile
  disk : Disk

/-- Writes the answers to the disk, unless the file is there and not dirty. -/
def flush (file : AnswerFile) (disk : Disk) : Flushed :=
  if !file.dirty && disk.contains file.path then ⟨.ok false, file, disk⟩
  else
    match makeParent disk file.path with
    | (.error failure, after) => ⟨.error failure, file, after⟩
    | (.ok (), prepared) =>
        match prepared.writeText file.path file.ledger.text with
        | (.error fault, after) =>
            ⟨during (.writeFile file.path) (failBy (.storage fault)), file, after⟩
        | (.ok (), after) => ⟨.ok true, { file with dirty := false }, after⟩

end AnswerFile

inductive AnswerSource
  | memory (answers : Ledger (Option Int))
  | onDisk (file : AnswerFile)

namespace AnswerSource

def answer? (source : AnswerSource) (name : String) : Option Int :=
  match source with
  | .memory answers => (answers.get? name).join
  | .onDisk file => file.answer? name

def setAnswer (source : AnswerSource) (name : String) (answer : Option Int) : AnswerSource :=
  match source with
  | .memory answers => .memory (answers.enter name answer)
  | .onDisk file => .onDisk (file.setAnswer name answer)

def setAnswers (source : AnswerSource) (answers : List (String × Option Int)) : AnswerSource :=
  answers.foldl (fun filled answer => filled.setAnswer answer.1 answer.2) source

/-- Memory has nothing to keep up with and is never dirty. -/
def isDirty : AnswerSource → Bool
  | .memory _ => false
  | .onDisk file => file.dirty

structure Flushed where
  written : Attempted Bool
  source : AnswerSource
  disk : Disk

def flush (source : AnswerSource) (disk : Disk) : Flushed :=
  match source with
  | .memory answers => ⟨.ok false, .memory answers, disk⟩
  | .onDisk file =>
      let flushed := file.flush disk
      ⟨flushed.written, .onDisk flushed.file, flushed.disk⟩

end AnswerSource

def FormDefinition.bindTo (definition : FormDefinition) (source : AnswerSource) : Form :=
  Form.bind definition source.answer?

structure Kept where
  result : Attempted Unit
  source : AnswerSource
  workspace : Workspace

namespace AnswerSource

def writtenEvents : AnswerSource → List LogEvent
  | .memory _ => []
  | .onDisk file => [.answersWritten file.path file.ledger.size]

def keep (source : AnswerSource) (workspace : Workspace) : Kept :=
  let flushed := source.flush workspace.disk
  let after := { workspace with disk := flushed.disk }
  match flushed.written with
  | .error failure => ⟨.error failure, flushed.source, after⟩
  | .ok false => ⟨.ok (), flushed.source, after⟩
  | .ok true => ⟨.ok (), flushed.source, after.noteAll flushed.source.writtenEvents⟩

end AnswerSource

end CounterForms
