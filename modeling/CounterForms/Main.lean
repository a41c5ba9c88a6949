import CounterForms.CommandLine.Run
import CounterForms.CommandLine.Setup
import CounterForms.Terminal.Drawing
import CounterForms.Terminal.KeyInput

/-!
The program. It looks at the places of the real disk that a run can reach, lets the run go on with
what it found there, and puts back what the run has changed. On the screen keys are taken as the
terminal sends them, which has to pass them on one by one.
-/

namespace CounterForms

namespace Program

def isDirectory (text : String) : IO Bool := do
  try
    let _ ← IO.FS.realPath (text ++ "/.")
    return true
  catch _ => return false

def readFile? (text : String) : IO (Option ByteArray) := do
  try return some (← IO.FS.readBinFile text)
  catch _ => return none

def placeText (place : Storage.Place) : String := "/" ++ "/".intercalate place

def look (disk : Disk) (place : Storage.Place) : IO Disk := do
  let mut seen := disk
  for length in List.range place.length do
    let above := place.take (length + 1)
    if (seen.entry? above).isNone then
      if ← isDirectory (placeText above) then
        seen := seen.put above .directory
      else if let some bytes ← readFile? (placeText above) then
        seen := seen.put above (.file bytes)
  return seen

/-- The place of a path, dots being resolved by their names. -/
def placeOf (working : Storage.Place) (path : Path) : Storage.Place :=
  path.components.foldl
    (fun place component =>
      match component with
      | .root => []
      | .here => place
      | .parent => place.dropLast
      | .name name => place ++ [name])
    working

def lookAround (environment : Environment) (texts : List String) (disk : Disk) : IO Disk := do
  let mut seen ← look disk disk.workingDirectory
  for path in CommandLine.reach environment disk texts do
    seen ← look seen (placeOf disk.workingDirectory path)
  return seen

/-- Puts back what differs between two states of the disk, directories before what lies in them. -/
def putBack (before after : Disk) : IO Unit := do
  let changed := after.entries.filter fun (place, entry) => before.entry? place != some entry
  for (place, entry) in changed.mergeSort fun one other => one.1.length ≤ other.1.length do
    match entry with
    | .directory => IO.FS.createDirAll (placeText place)
    | .file bytes => IO.FS.writeBinFile (placeText place) bytes

def readVariables : IO (List (String × String)) := do
  let bytes ← readFile? "/proc/self/environ"
  let text := ((bytes.bind String.fromUTF8?).getD "").toList
  return (Text.pieces '\x00' text).filterMap fun entry =>
    let name := entry.takeWhile (· != '=')
    if name.length < entry.length then
      some (String.ofList name, String.ofList (entry.drop (name.length + 1)))
    else none

def sizeOf (environment : Environment) (name : String) (usual : Nat) : Nat :=
  ((environment.value? name).bind String.toNat?).getD usual

/-- Shows a session and takes keys until it is over. Changes are put back as they come. -/
partial def fill (environment : Environment) (input : Terminal.KeyInput) (session : Session) :
    IO Session := do
  if session.ended then return session
  let output ← IO.getStdout
  let canvas := Canvas.blank (sizeOf environment "COLUMNS" 80) (sizeOf environment "LINES" 24)
  let (drawn, shown) := session.draw canvas
  output.putStr (Terminal.canvasText shown)
  output.flush
  let bytes ← (← IO.getStdin).read 1
  match bytes.toList with
  | [] => return drawn
  | byte :: _ =>
      match input.receive byte with
      | (later, none) => fill environment later drawn
      | (later, some chord) =>
          let pressed := drawn.press chord
          putBack drawn.workspace.disk pressed.workspace.disk
          fill environment later pressed

def conclude (before : Disk) (outcome : CommandLine.Outcome) : IO UInt32 := do
  putBack before outcome.disk
  IO.print outcome.printed
  IO.eprint (outcome.complaints Failure.messages)
  return UInt32.ofNat outcome.ending.code

def fillIn (environment : Environment) (warning : Option Failure) (session : Session) :
    IO UInt32 := do
  IO.print Terminal.enterScreen
  let filled ← fill environment .nothing session.opened
  IO.print CommandLine.leaveScreenText
  conclude filled.workspace.disk (CommandLine.finish warning filled)

def run (texts : List String) : IO UInt32 := do
  let environment : Environment := { values := ← readVariables }
  let working := placeOf [] ⟨(← IO.currentDir).toString⟩
  let empty : Disk := { entries := [], workingDirectory := working }
  let disk ← lookAround environment texts (← lookAround environment texts empty)
  match CommandLine.begin environment disk texts with
  | .ended outcome => conclude disk outcome
  | .filling warning session =>
      putBack disk session.workspace.disk
      if ← (← IO.getStdin).isTty then fillIn environment warning session
      else conclude disk (CommandLine.withoutTerminal warning session)

end Program

end CounterForms

def main (texts : List String) : IO UInt32 := CounterForms.Program.run texts
