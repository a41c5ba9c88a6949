import CounterForms.Storage.Path

/-!
What a program sees of a disk: directories and files under their places, and the directory it works
in. Reading leaves the disk as it is. Every writing operation gives the disk as it is afterwards,
also when it fails; besides the faults that follow from the contents of the disk, a device may
hinder the next operations, and a hindered write may leave part of a file behind.
-/

namespace CounterForms

namespace Storage

inductive Fault
  | notFound
  | alreadyExists
  | notADirectory
  | isADirectory
  | nameTooLong
  | nameWithZero
  | notText
  | noSpace
deriving DecidableEq

def Fault.message : Fault → String
  | .notFound => "No such file or directory (os error 2)"
  | .alreadyExists => "File exists (os error 17)"
  | .notADirectory => "Not a directory (os error 20)"
  | .isADirectory => "Is a directory (os error 21)"
  | .nameTooLong => "File name too long (os error 36)"
  | .nameWithZero => "file name contained an unexpected NUL byte"
  | .notText => "stream did not contain valid UTF-8"
  | .noSpace => "No space left on device (os error 28)"

/-- Contents of files are compared byte by byte. -/
instance instDecidableEqContents : DecidableEq ByteArray := ByteArray.instDecidableEq

/-- Where a file or directory lies: the names from the root on. -/
abbrev Place := List String

inductive Entry
  | directory
  | file (bytes : ByteArray)
deriving DecidableEq

/-- How a device hinders an operation: the fault, and what a write leaves in the file if it does not
leave the file as it was. -/
structure Hindrance where
  fault : Fault
  left : Option ByteArray := none
deriving DecidableEq

end Storage

open Storage

/-- The state of a disk. The hindrances lie in wait for the next writing operations. -/
structure Disk where
  entries : List (Place × Entry)
  workingDirectory : Place
  hindrances : List (Option Hindrance) := []

namespace Disk

def greatestName : Nat := 255

def entry? (disk : Disk) (place : Place) : Option Entry :=
  if place = [] then some .directory else disk.entries.lookup place

def remove (disk : Disk) (place : Place) : Disk :=
  { disk with entries := disk.entries.filter fun other => other.1 != place }

def put (disk : Disk) (place : Place) (entry : Entry) : Disk :=
  { disk with entries := (place, entry) :: (disk.remove place).entries }

/-- The end of a path: the place it leads to, what lies there, and whether the path asks for a
directory by a slash at its end. -/
structure Target where
  place : Place
  entry : Option Entry
  asksDirectory : Bool

/-- Follows the pieces of a path from a directory on. -/
def follow (disk : Disk) : Place → List (List Char) → Except Fault Target
  | current, [] => .ok ⟨current, some .directory, false⟩
  | current, piece :: later =>
      if piece = [] ∨ piece = ['.'] then disk.follow current later
      else if piece = ['.', '.'] then disk.follow current.dropLast later
      else
        let name := String.ofList piece
        let place := current ++ [name]
        let ends := later.all List.isEmpty
        if greatestName < name.utf8ByteSize then .error .nameTooLong
        else
          match disk.entry? place with
          | some .directory => disk.follow place later
          | some (.file bytes) =>
              if ends then .ok ⟨place, some (.file bytes), !later.isEmpty⟩
              else .error .notADirectory
          | none => if ends then .ok ⟨place, none, !later.isEmpty⟩ else .error .notFound

def target (disk : Disk) (path : Path) : Except Fault Target :=
  if path.chars.contains '\x00' then .error .nameWithZero
  else if path.isEmpty then .error .notFound
  else
    disk.follow (if path.isAbsolute then [] else disk.workingDirectory)
      (Text.pieces '/' path.chars)

def find (disk : Disk) (path : Path) : Except Fault Entry :=
  match disk.target path with
  | .error fault => .error fault
  | .ok found =>
      match found.entry with
      | none => .error .notFound
      | some .directory => .ok .directory
      | some (.file bytes) =>
          if found.asksDirectory then .error .notADirectory else .ok (.file bytes)

def contains (disk : Disk) (path : Path) : Bool := (disk.find path).toOption.isSome

def isDirectory (disk : Disk) (path : Path) : Bool := (disk.find path).toOption == some .directory

def readText (disk : Disk) (path : Path) : Except Fault String :=
  match disk.find path with
  | .error fault => .error fault
  | .ok .directory => .error .isADirectory
  | .ok (.file bytes) =>
      match String.fromUTF8? bytes with
      | some text => .ok text
      | none => .error .notText

/-- Takes the next hindrance, if one lies in wait. -/
def takeHindrance (disk : Disk) : Option Hindrance × Disk :=
  match disk.hindrances with
  | [] => (none, disk)
  | next :: later => (next, { disk with hindrances := later })

def makeDirectory (disk : Disk) (path : Path) : Except Fault Disk :=
  match disk.target path with
  | .error fault => .error fault
  | .ok found =>
      match found.entry with
      | some _ => .error .alreadyExists
      | none => .ok (disk.put found.place .directory)

/-- Whether a failed attempt to make a directory counts as done, because there is one. -/
def settleDirectory (disk : Disk) (path : Path) (fault : Fault) : Except Fault Unit × Disk :=
  (if disk.isDirectory path then .ok () else .error fault, disk)

/-- Makes a directory and those on the way to it. The budget bounds the length of the way. -/
def makeWay (disk : Disk) : Nat → Path → Except Fault Unit × Disk
  | 0, _ => (.error .notFound, disk)
  | budget + 1, path =>
      if path.isEmpty then (.ok (), disk)
      else
        match disk.makeDirectory path with
        | .ok made => (.ok (), made)
        | .error .notFound =>
            match path.parent? with
            | none => (.error .notFound, disk)
            | some parent =>
                match disk.makeWay budget parent with
                | (.error fault, prepared) => (.error fault, prepared)
                | (.ok (), prepared) =>
                    match prepared.makeDirectory path with
                    | .ok made => (.ok (), made)
                    | .error fault => prepared.settleDirectory path fault
        | .error fault => disk.settleDirectory path fault

/-- Makes a directory and those on the way to it, unless they are there. -/
def makeDirectories (disk : Disk) (path : Path) : Except Fault Unit × Disk :=
  match disk.takeHindrance with
  | (some hindrance, later) => (.error hindrance.fault, later)
  | (none, later) => later.makeWay (path.chars.length + 1) path

def writePlace (disk : Disk) (path : Path) : Except Fault Place :=
  match disk.target path with
  | .error fault => .error fault
  | .ok found =>
      if found.entry = some .directory ∨ found.asksDirectory then .error .isADirectory
      else .ok found.place

def writeText (disk : Disk) (path : Path) (text : String) : Except Fault Unit × Disk :=
  match disk.takeHindrance with
  | (some hindrance, later) =>
      match hindrance.left, later.writePlace path with
      | some bytes, .ok place => (.error hindrance.fault, later.put place (.file bytes))
      | _, _ => (.error hindrance.fault, later)
  | (none, later) =>
      match later.writePlace path with
      | .error fault => (.error fault, later)
      | .ok place => (.ok (), later.put place (.file text.toUTF8))

/-- Makes an empty file unless there is one, and gives its place. -/
def makeFile (disk : Disk) (path : Path) : Except Fault Place × Disk :=
  match disk.takeHindrance with
  | (some hindrance, later) => (.error hindrance.fault, later)
  | (none, later) =>
      match later.writePlace path with
      | .error fault => (.error fault, later)
      | .ok place =>
          match later.entry? place with
          | some _ => (.ok place, later)
          | none => (.ok place, later.put place (.file .empty))

def bytesAt (disk : Disk) (place : Place) : Option ByteArray :=
  match disk.entry? place with
  | some (.file bytes) => some bytes
  | _ => none

def extend (disk : Disk) (place : Place) (text : String) : Disk :=
  disk.put place (.file ((disk.bytesAt place).getD .empty ++ text.toUTF8))

end Disk

end CounterForms
