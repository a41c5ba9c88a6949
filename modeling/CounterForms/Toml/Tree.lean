import CounterForms.Toml.Value

/-!
Assembling a document from its statements. Tables come from headers, from the paths of longer
headers and from dotted keys, and it depends on where a table comes from whether it may still grow:
a header may complete a table that only a longer header has named, dotted keys may only add to
tables that dotted keys have made, and a value given in one piece is closed.
-/

namespace CounterForms.Toml

inductive Origin
  /-- A header of its own, or the document itself. -/
  | header
  /-- The path of a longer header. -/
  | path
  /-- A dotted key. -/
  | dotted
deriving DecidableEq

inductive Tree
  | value (value : Value)
  | table (origin : Origin) (entries : List (String × Tree))
  /-- Tables given one by one under the same header, the last one first. -/
  | tables (elements : List (List (String × Tree)))

abbrev Entries := List (String × Tree)

inductive Statement
  | header (path : List String)
  | elementHeader (path : List String)
  | assign (path : List String) (value : Value)

def Entries.put : Entries → String → Tree → Entries
  | [], key, tree => [(key, tree)]
  | (other, old) :: later, key, tree =>
      if other = key then (key, tree) :: later else (other, old) :: Entries.put later key tree

/-- A change to a table of a known origin, which may be refused. -/
abbrev Change := Origin → Entries → Option Entries

/-- Carries out a change in the table under a key. Headers and dotted keys differ in which tables
they make and which they may enter. Of tables given one by one the last is entered. -/
def Change.under (dotted : Bool) (key : String) (change : Change) : Change := fun _ entries =>
  match entries.lookup key with
  | none => do
      let origin := if dotted then Origin.dotted else Origin.path
      let made ← change origin []
      some (entries ++ [(key, .table origin made)])
  | some (.table origin inner) =>
      if dotted && origin = .header then none
      else do
        let changed ← change origin inner
        some (entries.put key (.table origin changed))
  | some (.tables (latest :: earlier)) => do
      let changed ← change .header latest
      some (entries.put key (.tables (changed :: earlier)))
  | some (.tables []) => none
  | some (.value _) => none

def Change.along (dotted : Bool) (path : List String) (change : Change) : Change :=
  path.foldr (Change.under dotted) change

def openTable (key : String) : Change := fun _ entries =>
  match entries.lookup key with
  | none => some (entries ++ [(key, .table .header [])])
  | some (.table .path inner) => some (entries.put key (.table .header inner))
  | some _ => none

/-- Opens one more of the tables that are given one by one. -/
def openElement (key : String) : Change := fun _ entries =>
  match entries.lookup key with
  | none => some (entries ++ [(key, .tables [[]])])
  | some (.tables elements) => some (entries.put key (.tables ([] :: elements)))
  | some _ => none

/-- Gives a new key its value. A table made by dotted keys takes dotted keys only, and any other
table only plain ones. -/
def assignKey (dotted : Bool) (key : String) (value : Value) : Change := fun origin entries =>
  if (origin == .dotted) != dotted then none
  else if (entries.lookup key).isSome then none
  else some (entries ++ [(key, .value value)])

def assignPath (path : List String) (value : Value) : Change :=
  match path.getLast? with
  | none => fun _ _ => none
  | some key => Change.along true path.dropLast (assignKey (path.length != 1) key value)

/-- A document read so far: its tables and the path of the header that is open. -/
structure Draft where
  entries : Entries := []
  opened : List String := []

def Draft.openAt (draft : Draft) (path : List String) (opening : String → Change) : Option Draft :=
  match path.getLast? with
  | none => none
  | some key => do
      let entries ← Change.along false path.dropLast (opening key) .header draft.entries
      some ⟨entries, path⟩

def Draft.add (draft : Draft) : Statement → Option Draft
  | .header path => draft.openAt path openTable
  | .elementHeader path => draft.openAt path openElement
  | .assign path value => do
      let entries ← Change.along false draft.opened (assignPath path value) .header draft.entries
      some { draft with entries := entries }

mutual

def Tree.finish : Tree → Value
  | .value value => value
  | .table _ entries => .table (finishEntries entries)
  | .tables elements => .array (finishElements elements [])

def finishEntries : List (String × Tree) → List (String × Value)
  | [] => []
  | (key, tree) :: later => (key, tree.finish) :: finishEntries later

/-- Tables given one by one, turned into their order in the document. -/
def finishElements : List (List (String × Tree)) → List Value → List Value
  | [], finished => finished
  | entries :: earlier, finished =>
      finishElements earlier (.table (finishEntries entries) :: finished)

end

/-- The table that statements make, unless one of them is refused. -/
def assemble (statements : List Statement) : Option (List (String × Value)) := do
  let draft ← statements.foldlM Draft.add {}
  some (finishEntries draft.entries)

end CounterForms.Toml
