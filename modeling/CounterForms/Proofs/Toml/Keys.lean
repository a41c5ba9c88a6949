import CounterForms.Proofs.Entries
import CounterForms.Toml.Reader

/-!
In the tables of a document no key comes twice. A statement is refused where it gives a key that is
already there, so every change keeps the keys of all tables apart. This is shown for the tables that
a path of keys can reach; tables in arrays are left out.
-/

namespace CounterForms.Toml

/-- No key comes twice in a table, nor in a table that lies in it. -/
inductive Value.Distinct : Value → Prop
  | table {entries : List (String × Value)} (keys : (entries.map Prod.fst).Nodup)
      (inside : ∀ entry ∈ entries, entry.2.Distinct) : Distinct (.table entries)
  | plain {value : Value} (noTable : ∀ entries, value ≠ .table entries) : Distinct value

inductive Tree.Distinct : Tree → Prop
  | value {value : Value} (distinct : value.Distinct) : Distinct (.value value)
  | table {entries : Entries} (origin : Origin) (keys : (entries.map Prod.fst).Nodup)
      (inside : ∀ entry ∈ entries, entry.2.Distinct) : Distinct (.table origin entries)
  | tables (elements : List Entries) : Distinct (.tables elements)

structure Entries.Distinct (entries : Entries) : Prop where
  keys : (entries.map Prod.fst).Nodup
  inside : ∀ entry ∈ entries, entry.2.Distinct

def Statement.Distinct : Statement → Prop
  | .header _ | .elementHeader _ => True
  | .assign _ value => value.Distinct

def Change.KeepsApart (change : Change) : Prop :=
  ∀ origin entries made, change origin entries = some made → entries.Distinct → made.Distinct

namespace Value.Distinct

theorem keys_of {entries : List (String × Value)} (distinct : (Value.table entries).Distinct) :
    (entries.map Prod.fst).Nodup := by
  cases distinct with
  | table keys _ => exact keys
  | plain noTable => exact absurd rfl (noTable entries)

theorem inside_of {entries : List (String × Value)} (distinct : (Value.table entries).Distinct) :
    ∀ entry ∈ entries, entry.2.Distinct := by
  cases distinct with
  | table _ inside => exact inside
  | plain noTable => exact absurd rfl (noTable entries)

end Value.Distinct

namespace Entries

theorem put_keys (entries : Entries) (key : String) (tree : Tree)
    (present : entries.lookup key ≠ none) :
    (entries.put key tree).map Prod.fst = entries.map Prod.fst := by
  induction entries with
  | nil => simp at present
  | cons entry later ih =>
      obtain ⟨other, old⟩ := entry
      by_cases same : other = key
      · simp [Entries.put, same]
      · rw [lookup_cons, if_neg (Ne.symm same)] at present
        simp [Entries.put, same, ih present]

theorem mem_put (entries : Entries) (key : String) (tree : Tree) (entry : String × Tree)
    (isEntry : entry ∈ entries.put key tree) : entry = (key, tree) ∨ entry ∈ entries := by
  induction entries with
  | nil => exact .inl (List.mem_singleton.mp isEntry)
  | cons first later ih =>
      obtain ⟨other, old⟩ := first
      unfold Entries.put at isEntry
      split at isEntry
      · rcases List.mem_cons.mp isEntry with isNew | isLater
        · exact .inl isNew
        · exact .inr (List.mem_cons_of_mem _ isLater)
      · rcases List.mem_cons.mp isEntry with isFirst | isLater
        · exact .inr (List.mem_cons.mpr (.inl isFirst))
        · exact (ih isLater).imp_right (List.mem_cons_of_mem _)

theorem Distinct.put {entries : Entries} (distinct : entries.Distinct) (key : String) (tree : Tree)
    (present : entries.lookup key ≠ none) (treeDistinct : tree.Distinct) :
    (entries.put key tree).Distinct := by
  refine ⟨by rw [entries.put_keys key tree present]; exact distinct.keys, ?_⟩
  intro entry isEntry
  rcases entries.mem_put key tree entry isEntry with rfl | isOld
  · exact treeDistinct
  · exact distinct.inside entry isOld

theorem Distinct.append {entries : Entries} (distinct : entries.Distinct) (key : String)
    (tree : Tree) (absent : entries.lookup key = none) (treeDistinct : tree.Distinct) :
    Entries.Distinct (entries ++ [(key, tree)]) := by
  have newKey := (lookup_eq_none entries key).mp absent
  constructor
  · rw [List.map_append, List.nodup_append]
    refine ⟨distinct.keys, by simp, ?_⟩
    rintro earlier isEarlier added isAdded rfl
    rw [List.mem_singleton.mp isAdded] at isEarlier
    exact newKey isEarlier
  · intro entry isEntry
    rcases List.mem_append.mp isEntry with isOld | isNew
    · exact distinct.inside entry isOld
    · cases List.mem_singleton.mp isNew
      exact treeDistinct

theorem distinct_empty : Entries.Distinct [] := ⟨List.nodup_nil, fun _ isEntry => by cases isEntry⟩

end Entries

namespace Change

theorem KeepsApart.under {change : Change} (keeps : change.KeepsApart) (dotted : Bool)
    (key : String) : (Change.under dotted key change).KeepsApart := by
  intro origin entries made changed distinct
  unfold Change.under at changed
  split at changed
  next absent =>
      obtain ⟨inner, isInner, isMade⟩ := Option.bind_eq_some_iff.mp changed
      cases isMade
      have innerDistinct := keeps _ _ _ isInner Entries.distinct_empty
      exact distinct.append key _ absent (.table _ innerDistinct.keys innerDistinct.inside)
  next innerOrigin inner present =>
      split at changed
      · cases changed
      · obtain ⟨result, isResult, isMade⟩ := Option.bind_eq_some_iff.mp changed
        cases isMade
        have held := distinct.inside _ (mem_of_lookup entries present)
        cases held with
        | table _ keys inside =>
            have resultDistinct := keeps _ _ _ isResult ⟨keys, inside⟩
            exact distinct.put key _ (by simp [present])
              (.table _ resultDistinct.keys resultDistinct.inside)
  next latest earlier present =>
      obtain ⟨result, isResult, isMade⟩ := Option.bind_eq_some_iff.mp changed
      cases isMade
      exact distinct.put key _ (by simp [present]) (.tables _)
  next => cases changed
  next => cases changed

theorem KeepsApart.along {change : Change} (keeps : change.KeepsApart) (dotted : Bool)
    (path : List String) : (Change.along dotted path change).KeepsApart := by
  induction path with
  | nil => exact keeps
  | cons key rest ih => exact ih.under dotted key

end Change

theorem open_table_keeps_apart (key : String) : (openTable key).KeepsApart := by
  intro origin entries made opened distinct
  unfold openTable at opened
  split at opened
  next absent =>
      cases opened
      exact distinct.append key _ absent (.table _ List.nodup_nil (fun _ isEntry => by cases isEntry))
  next inner present =>
      cases opened
      cases distinct.inside _ (mem_of_lookup entries present) with
      | table _ keys inside => exact distinct.put key _ (by simp [present]) (.table _ keys inside)
  next => cases opened

theorem open_element_keeps_apart (key : String) : (openElement key).KeepsApart := by
  intro origin entries made opened distinct
  unfold openElement at opened
  split at opened
  next absent =>
      cases opened
      exact distinct.append key _ absent (.tables _)
  next elements present =>
      cases opened
      exact distinct.put key _ (by simp [present]) (.tables _)
  next => cases opened

theorem assign_key_keeps_apart (dotted : Bool) (key : String) (value : Value)
    (valueDistinct : value.Distinct) : (assignKey dotted key value).KeepsApart := by
  intro origin entries made assigned distinct
  unfold assignKey at assigned
  split at assigned
  · cases assigned
  · split at assigned
    · cases assigned
    next absent =>
      cases assigned
      exact distinct.append key _ (Option.not_isSome_iff_eq_none.mp absent) (.value valueDistinct)

theorem assign_path_keeps_apart (path : List String) (value : Value)
    (valueDistinct : value.Distinct) : (assignPath path value).KeepsApart := by
  unfold assignPath
  split
  · intro origin entries made assigned
    cases assigned
  next key _ =>
    exact (assign_key_keeps_apart _ key value valueDistinct).along true path.dropLast

theorem Draft.open_at_keeps_apart (draft opened : Draft) (path : List String)
    (opening : String → Change) (keeps : ∀ key, (opening key).KeepsApart)
    (isOpened : draft.openAt path opening = some opened) (distinct : draft.entries.Distinct) :
    opened.entries.Distinct := by
  unfold Draft.openAt at isOpened
  split at isOpened
  · cases isOpened
  next key _ =>
    obtain ⟨entries, isEntries, made⟩ := Option.bind_eq_some_iff.mp isOpened
    cases made
    exact (keeps key).along false path.dropLast _ _ _ isEntries distinct

theorem Draft.add_keeps_apart (draft added : Draft) (statement : Statement)
    (isAdded : draft.add statement = some added) (statementDistinct : statement.Distinct)
    (distinct : draft.entries.Distinct) : added.entries.Distinct := by
  cases statement with
  | header path =>
      exact draft.open_at_keeps_apart added path openTable open_table_keeps_apart isAdded distinct
  | elementHeader path =>
      exact draft.open_at_keeps_apart added path openElement open_element_keeps_apart isAdded
        distinct
  | assign path value =>
      obtain ⟨entries, isEntries, made⟩ := Option.bind_eq_some_iff.mp isAdded
      cases made
      exact (assign_path_keeps_apart path value statementDistinct).along false draft.opened _ _ _
        isEntries distinct

theorem adding_keeps_apart (statements : List Statement) (draft final : Draft)
    (isFinal : statements.foldlM Draft.add draft = some final)
    (statementsDistinct : ∀ statement ∈ statements, statement.Distinct)
    (distinct : draft.entries.Distinct) : final.entries.Distinct := by
  induction statements generalizing draft with
  | nil =>
      cases isFinal
      exact distinct
  | cons statement later ih =>
      rw [List.foldlM_cons] at isFinal
      obtain ⟨added, isAdded, isFinal⟩ := Option.bind_eq_some_iff.mp isFinal
      rw [List.forall_mem_cons] at statementsDistinct
      exact ih added isFinal statementsDistinct.2
        (draft.add_keeps_apart added statement isAdded statementsDistinct.1 distinct)

theorem finish_entries_map (entries : Entries) :
    finishEntries entries = entries.map fun entry => (entry.1, entry.2.finish) := by
  induction entries with
  | nil => rfl
  | cons entry later ih => rw [finishEntries, ih, List.map_cons]

theorem table_of_finished (entries : Entries) (keys : (entries.map Prod.fst).Nodup)
    (inside : ∀ entry ∈ entries, entry.2.finish.Distinct) :
    (Value.table (finishEntries entries)).Distinct := by
  rw [finish_entries_map]
  refine .table ?_ ?_
  · rw [List.map_map]
    exact keys
  · intro entry isEntry
    obtain ⟨held, isHeld, rfl⟩ := List.mem_map.mp isEntry
    exact inside held isHeld

theorem Tree.Distinct.finished {tree : Tree} (distinct : tree.Distinct) :
    tree.finish.Distinct := by
  induction distinct with
  | value distinct => rwa [Tree.finish]
  | table origin keys inside ih =>
      rw [Tree.finish]
      exact table_of_finished _ keys ih
  | tables elements =>
      rw [Tree.finish]
      exact .plain (by simp)

theorem assembled_distinct (statements : List Statement) (entries : List (String × Value))
    (assembled : assemble statements = some entries)
    (statementsDistinct : ∀ statement ∈ statements, statement.Distinct) :
    (Value.table entries).Distinct := by
  obtain ⟨draft, isDraft, made⟩ := Option.bind_eq_some_iff.mp assembled
  cases made
  have distinct := adding_keeps_apart statements {} draft isDraft statementsDistinct
    Entries.distinct_empty
  exact table_of_finished _ distinct.keys fun entry isEntry =>
    (distinct.inside entry isEntry).finished

section Scalars

variable {written : List Char} {value : Value}

theorem based_integer_distinct (base : Nat) (read : basedInteger? base written = some value) :
    value.Distinct := by
  obtain ⟨digits, -, made⟩ := Option.bind_eq_some_iff.mp read
  cases made
  exact .plain (by simp)

theorem integer_distinct (read : integer? written = some value) : value.Distinct := by
  unfold integer? at read
  split at read
  · exact based_integer_distinct 16 read
  · exact based_integer_distinct 8 read
  · exact based_integer_distinct 2 read
  · obtain ⟨digits, -, made⟩ := Option.bind_eq_some_iff.mp read
    cases made
    exact .plain (by simp)

theorem floating_distinct (read : floating? written = some value) : value.Distinct := by
  unfold floating? at read
  simp only [Option.bind_eq_bind] at read
  split at read
  · cases read
    exact .plain (by simp)
  · split at read
    · cases read
      exact .plain (by simp)
    · split at read
      · cases read
      · obtain ⟨whole, -, read⟩ := Option.bind_eq_some_iff.mp read
        obtain ⟨fraction, -, read⟩ := Option.bind_eq_some_iff.mp read
        obtain ⟨exponent, -, read⟩ := Option.bind_eq_some_iff.mp read
        obtain ⟨number, -, made⟩ := Option.bind_eq_some_iff.mp read
        cases made
        exact .plain (by simp)

theorem scalar_distinct (read : scalar? written = some value) : value.Distinct := by
  unfold scalar? at read
  split at read
  · cases read
    exact .plain (by simp)
  · split at read
    · cases read
      exact .plain (by simp)
    · split at read
      · cases read
        exact .plain (by simp)
      · cases isInteger : integer? written with
        | some other =>
            rw [isInteger] at read
            cases read
            exact integer_distinct isInteger
        | none =>
            rw [isInteger] at read
            exact floating_distinct read

theorem read_scalar_distinct {rest : List Char} (read : readScalar written = some (value, rest)) :
    value.Distinct := by
  unfold readScalar at read
  simp only at read
  split at read
  · split at read
    · split at read
      · cases read
        exact .plain (by simp)
      · cases read
    · cases read
      exact .plain (by simp)
  · obtain ⟨scalar, isScalar, made⟩ := Option.bind_eq_some_iff.mp read
    cases made
    exact scalar_distinct isScalar

end Scalars

structure ReadsDistinct (budget : Nat) : Prop where
  value : ∀ depth input value rest,
    readValue budget depth input = some (value, rest) → value.Distinct
  assignments : ∀ depth input statements rest,
    readAssignments budget depth input = some (statements, rest) →
      ∀ statement ∈ statements, statement.Distinct
  assignment : ∀ depth input statement rest,
    readAssignment budget depth input = some (statement, rest) → statement.Distinct

theorem read_value_distinct {budget : Nat} (smaller : ReadsDistinct budget) (depth : Nat)
    (input : List Char) (value : Value) (rest : List Char)
    (read : readValue (budget + 1) depth input = some (value, rest)) : value.Distinct := by
  cases input with
  | nil => simp [readValue] at read
  | cons character later =>
      unfold readValue at read
      split at read
      · obtain ⟨⟨text, behind⟩, -, made⟩ := Option.bind_eq_some_iff.mp read
        cases made
        exact .plain (by simp)
      · split at read
        · cases depth with
          | zero => cases read
          | succ inner =>
              obtain ⟨⟨closed, first⟩, -, read⟩ := Option.bind_eq_some_iff.mp read
              simp only at read
              split at read
              · cases read
                exact .plain (by simp)
              · obtain ⟨⟨elements, behind⟩, -, made⟩ := Option.bind_eq_some_iff.mp read
                cases made
                exact .plain (by simp)
        · split at read
          · cases depth with
            | zero => cases read
            | succ inner =>
                obtain ⟨⟨closed, first⟩, -, read⟩ := Option.bind_eq_some_iff.mp read
                simp only at read
                split at read
                · cases read
                  exact .table List.nodup_nil fun _ isEntry => by cases isEntry
                · obtain ⟨⟨statements, behind⟩, isRead, read⟩ := Option.bind_eq_some_iff.mp read
                  obtain ⟨entries, assembled, made⟩ := Option.bind_eq_some_iff.mp read
                  cases made
                  exact assembled_distinct statements entries assembled
                    (smaller.assignments inner first statements behind isRead)
          · exact read_scalar_distinct read

theorem read_assignments_distinct {budget : Nat} (smaller : ReadsDistinct budget) (depth : Nat)
    (input : List Char) (statements : List Statement) (rest : List Char)
    (read : readAssignments (budget + 1) depth input = some (statements, rest)) :
    ∀ statement ∈ statements, statement.Distinct := by
  rw [readAssignments] at read
  obtain ⟨⟨first, behind⟩, isFirst, read⟩ := Option.bind_eq_some_iff.mp read
  have firstDistinct := smaller.assignment depth input first behind isFirst
  obtain ⟨⟨closed, later⟩, -, read⟩ := Option.bind_eq_some_iff.mp read
  simp only at read
  split at read
  · cases read
    intro statement isStatement
    cases List.mem_singleton.mp isStatement
    exact firstDistinct
  · obtain ⟨⟨others, final⟩, isOthers, made⟩ := Option.bind_eq_some_iff.mp read
    cases made
    rw [List.forall_mem_cons]
    exact ⟨firstDistinct, smaller.assignments depth later others final isOthers⟩

theorem read_assignment_distinct {budget : Nat} (smaller : ReadsDistinct budget) (depth : Nat)
    (input : List Char) (statement : Statement) (rest : List Char)
    (read : readAssignment (budget + 1) depth input = some (statement, rest)) :
    statement.Distinct := by
  rw [readAssignment] at read
  obtain ⟨⟨path, behind⟩, -, read⟩ := Option.bind_eq_some_iff.mp read
  simp only at read
  split at read
  next later =>
    obtain ⟨⟨value, final⟩, isValue, made⟩ := Option.bind_eq_some_iff.mp read
    cases made
    exact smaller.value depth _ value final isValue
  next => cases read

theorem reads_distinct (budget : Nat) : ReadsDistinct budget := by
  induction budget with
  | zero =>
      exact ⟨fun _ _ _ _ read => by simp [readValue] at read,
        fun _ _ _ _ read => by simp [readAssignments] at read,
        fun _ _ _ _ read => by simp [readAssignment] at read⟩
  | succ budget ih =>
      exact ⟨read_value_distinct ih, read_assignments_distinct ih, read_assignment_distinct ih⟩

theorem read_statement_distinct (input rest : List Char) (statement : Statement)
    (read : readStatement input = some (statement, rest)) : statement.Distinct := by
  unfold readStatement at read
  split at read
  · unfold readElementHeader at read
    obtain ⟨⟨path, behind⟩, -, read⟩ := Option.bind_eq_some_iff.mp read
    simp only at read
    split at read
    · cases read
      exact trivial
    · cases read
  · unfold readHeader at read
    obtain ⟨⟨path, behind⟩, -, read⟩ := Option.bind_eq_some_iff.mp read
    simp only at read
    split at read
    · cases read
      exact trivial
    · cases read
  · exact (reads_distinct _).assignment _ _ statement rest read

theorem read_statements_distinct (budget : Nat) (input : List Char) (statements : List Statement)
    (read : readStatements budget input = some statements) :
    ∀ statement ∈ statements, statement.Distinct := by
  induction budget generalizing input statements with
  | zero => simp [readStatements] at read
  | succ budget ih =>
      rw [readStatements] at read
      obtain ⟨start, -, read⟩ := Option.bind_eq_some_iff.mp read
      simp only at read
      split at read
      · cases read
        exact fun _ isStatement => by cases isStatement
      · obtain ⟨⟨first, behind⟩, isFirst, read⟩ := Option.bind_eq_some_iff.mp read
        obtain ⟨rest, -, read⟩ := Option.bind_eq_some_iff.mp read
        obtain ⟨others, isOthers, made⟩ := Option.bind_eq_some_iff.mp read
        cases made
        rw [List.forall_mem_cons]
        exact ⟨read_statement_distinct _ behind first isFirst, ih rest others isOthers⟩

theorem document_distinct (text : String) (entries : List (String × Value))
    (isDocument : readDocument text = some entries) : (Value.table entries).Distinct := by
  obtain ⟨statements, isRead, assembled⟩ := Option.bind_eq_some_iff.mp isDocument
  exact assembled_distinct statements entries assembled
    (read_statements_distinct _ _ statements isRead)

end CounterForms.Toml
