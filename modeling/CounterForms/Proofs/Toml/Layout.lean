import CounterForms.Proofs.Entries
import CounterForms.Proofs.Outcome
import CounterForms.Proofs.Toml.Keys
import CounterForms.Toml.Decoder
import Mathlib.Data.List.Forall2
import Mathlib.Data.List.Nodup

/-!
What a document may say of a record. A layout lists the settings of a record with the paths of their
keys, and the tables that they lie in with the keys that are declared there. A decoder is described
by a layout if it takes each setting from its path and leaves all others at their standard, and if
it reports the misfit that comes first when tables are gone through in the order of their keys. The
decoder of a record is described by the layouts of its parts put together.
-/

namespace CounterForms.Toml

def Value.under? (value : Value) (key : String) : Option Value :=
  match value with
  | .table entries => entries.lookup key
  | _ => none

/-- What lies at the end of a path of keys. -/
def Value.at? : Value → List String → Option Value
  | value, [] => some value
  | value, key :: path => (value.under? key).bind fun inner => inner.at? path

/-- A setting of a record: the path of its keys, how its value is decoded, and where the record has
it. -/
structure Setting (Record : Type) where
  path : List String
  Content : Type
  decode : Value → Decoded Content
  get : Record → Content

structure DeclaredTable where
  path : List String
  names : List String

structure Layout (Record : Type) where
  settings : List (Setting Record)
  tables : List DeclaredTable

/-- A part of a record under a key of its own: a setting, or a record again. -/
structure RecordPart (Record : Type) where
  name : String
  Content : Type
  decode : Value → Decoded Content
  get : Record → Content
  layout : Layout Content

def Setting.within {Inner Outer : Type} (name : String) (get : Outer → Inner)
    (setting : Setting Inner) : Setting Outer :=
  ⟨name :: setting.path, setting.Content, setting.decode, fun outer => setting.get (get outer)⟩

/-- A record has for a setting what is given for it, or the same as the standard record if nothing
is given. -/
def Setting.SettledBy {Record : Type} (setting : Setting Record) (given : Option Value)
    (standard record : Record) : Prop :=
  match given with
  | some inner => setting.decode inner = .ok (setting.get record)
  | none => setting.get record = setting.get standard

def DeclaredTable.within (name : String) (table : DeclaredTable) : DeclaredTable :=
  ⟨name :: table.path, table.names⟩

def Layout.ofValue {Content : Type} (decode : Value → Decoded Content) : Layout Content :=
  ⟨[⟨[], Content, decode, id⟩], []⟩

def RecordPart.ofSetting {Record Content : Type} (name : String) (decode : Value → Decoded Content)
    (get : Record → Content) : RecordPart Record :=
  ⟨name, Content, decode, get, .ofValue decode⟩

def Layout.ofParts {Record : Type} (parts : List (RecordPart Record)) : Layout Record where
  settings := parts.flatMap fun part => part.layout.settings.map (.within part.name part.get)
  tables := ⟨[], parts.map RecordPart.name⟩ ::
    parts.flatMap fun part => part.layout.tables.map (.within part.name)

namespace Layout

variable {Record : Type}

/-- A misfit of a value and its place: a key that is not declared, or a setting that is not taken.
-/
inductive Misfits (layout : Layout Record) (value : Value) : List String → Misfit → Prop
  | undeclared {table : DeclaredTable} (isTable : table ∈ layout.tables) {key : String}
      (given : value.at? (table.path ++ [key]) ≠ none) (notDeclared : key ∉ table.names) :
      Misfits layout value (table.path ++ [key]) (.unknownField key table.names)
  | refused (setting : Setting Record) (isSetting : setting ∈ layout.settings) {inner : Value}
      (given : value.at? setting.path = some inner) {misfit : Misfit}
      (isRefused : setting.decode inner = .error misfit) :
      Misfits layout value setting.path misfit

/-- The misfit whose path comes before the paths of all others. -/
def FirstMisfit (layout : Layout Record) (value : Value) (path : List String) (misfit : Misfit) :
    Prop :=
  layout.Misfits value path misfit ∧ ∀ otherPath other, layout.Misfits value otherPath other →
    path < otherPath ∨ otherPath = path ∧ other = misfit

/-- Every setting is what lies at its path, or as in the standard record. -/
def Settles (layout : Layout Record) (standard : Record) (value : Value) (record : Record) : Prop :=
  ∀ setting ∈ layout.settings, setting.SettledBy (value.at? setting.path) standard record

/-- Where a declared table lies, the value has a table or nothing. -/
def GivesTables (layout : Layout Record) (value : Value) : Prop :=
  ∀ table ∈ layout.tables, ∀ inner, value.at? table.path = some inner →
    ∃ entries, inner = .table entries

def gives (value : Value) (table : DeclaredTable) : Bool :=
  match value.at? table.path with
  | some (.table _) | none => true
  | some _ => false

theorem gives_tables_iff (layout : Layout Record) (value : Value) :
    layout.GivesTables value ↔ layout.tables.all (gives value) = true := by
  rw [List.all_eq_true]
  refine forall_congr' fun table => imp_congr_right fun _ => ?_
  unfold gives
  cases value.at? table.path with
  | none => simp
  | some inner => cases inner <;> simp

instance (layout : Layout Record) (value : Value) : Decidable (layout.GivesTables value) :=
  decidable_of_iff _ (layout.gives_tables_iff value).symm

/-- The outcome of decoding a value: a settled record without misfits, or the first misfit. -/
def Tells (layout : Layout Record) (standard : Record) (value : Value) : Decoded Record → Prop
  | .ok record =>
      layout.Settles standard value record ∧ ∀ path misfit, ¬layout.Misfits value path misfit
  | .error misfit => ∃ path, layout.FirstMisfit value path misfit

def Describes (layout : Layout Record) (standard : Record) (decode : Value → Decoded Record) :
    Prop :=
  ∀ value, value.Distinct → layout.GivesTables value →
    layout.Tells standard value (decode value)

end Layout

theorem Layout.of_value_misfits {Content : Type} (decode : Value → Decoded Content) (value : Value)
    (path : List String) (misfit : Misfit) :
    (Layout.ofValue decode).Misfits value path misfit ↔
      path = [] ∧ decode value = .error misfit := by
  constructor
  · rintro (⟨isTable, -, -⟩ | ⟨setting, isSetting, given, isRefused⟩)
    · cases isTable
    · cases List.mem_singleton.mp isSetting
      cases given
      exact ⟨rfl, isRefused⟩
  · rintro ⟨rfl, isRefused⟩
    exact .refused ⟨[], Content, decode, id⟩ (List.mem_singleton.mpr rfl) rfl isRefused

theorem Layout.of_value_describes {Content : Type} (decode : Value → Decoded Content)
    (standard : Content) : (Layout.ofValue decode).Describes standard decode := by
  intro value _ _
  cases outcome : decode value with
  | ok content =>
      constructor
      · intro setting isSetting
        cases List.mem_singleton.mp isSetting
        exact outcome
      · intro path misfit isMisfit
        cases outcome.symm.trans ((of_value_misfits decode value path misfit).mp isMisfit).2
  | error misfit =>
      refine ⟨[], (of_value_misfits decode value [] misfit).mpr ⟨rfl, outcome⟩, ?_⟩
      intro otherPath other isMisfit
      obtain ⟨rfl, isOther⟩ := (of_value_misfits decode value otherPath other).mp isMisfit
      cases outcome.symm.trans isOther
      exact .inr ⟨rfl, rfl⟩

/-- A field that stores what a part decodes where the part is found, and leaves all other parts as
they are. -/
structure RecordPart.FilledBy {Record : Type} (parts : List (RecordPart Record))
    (field : RecordField Record) (part : RecordPart Record) : Prop where
  named : field.name = part.name
  fault : ∀ value record, faultOf? (field.decode value record) = faultOf? (part.decode value)
  content : ∀ value record changed, field.decode value record = .ok changed →
    part.decode value = .ok (part.get changed)
  spares : ∀ other ∈ parts, other.name ≠ part.name → ∀ value record changed,
    field.decode value record = .ok changed → other.get changed = other.get record

/-- A part may have another form than what its field stores. -/
theorem RecordPart.filled_by_map {Record Content Shown : Type} (parts : List (RecordPart Record))
    (name : String) (decode : Value → Decoded Content) (store : Content → Record → Record)
    (decodeShown : Value → Decoded Shown) (get : Record → Shown) (layout : Layout Shown)
    (shown : Content → Shown) (decodes : ∀ value, decodeShown value = shown <$> decode value)
    (stored : ∀ content record, get (store content record) = shown content)
    (kept : ∀ other ∈ parts, other.name ≠ name → ∀ content record,
      other.get (store content record) = other.get record) :
    RecordPart.FilledBy parts (.of name decode store) ⟨name, Shown, decodeShown, get, layout⟩ := by
  refine ⟨rfl, fun value record => ?_, fun value record changed decoded => ?_,
    fun other isOther apart value record changed decoded => ?_⟩
  · show faultOf? (decode value >>= fun content => .ok (store content record)) =
      faultOf? (decodeShown value)
    rw [decodes]
    cases decode value <;> rfl
  · obtain ⟨content, isContent, made⟩ := ok_of_bind decoded
    cases made
    show decodeShown value = .ok (get (store content record))
    rw [decodes, isContent, stored]
    rfl
  · obtain ⟨content, -, made⟩ := ok_of_bind decoded
    cases made
    exact kept other isOther apart content record

theorem RecordPart.filled_by_of {Record Content : Type} (parts : List (RecordPart Record))
    (name : String) (decode : Value → Decoded Content) (store : Content → Record → Record)
    (get : Record → Content) (layout : Layout Content)
    (stored : ∀ content record, get (store content record) = content)
    (kept : ∀ other ∈ parts, other.name ≠ name → ∀ content record,
      other.get (store content record) = other.get record) :
    RecordPart.FilledBy parts (.of name decode store) ⟨name, Content, decode, get, layout⟩ :=
  filled_by_map parts name decode store decode get layout id (fun _ => (id_map _).symm) stored kept

structure Aligned {Record : Type} (fields : List (RecordField Record))
    (parts : List (RecordPart Record)) : Prop where
  filled : List.Forall₂ (RecordPart.FilledBy parts) fields parts
  apart : (parts.map RecordPart.name).Nodup

/-- Why an entry of a table is refused. -/
def entryFault? {Record : Type} (parts : List (RecordPart Record)) (entry : String × Value) :
    Option Misfit :=
  match parts.find? fun part => part.name == entry.1 with
  | some part => faultOf? (part.decode entry.2)
  | none => some (.unknownField entry.1 (parts.map RecordPart.name))

section Entries

variable {Record : Type} {fields : List (RecordField Record)} {parts all : List (RecordPart Record)}

theorem find_aligned (filled : List.Forall₂ (RecordPart.FilledBy all) fields parts) (key : String) :
    ((fields.find? fun field => field.name == key) = none ∧
      (parts.find? fun part => part.name == key) = none) ∨
    ∃ field ∈ fields, ∃ part ∈ parts, part.name = key ∧ RecordPart.FilledBy all field part ∧
      (fields.find? fun field => field.name == key) = some field ∧
      (parts.find? fun part => part.name == key) = some part := by
  induction filled with
  | nil => exact .inl ⟨rfl, rfl⟩
  | @cons field part laterFields laterParts fill _ ih =>
      by_cases here : part.name = key
      · refine .inr ⟨field, List.mem_cons_self .., part, List.mem_cons_self .., here, fill, ?_, ?_⟩
        · simp [fill.named, here]
        · simp [here]
      · rcases ih with ⟨noField, noPart⟩ | ⟨found, isField, other, isPart, named, fillsOther,
          isFound, isOther⟩
        · exact .inl ⟨by simpa [fill.named, here] using noField, by simpa [here] using noPart⟩
        · exact .inr ⟨found, List.mem_cons_of_mem _ isField, other, List.mem_cons_of_mem _ isPart,
            named, fillsOther, by simpa [fill.named, here] using isFound,
            by simpa [here] using isOther⟩

theorem aligned_names (filled : List.Forall₂ (RecordPart.FilledBy all) fields parts) :
    fields.map RecordField.name = parts.map RecordPart.name := by
  induction filled with
  | nil => rfl
  | cons fill _ ih => rw [List.map_cons, List.map_cons, fill.named, ih]

theorem Aligned.part_unique (aligned : Aligned fields parts) {one other : RecordPart Record}
    (isOne : one ∈ parts) (isOther : other ∈ parts) (same : one.name = other.name) :
    one = other :=
  List.inj_on_of_nodup_map aligned.apart isOne isOther same

/-- The fault of an entry, by what is declared under its key. -/
theorem Aligned.entry_fault_cases (aligned : Aligned fields parts) (entry : String × Value) :
    (entry.1 ∉ parts.map RecordPart.name ∧
      entryFault? parts entry = some (.unknownField entry.1 (parts.map RecordPart.name))) ∨
    ∃ part ∈ parts, part.name = entry.1 ∧
      entryFault? parts entry = faultOf? (part.decode entry.2) := by
  unfold entryFault?
  rcases find_aligned aligned.filled entry.1 with
    ⟨-, noPart⟩ | ⟨-, -, part, isPart, named, -, -, found⟩
  · refine .inl ⟨?_, by rw [noPart]⟩
    intro declared
    obtain ⟨part, isPart, named⟩ := List.mem_map.mp declared
    have passed := List.find?_eq_none.mp noPart part isPart
    simp [named] at passed
  · exact .inr ⟨part, isPart, named, by rw [found]⟩

theorem Aligned.take_entry_fault (aligned : Aligned fields parts) (record : Record)
    (entry : String × Value) :
    faultOf? (takeEntry fields record entry) = entryFault? parts entry := by
  unfold takeEntry entryFault?
  rcases find_aligned aligned.filled entry.1 with
    ⟨noField, noPart⟩ | ⟨field, -, part, -, -, fills, isField, isPart⟩
  · rw [noField, noPart, aligned_names aligned.filled]
    rfl
  · rw [isField, isPart]
    exact fills.fault entry.2 record

theorem Aligned.take_entry_content (aligned : Aligned fields parts) (record changed : Record)
    (entry : String × Value) (taken : takeEntry fields record entry = .ok changed)
    (part : RecordPart Record) (isPart : part ∈ parts) :
    (part.name = entry.1 → part.decode entry.2 = .ok (part.get changed)) ∧
      (part.name ≠ entry.1 → part.get changed = part.get record) := by
  unfold takeEntry at taken
  rcases find_aligned aligned.filled entry.1 with
    ⟨noField, -⟩ | ⟨field, -, own, isOwn, named, fills, found, -⟩
  · rw [noField] at taken
    cases taken
  · rw [found] at taken
    constructor
    · intro here
      cases aligned.part_unique isPart isOwn (here.trans named.symm)
      exact fills.content entry.2 record changed taken
    · intro elsewhere
      rw [← named] at elsewhere
      exact fills.spares part isPart elsewhere entry.2 record changed taken

theorem Aligned.take_entries_fault (aligned : Aligned fields parts) (record : Record)
    (entries : List (String × Value)) :
    faultOf? (entries.foldlM (takeEntry fields) record) =
      entries.findSome? (entryFault? parts) := by
  induction entries generalizing record with
  | nil => rfl
  | cons entry later ih =>
      rw [List.foldlM_cons, List.findSome?_cons, ← aligned.take_entry_fault record entry]
      cases takeEntry fields record entry with
      | error misfit => rfl
      | ok changed => exact ih changed

theorem Aligned.take_entries_content (aligned : Aligned fields parts) (record final : Record)
    (entries : List (String × Value)) (keys : (entries.map Prod.fst).Nodup)
    (taken : entries.foldlM (takeEntry fields) record = .ok final) (part : RecordPart Record)
    (isPart : part ∈ parts) :
    (∀ value, (part.name, value) ∈ entries → part.decode value = .ok (part.get final)) ∧
      (part.name ∉ entries.map Prod.fst → part.get final = part.get record) := by
  induction entries generalizing record with
  | nil =>
      cases taken
      exact ⟨fun value isEntry => (by cases isEntry), fun _ => rfl⟩
  | cons entry later ih =>
      rw [List.foldlM_cons] at taken
      obtain ⟨changed, isChanged, taken⟩ := ok_of_bind taken
      rw [List.map_cons, List.nodup_cons] at keys
      obtain ⟨here, elsewhere⟩ :=
        aligned.take_entry_content record changed entry isChanged part isPart
      obtain ⟨laterContent, laterSpares⟩ := ih changed keys.2 taken
      constructor
      · intro value isEntry
        rcases List.mem_cons.mp isEntry with rfl | isLater
        · rw [laterSpares keys.1]
          exact here rfl
        · exact laterContent value isLater
      · intro absent
        rw [List.map_cons, List.mem_cons, not_or] at absent
        rw [laterSpares absent.2, elsewhere absent.1]

end Entries

theorem in_key_order_perm (entries : List (String × Value)) : (inKeyOrder entries).Perm entries :=
  List.mergeSort_perm ..

theorem in_key_order_sorted (entries : List (String × Value)) :
    (inKeyOrder entries).Pairwise fun one other => one.1 ≤ other.1 :=
  sorted_by_name Prod.fst entries

/-- Where no key comes twice, the order of the keys does not depend on the order of the document. -/
theorem in_key_order_eq (entries ordered : List (String × Value))
    (keys : (entries.map Prod.fst).Nodup) (perm : ordered.Perm entries)
    (sorted : ordered.Pairwise fun one other => one.1 ≤ other.1) :
    inKeyOrder entries = ordered := by
  apply ((in_key_order_perm entries).trans perm.symm).eq_of_pairwise _
    (in_key_order_sorted entries) sorted
  intro one other isOne isOther first second
  have isEntry := (in_key_order_perm entries).mem_iff.mp isOne
  exact List.inj_on_of_nodup_map keys isEntry (perm.mem_iff.mp isOther)
    (String.le_antisymm first second)

end CounterForms.Toml
