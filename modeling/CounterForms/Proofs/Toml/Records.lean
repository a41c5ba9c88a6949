import CounterForms.Proofs.Toml.Layout

/-!
Decoding a record, told by its parts. The entries of a table are independent of each other: each is
refused or stored by itself, so what a record has of a part depends on the entry of this part only,
and the first entry that is refused has the first misfit. Nothing of this depends on how deep the
parts go, which are described in the same way.
-/

namespace CounterForms.Toml

theorem Value.at_table (entries : List (String × Value)) (key : String) (path : List String) :
    (Value.table entries).at? (key :: path) =
      (entries.lookup key).bind fun inner => inner.at? path := rfl

variable {Record : Type} {fields : List (RecordField Record)} {parts : List (RecordPart Record)}
  {entries : List (String × Value)}

inductive MisfitsBelow (parts : List (RecordPart Record)) (key : String) (inner : Value) :
    List String → Misfit → Prop
  | undeclared (notDeclared : key ∉ parts.map RecordPart.name) :
      MisfitsBelow parts key inner [] (.unknownField key (parts.map RecordPart.name))
  | inPart {part : RecordPart Record} (isPart : part ∈ parts) (named : part.name = key)
      {path : List String} {misfit : Misfit} (misfits : part.layout.Misfits inner path misfit) :
      MisfitsBelow parts key inner path misfit

namespace Layout

theorem mem_settings_of_parts (setting : Setting Record) :
    setting ∈ (ofParts parts).settings ↔ ∃ part ∈ parts, ∃ inner ∈ part.layout.settings,
      inner.within part.name part.get = setting := by
  simp [ofParts]

theorem mem_tables_of_parts (table : DeclaredTable) :
    table ∈ (ofParts parts).tables ↔ table = ⟨[], parts.map RecordPart.name⟩ ∨
      ∃ part ∈ parts, ∃ inner ∈ part.layout.tables, inner.within part.name = table := by
  simp [ofParts]

theorem Misfits.below {path : List String} {misfit : Misfit}
    (misfits : (ofParts parts).Misfits (.table entries) path misfit) :
    ∃ key inner rest, path = key :: rest ∧ entries.lookup key = some inner ∧
      MisfitsBelow parts key inner rest misfit := by
  cases misfits with
  | @undeclared table isTable key given notDeclared =>
      rcases (mem_tables_of_parts table).mp isTable with rfl | ⟨part, isPart, own, isOwn, rfl⟩
      · obtain ⟨inner, isInner⟩ := Option.ne_none_iff_exists'.mp given
        obtain ⟨held, isHeld, -⟩ := Option.bind_eq_some_iff.mp isInner
        exact ⟨key, held, [], rfl, isHeld, .undeclared notDeclared⟩
      · obtain ⟨inner, isInner⟩ := Option.ne_none_iff_exists'.mp given
        obtain ⟨held, isHeld, isBelow⟩ := Option.bind_eq_some_iff.mp isInner
        have givenBelow : held.at? (own.path ++ [key]) ≠ none :=
          Option.ne_none_iff_exists'.mpr ⟨inner, isBelow⟩
        exact ⟨part.name, held, own.path ++ [key], rfl, isHeld,
          .inPart isPart rfl (.undeclared isOwn givenBelow notDeclared)⟩
  | refused setting isSetting given isRefused =>
      obtain ⟨part, isPart, own, isOwn, rfl⟩ := (mem_settings_of_parts setting).mp isSetting
      obtain ⟨held, isHeld, givenBelow⟩ := Option.bind_eq_some_iff.mp given
      exact ⟨part.name, held, own.path, rfl, isHeld,
        .inPart isPart rfl (.refused own isOwn givenBelow isRefused)⟩

theorem misfits_of_below {key : String} {inner : Value} {rest : List String} {misfit : Misfit}
    (given : entries.lookup key = some inner) (below : MisfitsBelow parts key inner rest misfit) :
    (ofParts parts).Misfits (.table entries) (key :: rest) misfit := by
  cases below with
  | undeclared notDeclared =>
      have isGiven : (Value.table entries).at? [key] ≠ none := by
        rw [Value.at_table, given]
        exact Option.some_ne_none _
      have isTable := (mem_tables_of_parts ⟨[], parts.map RecordPart.name⟩).mpr (.inl rfl)
      exact .undeclared isTable isGiven notDeclared
  | @inPart part isPart named _ _ misfits =>
      subst named
      cases misfits with
      | @undeclared table isTable under givenBelow notDeclared =>
          have isGiven :
              (Value.table entries).at? ((table.within part.name).path ++ [under]) ≠ none := by
            show (Value.table entries).at? (part.name :: (table.path ++ [under])) ≠ none
            rw [Value.at_table, given]
            exact givenBelow
          exact .undeclared
            ((mem_tables_of_parts (table.within part.name)).mpr
              (.inr ⟨part, isPart, table, isTable, rfl⟩))
            isGiven notDeclared
      | @refused setting isSetting value givenBelow _ isRefused =>
          have isGiven :
              (Value.table entries).at? (setting.within part.name part.get).path = some value := by
            show (Value.table entries).at? (part.name :: setting.path) = some value
            rw [Value.at_table, given]
            exact givenBelow
          have isOuter := (mem_settings_of_parts (setting.within part.name part.get)).mpr
            ⟨part, isPart, setting, isSetting, rfl⟩
          exact .refused _ isOuter isGiven isRefused

theorem GivesTables.below (tables : (ofParts parts).GivesTables (.table entries))
    {part : RecordPart Record} (isPart : part ∈ parts) {inner : Value}
    (given : entries.lookup part.name = some inner) : part.layout.GivesTables inner := by
  intro table isTable value isValue
  apply tables (table.within part.name)
    ((mem_tables_of_parts _).mpr (.inr ⟨part, isPart, table, isTable, rfl⟩)) value
  show (Value.table entries).at? (part.name :: table.path) = some value
  rw [Value.at_table, given]
  exact isValue

end Layout

section Entry

variable {standard : Record} {entry : String × Value}

/-- What a part tells of the value under its key. -/
theorem part_tells
    (described : ∀ part ∈ parts, part.layout.Describes (part.get standard) part.decode)
    (distinct : (Value.table entries).Distinct)
    (tables : (Layout.ofParts parts).GivesTables (.table entries)) {part : RecordPart Record}
    (isPart : part ∈ parts) {inner : Value} (isEntry : (part.name, inner) ∈ entries) :
    part.layout.Tells (part.get standard) inner (part.decode inner) :=
  described part isPart inner (distinct.inside_of _ isEntry)
    (tables.below isPart (lookup_of_mem entries distinct.keys_of isEntry))

theorem Aligned.below_declared (aligned : Aligned fields parts) {part : RecordPart Record}
    (isPart : part ∈ parts) {inner : Value} {path : List String} {misfit : Misfit}
    (below : MisfitsBelow parts part.name inner path misfit) :
    part.layout.Misfits inner path misfit := by
  cases below with
  | undeclared notDeclared => exact absurd (List.mem_map.mpr ⟨part, isPart, rfl⟩) notDeclared
  | inPart isOther named misfits =>
      cases aligned.part_unique isOther isPart named
      exact misfits

theorem Aligned.entry_fits (aligned : Aligned fields parts)
    (described : ∀ part ∈ parts, part.layout.Describes (part.get standard) part.decode)
    (distinct : (Value.table entries).Distinct)
    (tables : (Layout.ofParts parts).GivesTables (.table entries)) (isEntry : entry ∈ entries)
    (fits : entryFault? parts entry = none) (path : List String) (misfit : Misfit) :
    ¬MisfitsBelow parts entry.1 entry.2 path misfit := by
  intro below
  obtain ⟨key, inner⟩ := entry
  rcases aligned.entry_fault_cases (key, inner) with ⟨-, fault⟩ | ⟨part, isPart, rfl, fault⟩
  · cases fits.symm.trans fault
  · have tells := part_tells described distinct tables isPart isEntry
    obtain ⟨content, decoded⟩ := (fault_of_none _).mp (fault.symm.trans fits)
    rw [decoded] at tells
    exact tells.2 path misfit (aligned.below_declared isPart below)

theorem Aligned.entry_misfits (aligned : Aligned fields parts)
    (described : ∀ part ∈ parts, part.layout.Describes (part.get standard) part.decode)
    (distinct : (Value.table entries).Distinct)
    (tables : (Layout.ofParts parts).GivesTables (.table entries)) (isEntry : entry ∈ entries)
    (misfit : Misfit) (refused : entryFault? parts entry = some misfit) :
    ∃ path, MisfitsBelow parts entry.1 entry.2 path misfit ∧
      ∀ otherPath other, MisfitsBelow parts entry.1 entry.2 otherPath other →
        path < otherPath ∨ otherPath = path ∧ other = misfit := by
  obtain ⟨key, inner⟩ := entry
  rcases aligned.entry_fault_cases (key, inner) with ⟨notDeclared, fault⟩ |
    ⟨part, isPart, rfl, fault⟩
  · cases refused.symm.trans fault
    refine ⟨[], .undeclared notDeclared, fun otherPath other below => ?_⟩
    cases below with
    | undeclared _ => exact .inr ⟨rfl, rfl⟩
    | inPart isPart named _ =>
        exact absurd (List.mem_map.mpr ⟨_, isPart, named⟩) notDeclared
  · have tells := part_tells described distinct tables isPart isEntry
    rw [(fault_of_some _ misfit).mp (fault.symm.trans refused)] at tells
    obtain ⟨path, misfits, first⟩ := tells
    exact ⟨path, .inPart isPart rfl misfits, fun otherPath other below =>
      first otherPath other (aligned.below_declared isPart below)⟩

end Entry

namespace Layout

variable {standard record : Record} {misfit : Misfit}

theorem of_parts_settles (aligned : Aligned fields parts)
    (described : ∀ part ∈ parts, part.layout.Describes (part.get standard) part.decode)
    (distinct : (Value.table entries).Distinct)
    (tables : (ofParts parts).GivesTables (.table entries))
    (taken : (inKeyOrder entries).foldlM (takeEntry fields) standard = .ok record) :
    (ofParts parts).Settles standard (.table entries) record := by
  have perm := in_key_order_perm entries
  have keys : ((inKeyOrder entries).map Prod.fst).Nodup :=
    (perm.map Prod.fst).nodup_iff.mpr distinct.keys_of
  intro setting isSetting
  obtain ⟨part, isPart, own, isOwn, rfl⟩ := (mem_settings_of_parts setting).mp isSetting
  obtain ⟨stored, kept⟩ :=
    aligned.take_entries_content standard record _ keys taken part isPart
  show own.SettledBy ((Value.table entries).at? (part.name :: own.path)) (part.get standard)
    (part.get record)
  rw [Value.at_table]
  cases found : entries.lookup part.name with
  | none =>
      have absent : part.name ∉ (inKeyOrder entries).map Prod.fst := by
        rw [(perm.map Prod.fst).mem_iff]
        exact (lookup_eq_none entries part.name).mp found
      exact congrArg own.get (kept absent)
  | some inner =>
      have isEntry := mem_of_lookup entries found
      have tells := part_tells described distinct tables isPart isEntry
      rw [stored inner (perm.mem_iff.mpr isEntry)] at tells
      exact tells.1 own isOwn

theorem of_parts_fits (aligned : Aligned fields parts)
    (described : ∀ part ∈ parts, part.layout.Describes (part.get standard) part.decode)
    (distinct : (Value.table entries).Distinct)
    (tables : (ofParts parts).GivesTables (.table entries))
    (taken : (inKeyOrder entries).foldlM (takeEntry fields) standard = .ok record)
    (path : List String) : ¬(ofParts parts).Misfits (.table entries) path misfit := by
  intro misfits
  obtain ⟨key, inner, rest, -, given, below⟩ := misfits.below
  have isEntry := mem_of_lookup entries given
  have allFit : (inKeyOrder entries).findSome? (entryFault? parts) = none := by
    rw [← aligned.take_entries_fault standard, taken]
    rfl
  have fits := List.findSome?_eq_none_iff.mp allFit (key, inner)
    ((in_key_order_perm entries).mem_iff.mpr isEntry)
  exact aligned.entry_fits described distinct tables isEntry fits rest misfit below

theorem of_parts_first_misfit (aligned : Aligned fields parts)
    (described : ∀ part ∈ parts, part.layout.Describes (part.get standard) part.decode)
    (distinct : (Value.table entries).Distinct)
    (tables : (ofParts parts).GivesTables (.table entries))
    (refused : (inKeyOrder entries).foldlM (takeEntry fields) standard = .error misfit) :
    ∃ path, (ofParts parts).FirstMisfit (.table entries) path misfit := by
  have perm := in_key_order_perm entries
  have isFirst : (inKeyOrder entries).findSome? (entryFault? parts) = some misfit := by
    rw [← aligned.take_entries_fault standard, refused]
    rfl
  obtain ⟨before, ⟨key, inner⟩, after, split, fault, allFit⟩ :=
    List.findSome?_eq_some_iff.mp isFirst
  have isEntry : (key, inner) ∈ entries := perm.mem_iff.mp (by rw [split]; simp)
  obtain ⟨rest, below, firstBelow⟩ :=
    aligned.entry_misfits described distinct tables isEntry misfit fault
  have given := lookup_of_mem entries distinct.keys_of isEntry
  refine ⟨key :: rest, misfits_of_below given below, ?_⟩
  intro otherPath other misfits
  obtain ⟨otherKey, otherInner, otherRest, rfl, otherGiven, otherBelow⟩ := misfits.below
  have isOther := mem_of_lookup entries otherGiven
  -- In one entry its part decides. Another entry comes later, since those in front of it all fit.
  by_cases same : otherKey = key
  · subst same
    cases given.symm.trans otherGiven
    rcases firstBelow otherRest other otherBelow with earlier | ⟨rfl, rfl⟩
    · exact .inl (List.cons_lt_cons_iff.mpr (.inr ⟨rfl, earlier⟩))
    · exact .inr ⟨rfl, rfl⟩
  · have place := perm.mem_iff.mpr isOther
    have sorted := in_key_order_sorted entries
    rw [split] at place sorted
    rcases List.mem_append.mp place with isBefore | isBehind
    · have fits := allFit _ isBefore
      exact absurd otherBelow
        (aligned.entry_fits described distinct tables isOther fits otherRest other)
    · rcases List.mem_cons.mp isBehind with isSame | isAfter
      · cases isSame
        exact absurd rfl same
      · have ordered : key ≤ otherKey :=
          (List.pairwise_cons.mp (List.pairwise_append.mp sorted).2.1).1 _ isAfter
        have less : key < otherKey :=
          String.not_le.mp fun back => same (String.le_antisymm back ordered)
        exact .inl (List.cons_lt_cons_iff.mpr (.inl less))

/-- A record is described by its parts if each of them is. -/
theorem of_parts_describes (name : String) (aligned : Aligned fields parts)
    (described : ∀ part ∈ parts, part.layout.Describes (part.get standard) part.decode) :
    (ofParts parts).Describes standard (decodeRecord name fields standard) := by
  intro value distinct tables
  obtain ⟨entries, rfl⟩ := tables ⟨[], parts.map RecordPart.name⟩
    ((mem_tables_of_parts _).mpr (.inl rfl)) value rfl
  show Tells _ _ _ ((inKeyOrder entries).foldlM (takeEntry fields) standard)
  cases outcome : (inKeyOrder entries).foldlM (takeEntry fields) standard with
  | ok record =>
      exact ⟨of_parts_settles aligned described distinct tables outcome, fun path _ =>
        of_parts_fits aligned described distinct tables outcome path⟩
  | error misfit => exact of_parts_first_misfit aligned described distinct tables outcome

end Layout

end CounterForms.Toml
