import CounterForms.Proofs.Toml.Records

/-!
The layout of a whole decoder. Paths lead to one thing only: a setting, a table that goes on, or a
key that is not declared; and the settings tell the whole record. So an accepted value settles one
record and no other, and a key that is not declared is always reported, or else a misfit before it.
-/

namespace CounterForms.Toml.Layout

variable {Record : Type} {layout : Layout Record} {standard record : Record}
  {parts : List (RecordPart Record)} {value : Value} {path : List String}

/-- What a path may lead to. Behind a setting there is nothing else, and behind a key that is not
declared neither a table nor a setting. -/
structure Proper (layout : Layout Record) : Prop where
  settings : ∀ setting ∈ layout.settings, ∀ table ∈ layout.tables, ¬setting.path <+: table.path
  alone : ∀ setting ∈ layout.settings, ∀ other ∈ layout.settings, setting.path <+: other.path →
    other = setting
  tablesBeyond : ∀ table ∈ layout.tables, ∀ key, key ∉ table.names →
    ∀ other ∈ layout.tables, ¬table.path ++ [key] <+: other.path
  settingsBeyond : ∀ table ∈ layout.tables, ∀ key, key ∉ table.names →
    ∀ setting ∈ layout.settings, ¬table.path ++ [key] <+: setting.path

theorem of_parts_proper (apart : (parts.map RecordPart.name).Nodup)
    (proper : ∀ part ∈ parts, part.layout.Proper) : (ofParts parts).Proper := by
  have unique {one other : RecordPart Record} (isOne : one ∈ parts) (isOther : other ∈ parts)
      (same : one.name = other.name) : one = other :=
    List.inj_on_of_nodup_map apart isOne isOther same
  constructor
  · intro setting isSetting table isTable leads
    obtain ⟨part, isPart, own, isOwn, rfl⟩ := (mem_settings_of_parts setting).mp isSetting
    rcases (mem_tables_of_parts table).mp isTable with rfl | ⟨other, isOther, inner, isInner, rfl⟩
    · exact absurd (List.prefix_nil.mp leads) (List.cons_ne_nil _ _)
    · obtain ⟨same, leadsBelow⟩ := List.cons_prefix_cons.mp leads
      cases unique isOther isPart same.symm
      exact (proper part isPart).settings own isOwn inner isInner leadsBelow
  · intro setting isSetting further isFurther leads
    obtain ⟨part, isPart, own, isOwn, rfl⟩ := (mem_settings_of_parts setting).mp isSetting
    obtain ⟨other, isOther, inner, isInner, rfl⟩ := (mem_settings_of_parts further).mp isFurther
    obtain ⟨same, leadsBelow⟩ := List.cons_prefix_cons.mp leads
    cases unique isOther isPart same.symm
    rw [(proper part isPart).alone own isOwn inner isInner leadsBelow]
  · intro table isTable key notDeclared further isFurther leads
    rcases (mem_tables_of_parts further).mp isFurther with
      rfl | ⟨other, isOther, inner, isInner, rfl⟩
    · exact absurd (List.prefix_nil.mp leads) (List.append_ne_nil_of_right_ne_nil _ (by simp))
    · rcases (mem_tables_of_parts table).mp isTable with rfl | ⟨part, isPart, own, isOwn, rfl⟩
      · obtain ⟨same, -⟩ := List.cons_prefix_cons.mp leads
        exact notDeclared (List.mem_map.mpr ⟨other, isOther, same.symm⟩)
      · obtain ⟨same, leadsBelow⟩ := List.cons_prefix_cons.mp leads
        cases unique isOther isPart same.symm
        exact (proper _ isOther).tablesBeyond own isOwn key notDeclared inner isInner leadsBelow
  · intro table isTable key notDeclared setting isSetting leads
    obtain ⟨other, isOther, inner, isInner, rfl⟩ := (mem_settings_of_parts setting).mp isSetting
    rcases (mem_tables_of_parts table).mp isTable with rfl | ⟨part, isPart, own, isOwn, rfl⟩
    · obtain ⟨same, -⟩ := List.cons_prefix_cons.mp leads
      exact notDeclared (List.mem_map.mpr ⟨other, isOther, same.symm⟩)
    · obtain ⟨same, leadsBelow⟩ := List.cons_prefix_cons.mp leads
      cases unique isOther isPart same.symm
      exact (proper _ isOther).settingsBeyond own isOwn key notDeclared inner isInner leadsBelow

/-- Records with the same settings are the same. -/
def Determines (layout : Layout Record) : Prop :=
  ∀ one other : Record, (∀ setting ∈ layout.settings, setting.get one = setting.get other) →
    one = other

structure Governs (layout : Layout Record) (standard : Record) (decode : Value → Decoded Record) :
    Prop where
  describes : layout.Describes standard decode
  proper : layout.Proper
  determines : layout.Determines

theorem of_value_governs {Content : Type} (decode : Value → Decoded Content) (standard : Content) :
    (ofValue decode).Governs standard decode where
  describes := of_value_describes decode standard
  proper := by
    refine ⟨fun _ _ _ isTable => ?_, fun one isOne other isOther _ => ?_, fun _ isTable => ?_,
      fun _ isTable => ?_⟩
    · cases isTable
    · rw [List.mem_singleton.mp isOne, List.mem_singleton.mp isOther]
    · cases isTable
    · cases isTable
  determines := fun _ _ same => same _ (List.mem_singleton.mpr rfl)

theorem of_parts_governs {fields : List (RecordField Record)} (name : String)
    (aligned : Aligned fields parts)
    (whole : ∀ one other : Record, (∀ part ∈ parts, part.get one = part.get other) → one = other)
    (governed : ∀ part ∈ parts, part.layout.Governs (part.get standard) part.decode) :
    (ofParts parts).Governs standard (decodeRecord name fields standard) where
  describes :=
    of_parts_describes name aligned fun part isPart => (governed part isPart).describes
  proper := of_parts_proper aligned.apart fun part isPart => (governed part isPart).proper
  determines := by
    intro one other same
    apply whole
    intro part isPart
    apply (governed part isPart).determines
    intro setting isSetting
    exact same (setting.within part.name part.get)
      ((mem_settings_of_parts _).mpr ⟨part, isPart, setting, isSetting, rfl⟩)

variable {decode : Value → Decoded Record}

theorem Describes.settled (describes : layout.Describes standard decode)
    (distinct : value.Distinct) (tables : layout.GivesTables value)
    (accepted : decode value = .ok record) : layout.Settles standard value record := by
  have tells := describes value distinct tables
  rw [accepted] at tells
  exact tells.1

theorem Governs.settled_iff (governs : layout.Governs standard decode)
    (distinct : value.Distinct) (tables : layout.GivesTables value)
    (accepted : decode value = .ok record) (other : Record) :
    layout.Settles standard value other ↔ other = record := by
  have settles := governs.describes.settled distinct tables accepted
  constructor
  · intro settlesOther
    apply governs.determines
    intro setting isSetting
    have one := settlesOther setting isSetting
    have same := settles setting isSetting
    cases found : value.at? setting.path with
    | none =>
        rw [found] at one same
        exact one.trans same.symm
    | some inner =>
        rw [found] at one same
        exact Except.ok.inj (one.symm.trans same)
  · rintro rfl
    exact settles

theorem Describes.first_misfit (describes : layout.Describes standard decode)
    (distinct : value.Distinct) (tables : layout.GivesTables value) {misfit : Misfit}
    (misfits : layout.Misfits value path misfit) : ∃ first reported,
      decode value = .error reported ∧ layout.FirstMisfit value first reported := by
  have tells := describes value distinct tables
  cases outcome : decode value with
  | ok record =>
      rw [outcome] at tells
      exact absurd misfits (tells.2 path misfit)
  | error reported =>
      rw [outcome] at tells
      obtain ⟨first, isFirst⟩ := tells
      exact ⟨first, reported, rfl, isFirst⟩

/-- A key that is not declared is reported, or else a misfit whose path comes before it. -/
theorem Describes.undeclared_key (describes : layout.Describes standard decode)
    (distinct : value.Distinct) (tables : layout.GivesTables value) {table : DeclaredTable}
    (isTable : table ∈ layout.tables) {key : String}
    (given : value.at? (table.path ++ [key]) ≠ none) (notDeclared : key ∉ table.names) :
    ∃ path misfit, decode value = .error misfit ∧ layout.FirstMisfit value path misfit ∧
      (misfit = .unknownField key table.names ∨ path < table.path ++ [key]) := by
  have misfits : layout.Misfits value (table.path ++ [key]) (.unknownField key table.names) :=
    .undeclared isTable given notDeclared
  obtain ⟨path, misfit, refused, isFirst⟩ := describes.first_misfit distinct tables misfits
  refine ⟨path, misfit, refused, isFirst, ?_⟩
  rcases isFirst.2 _ _ misfits with earlier | ⟨-, same⟩
  · exact .inr earlier
  · exact .inl same.symm

end CounterForms.Toml.Layout
