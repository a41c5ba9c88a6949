import CounterForms.Proofs.Toml.Governing

/-!
Adding a key to a value that is accepted. What lies off the path of the key is the same as before,
so the only new misfits are those at the key and below it; if there are none, the larger value is
accepted too, and every setting that does not lie at the key or below it is as it was.
-/

namespace CounterForms.Toml

/-- One value has something at the end of a path where the other one has nothing, and off the path
they are the same. -/
structure Value.Adds (path : List String) (before after : Value) : Prop where
  absent : before.at? path = none
  given : after.at? path ≠ none
  kept : ∀ other, ¬other <+: path → ¬path <+: other → after.at? other = before.at? other

/-- One more entry, under a key that the table does not have. -/
theorem Value.adds_entry (entries : List (String × Value)) (key : String) (added : Value)
    (absent : entries.lookup key = none) :
    Value.Adds [key] (.table entries) (.table (entries ++ [(key, added)])) := by
  have found : (entries ++ [(key, added)]).lookup key = some added := by
    rw [List.lookup_append, absent, Option.none_or, lookup_cons, if_pos rfl]
  refine ⟨by rw [at_table, absent]; rfl, by rw [at_table, found]; exact Option.some_ne_none _, ?_⟩
  intro other notAbove notBelow
  cases other with
  | nil => exact absurd (List.nil_prefix) notAbove
  | cons first rest =>
      have apart : first ≠ key := by
        rintro rfl
        exact notBelow (List.cons_prefix_cons.mpr ⟨rfl, List.nil_prefix⟩)
      rw [at_table, at_table, List.lookup_append, lookup_cons, if_neg apart]
      cases entries.lookup first <;> rfl

/-- What is added to an inner table is added to the outer one. -/
theorem Value.Adds.below {path : List String} {before after : Value} (adds : Adds path before after)
    (key : String) (earlier later : List (String × Value)) (absent : earlier.lookup key = none) :
    Adds (key :: path) (.table (earlier ++ (key, before) :: later))
      (.table (earlier ++ (key, after) :: later)) := by
  have found (inner : Value) :
      (earlier ++ (key, inner) :: later).lookup key = some inner := by
    rw [List.lookup_append, absent, Option.none_or, lookup_cons, if_pos rfl]
  refine ⟨by rw [at_table, found]; exact adds.absent, by rw [at_table, found]; exact adds.given, ?_⟩
  intro other notAbove notBelow
  cases other with
  | nil => exact absurd (List.nil_prefix) notAbove
  | cons first rest =>
      by_cases same : first = key
      · subst same
        rw [at_table, at_table, found, found]
        exact adds.kept rest (fun above => notAbove (List.cons_prefix_cons.mpr ⟨rfl, above⟩))
          fun below => notBelow (List.cons_prefix_cons.mpr ⟨rfl, below⟩)
      · rw [at_table, at_table, List.lookup_append, List.lookup_append, lookup_cons, lookup_cons,
          if_neg same, if_neg same]

namespace Layout

variable {Record : Type} {layout : Layout Record} {standard record changed : Record}
  {before after value : Value} {path : List String}

theorem Proper.misfit_off_tables (proper : layout.Proper) {misfit : Misfit}
    (misfits : layout.Misfits value path misfit) {table : DeclaredTable}
    (isTable : table ∈ layout.tables) : ¬path <+: table.path := by
  cases misfits with
  | @undeclared own isOwn key _ notDeclared =>
      exact proper.tablesBeyond own isOwn key notDeclared table isTable
  | refused setting isSetting => exact proper.settings setting isSetting table isTable

/-- A setting that is taken has no misfit at its path or behind it. -/
theorem Proper.setting_fits (proper : layout.Proper) {setting : Setting Record}
    (isSetting : setting ∈ layout.settings) {inner : Value}
    (given : value.at? setting.path = some inner) {content : setting.Content}
    (taken : setting.decode inner = .ok content) (path : List String) (misfit : Misfit)
    (misfits : layout.Misfits value path misfit) : ¬setting.path <+: path := by
  intro leads
  cases misfits with
  | @undeclared table isTable key _ notDeclared =>
      rcases List.prefix_concat_iff.mp leads with same | leadsToTable
      · exact proper.settingsBeyond table isTable key notDeclared setting isSetting
          (same ▸ List.prefix_refl _)
      · exact proper.settings setting isSetting table isTable leadsToTable
  | refused other isOther otherGiven isRefused =>
      cases proper.alone setting isSetting other isOther leads
      cases given.symm.trans otherGiven
      cases taken.symm.trans isRefused

theorem Misfits.of_same {misfit : Misfit} (misfits : layout.Misfits after path misfit)
    (same : after.at? path = before.at? path) : layout.Misfits before path misfit := by
  cases misfits with
  | undeclared isTable given notDeclared => exact .undeclared isTable (same ▸ given) notDeclared
  | refused setting isSetting given isRefused =>
      exact .refused setting isSetting (same ▸ given) isRefused

theorem Proper.adds_fits (proper : layout.Proper) {table : DeclaredTable}
    (isTable : table ∈ layout.tables) {key : String}
    (adds : Value.Adds (table.path ++ [key]) before after)
    (fits : ∀ path misfit, ¬layout.Misfits before path misfit)
    (valid : ∀ path misfit, layout.Misfits after path misfit → ¬table.path ++ [key] <+: path)
    (path : List String) (misfit : Misfit) : ¬layout.Misfits after path misfit := by
  intro misfits
  have notBelow := valid path misfit misfits
  have notAbove : ¬path <+: table.path ++ [key] := by
    intro above
    rcases List.prefix_concat_iff.mp above with rfl | leads
    · exact notBelow (List.prefix_refl _)
    · exact proper.misfit_off_tables misfits isTable leads
  exact fits path misfit (misfits.of_same (adds.kept path notAbove notBelow))

theorem Proper.adds_spares (proper : layout.Proper) {table : DeclaredTable}
    (isTable : table ∈ layout.tables) {key : String}
    (adds : Value.Adds (table.path ++ [key]) before after)
    (settles : layout.Settles standard before record)
    (settlesAfter : layout.Settles standard after changed) {setting : Setting Record}
    (isSetting : setting ∈ layout.settings) (notBelow : ¬table.path ++ [key] <+: setting.path) :
    setting.get changed = setting.get record := by
  have notAbove : ¬setting.path <+: table.path ++ [key] := by
    intro above
    rcases List.prefix_concat_iff.mp above with same | leads
    · exact notBelow (same ▸ List.prefix_refl _)
    · exact proper.settings setting isSetting table isTable leads
  have now := settlesAfter setting isSetting
  have earlier := settles setting isSetting
  rw [adds.kept setting.path notAbove notBelow] at now
  cases found : before.at? setting.path with
  | none =>
      rw [found] at now earlier
      exact now.trans earlier.symm
  | some inner =>
      rw [found] at now earlier
      exact Except.ok.inj (now.symm.trans earlier)

theorem Describes.adding {decode : Value → Decoded Record}
    (describes : layout.Describes standard decode) (proper : layout.Proper)
    (distinct : before.Distinct) (tables : layout.GivesTables before)
    (accepted : decode before = .ok record) (distinctAfter : after.Distinct)
    (tablesAfter : layout.GivesTables after) {table : DeclaredTable}
    (isTable : table ∈ layout.tables) {key : String}
    (adds : Value.Adds (table.path ++ [key]) before after)
    (valid : ∀ path misfit, layout.Misfits after path misfit → ¬table.path ++ [key] <+: path) :
    ∃ changed, decode after = .ok changed ∧ ∀ setting ∈ layout.settings,
      ¬table.path ++ [key] <+: setting.path → setting.get changed = setting.get record := by
  have tells := describes before distinct tables
  rw [accepted] at tells
  have tellsAfter := describes after distinctAfter tablesAfter
  cases outcome : decode after with
  | error misfit =>
      rw [outcome] at tellsAfter
      obtain ⟨path, misfits, -⟩ := tellsAfter
      exact absurd misfits (proper.adds_fits isTable adds tells.2 valid path misfit)
  | ok changed =>
      rw [outcome] at tellsAfter
      exact ⟨changed, rfl, fun setting isSetting notBelow =>
        proper.adds_spares isTable adds tells.1 tellsAfter.1 isSetting notBelow⟩

end Layout

end CounterForms.Toml
