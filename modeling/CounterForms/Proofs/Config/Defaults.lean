import CounterForms.Proofs.Config.Layout
import Mathlib

/-!
A configuration says only what differs. Where its sections are tables, every setting that it gives
has the given value and every other one keeps its own, whatever else is given. A key that is not
declared is reported, or else a misfit whose path comes before it: the tables are gone through in
the order of their keys, not in the order of the document. One more key changes what it is the key
of and nothing else.
-/

namespace CounterForms

namespace Config

open Toml

theorem of_text_document (text : String) (entries : List (String × Value))
    (isDocument : readDocument text = some entries) :
    ofText text = (decodeRecord "Config" fields {} (.table entries)).mapError .misfit := by
  unfold ofText decodeDocument
  rw [isDocument]

theorem of_text_ok_iff (text : String) (entries : List (String × Value))
    (isDocument : readDocument text = some entries) (config : Config) :
    ofText text = .ok config ↔ decodeRecord "Config" fields {} (.table entries) = .ok config := by
  rw [of_text_document text entries isDocument]
  cases decodeRecord "Config" fields {} (.table entries) <;> simp [Except.mapError]

theorem of_text_misfit (text : String) (entries : List (String × Value))
    (isDocument : readDocument text = some entries) (misfit : Misfit)
    (refused : decodeRecord "Config" fields {} (.table entries) = .error misfit) :
    ofText text = .error (.misfit misfit) := by
  rw [of_text_document text entries isDocument, refused]
  rfl

/-- What a document gives is merged with the settings that hold where it gives nothing. -/
theorem merges_with_own_settings (text : String) (entries : List (String × Value))
    (isDocument : readDocument text = some entries)
    (givesTables : layout.GivesTables (.table entries)) :
    (∀ config, ofText text = .ok config →
      ∀ record, layout.Settles {} (.table entries) record ↔ record = config) ∧
    (∀ table ∈ layout.tables, ∀ key, (Value.table entries).at? (table.path ++ [key]) ≠ none →
      key ∉ table.names → ∃ path misfit, ofText text = .error (.misfit misfit) ∧
        layout.FirstMisfit (.table entries) path misfit ∧
        (misfit = .unknownField key table.names ∨ path < table.path ++ [key])) ∧
    ∀ config larger largerEntries, ofText text = .ok config →
      readDocument larger = some largerEntries → layout.GivesTables (.table largerEntries) →
      ∀ table ∈ layout.tables, ∀ key,
        Value.Adds (table.path ++ [key]) (.table entries) (.table largerEntries) →
        (∀ path misfit, layout.Misfits (.table largerEntries) path misfit →
          ¬table.path ++ [key] <+: path) →
        ∃ changed, ofText larger = .ok changed ∧
          layout.Settles {} (.table largerEntries) changed ∧
          ∀ setting ∈ layout.settings, ¬table.path ++ [key] <+: setting.path →
            setting.get changed = setting.get config := by
  have distinct := document_distinct text entries isDocument
  refine ⟨fun config accepted => ?_, ?_, ?_⟩
  · rw [of_text_ok_iff text entries isDocument] at accepted
    exact layout_governs.settled_iff distinct givesTables accepted
  · intro table isTable key given notDeclared
    obtain ⟨path, misfit, refused, isFirst, reported⟩ :=
      layout_governs.describes.undeclared_key distinct givesTables isTable given notDeclared
    exact ⟨path, misfit, of_text_misfit text entries isDocument misfit refused, isFirst, reported⟩
  · intro config larger largerEntries accepted isLarger largerTables table isTable key adds valid
    rw [of_text_ok_iff text entries isDocument] at accepted
    have largerDistinct := document_distinct larger largerEntries isLarger
    obtain ⟨changed, isChanged, spared⟩ :=
      layout_governs.describes.adding layout_governs.proper distinct givesTables accepted
        largerDistinct largerTables isTable adds valid
    have settled := layout_governs.describes.settled largerDistinct largerTables isChanged
    rw [← of_text_ok_iff larger largerEntries isLarger] at isChanged
    exact ⟨changed, isChanged, settled, spared⟩

/-- A weight is given to the list beside its borders, and a key that is not declared there is
refused. -/
theorem merges_with_own_settings_list :
    ∃ config changed, ofText "[styles.list]\nborders = []\n" = .ok config ∧
      ofText "[styles.list]\nborders = []\nfont_weight = \"bold\"\n" = .ok changed ∧
      changed.styles.list.fontWeight = .bold ∧
      changed.styles.list.borders = config.styles.list.borders ∧
      changed.statusBar = config.statusBar ∧
      ∃ misfit, ofText "[styles.list]\nzoom = 2\n" = .error (.misfit misfit) := by
  let listed (list : List (String × Value)) : List (String × Value) :=
    [("styles", .table [("list", .table list)])]
  let entries := listed [("borders", .array [])]
  let largerEntries := listed [("borders", .array []), ("font_weight", .string "bold")]
  have isDocument : readDocument "[styles.list]\nborders = []\n" = some entries := by cbv
  have isLarger : readDocument "[styles.list]\nborders = []\nfont_weight = \"bold\"\n" =
      some largerEntries := by cbv
  have isUndeclared : readDocument "[styles.list]\nzoom = 2\n" =
      some (listed [("zoom", .integer 2)]) := by cbv
  have listTable :
      (⟨["styles", "list"], listParts.map RecordPart.name⟩ : DeclaredTable) ∈ layout.tables :=
    List.mem_of_getElem? (i := 3) rfl
  have weightSetting : (⟨["styles", "list", "font_weight"], FontWeight,
      decodeVariant fontWeightNames, fun config => config.styles.list.fontWeight⟩ :
        Setting Config) ∈ layout.settings := List.mem_of_getElem? (i := 11) rfl
  have bordersSetting : (⟨["styles", "list", "borders"], List BorderChoice, decodeBorders,
      fun config => config.styles.list.borders⟩ : Setting Config) ∈ layout.settings :=
    List.mem_of_getElem? (i := 12) rfl
  have statusBarSetting : (⟨["status_bar"], Bool, decodeBoolean, Config.statusBar⟩ :
      Setting Config) ∈ layout.settings := List.mem_of_getElem? (i := 46) rfl
  have adds : Value.Adds ["styles", "list", "font_weight"] (.table entries)
      (.table largerEntries) :=
    ((Value.adds_entry [("borders", .array [])] "font_weight" (.string "bold") rfl).below
      "list" [] [] rfl).below "styles" [] [] rfl
  have weightGiven : (Value.table largerEntries).at? ["styles", "list", "font_weight"] =
      some (.string "bold") := rfl
  have valid : ∀ path misfit, layout.Misfits (.table largerEntries) path misfit →
      ¬["styles", "list", "font_weight"] <+: path := fun _ _ misfits =>
    layout_governs.proper.setting_fits weightSetting weightGiven rfl _ _ misfits
  obtain ⟨config, accepted⟩ := exists_of_to_option (ofText "[styles.list]\nborders = []\n")
    (by decide +kernel)
  obtain ⟨-, -, adding⟩ := merges_with_own_settings _ entries isDocument (by decide +kernel)
  obtain ⟨changed, isChanged, settles, spared⟩ := adding config _ largerEntries accepted isLarger
    (by decide +kernel) _ listTable "font_weight" adds valid
  obtain ⟨-, undeclared, -⟩ := merges_with_own_settings _ _ isUndeclared (by decide +kernel)
  obtain ⟨path, misfit, refused, -⟩ := undeclared _ listTable "zoom" (by decide) (by decide)
  have isBold : Except.ok FontWeight.bold = Except.ok changed.styles.list.fontWeight :=
    settles _ weightSetting
  exact ⟨config, changed, accepted, isChanged, (Except.ok.inj isBold).symm,
    spared _ bordersSetting (by decide), spared _ statusBarSetting (by decide), misfit, refused⟩

/-- A key that is not declared comes first in the document, but another misfit is reported. -/
theorem undeclared_key_passed_over :
    let text := "zoom = 2\nstatus_bar = \"yes\"\n"
    let entries := [("zoom", .integer 2), ("status_bar", .string "yes")]
    let misfit := Misfit.wrongType (.string "yes") "a boolean"
    readDocument text = some entries ∧ layout.GivesTables (.table entries) ∧
      "zoom" ∉ fields.map RecordField.name ∧
      decodeBoolean (.string "yes") = .error misfit ∧ ofText text = .error (.misfit misfit) := by
  intro text entries misfit
  have isDocument : readDocument text = some entries := by cbv
  have order : inKeyOrder entries = [("status_bar", .string "yes"), ("zoom", .integer 2)] := by
    apply in_key_order_eq entries _ (by decide) (List.Perm.swap ..)
    rw [List.pairwise_pair]
    decide +kernel
  refine ⟨isDocument, by decide +kernel, by decide, rfl, ?_⟩
  apply of_text_misfit text entries isDocument
  rw [decodeRecord, order]
  rfl

end Config

end CounterForms
