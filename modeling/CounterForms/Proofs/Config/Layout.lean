import CounterForms.Config.Reading
import CounterForms.Proofs.Toml.Adding

/-!
The layout of a configuration: which settings there are, under which keys, and in which tables. Each
field of a record fills the part of its name and leaves the others alone.
-/

namespace CounterForms

namespace Config

open Toml

def textPart {Record : Type} (name : String) (get : Record → String) : RecordPart Record :=
  .ofSetting name (decodeString "a string") get

def bindingParts : List (RecordPart BindingTexts) :=
  Action.all.map fun action => textPart action.name fun texts => texts action

def listParts : List (RecordPart ListSettings) :=
  [
    textPart "highlight_symbol" ListSettings.highlightSymbol,
    textPart "icon_answered" ListSettings.iconAnswered,
    textPart "icon_unanswered" ListSettings.iconUnanswered,
    .ofSetting "font_weight" (decodeVariant fontWeightNames) ListSettings.fontWeight,
    .ofSetting "borders" decodeBorders ListSettings.borders
  ]

def counterParts : List (RecordPart CounterSettings) :=
  [
    textPart "increase_label" CounterSettings.increaseLabel,
    textPart "decrease_label" CounterSettings.decreaseLabel,
    textPart "empty_placeholder" CounterSettings.emptyPlaceholder,
    .ofSetting "show_hint" decodeBoolean CounterSettings.showHint,
    .ofSetting "font_weight" (decodeVariant fontWeightNames) CounterSettings.fontWeight,
    .ofSetting "borders" decodeBorders CounterSettings.borders
  ]

def statusParts : List (RecordPart StatusSettings) :=
  [
    .ofSetting "left_split" decodeShare StatusSettings.leftShare,
    .ofSetting "right_split" decodeShare StatusSettings.rightShare,
    .ofSetting "borders" decodeBorders StatusSettings.borders,
    .ofSetting "font_weight" (decodeVariant fontWeightNames) StatusSettings.fontWeight,
    textPart "idle_icon" StatusSettings.idleIcon,
    textPart "modified_icon" StatusSettings.modifiedIcon,
    textPart "saved_icon" StatusSettings.savedIcon,
    textPart "error_icon" StatusSettings.errorIcon
  ]

def scaffoldParts : List (RecordPart ScaffoldSettings) :=
  [
    .ofSetting "left_split" decodeShare ScaffoldSettings.leftShare,
    .ofSetting "right_split" decodeShare ScaffoldSettings.rightShare
  ]

def colorParts : List (RecordPart PaletteTexts) :=
  [
    textPart "highlights_background" PaletteTexts.highlightsBackground,
    textPart "highlights_text" PaletteTexts.highlightsText,
    textPart "borders" PaletteTexts.borders,
    textPart "borders_list" PaletteTexts.bordersList,
    textPart "borders_counter" PaletteTexts.bordersCounter,
    textPart "borders_status" PaletteTexts.bordersStatus,
    textPart "text" PaletteTexts.text,
    textPart "text_list" PaletteTexts.textList,
    textPart "text_counter" PaletteTexts.textCounter,
    textPart "text_hint" PaletteTexts.textHint,
    textPart "text_status" PaletteTexts.textStatus,
    textPart "button_enabled" PaletteTexts.buttonEnabled,
    textPart "button_disabled" PaletteTexts.buttonDisabled,
    textPart "background" PaletteTexts.background,
    textPart "background_list" PaletteTexts.backgroundList,
    textPart "background_counter" PaletteTexts.backgroundCounter,
    textPart "background_status" PaletteTexts.backgroundStatus
  ]

def styleParts : List (RecordPart StyleSettings) :=
  [
    ⟨"list", _, decodeRecord "List" listFields {}, StyleSettings.list, .ofParts listParts⟩,
    ⟨"counter", _, decodeRecord "Counter" counterFields {}, StyleSettings.counter,
      .ofParts counterParts⟩,
    ⟨"status", _, decodeRecord "Status" statusFields {}, StyleSettings.status,
      .ofParts statusParts⟩,
    ⟨"screen_scaffold", _, decodeRecord "ScreenScaffold" scaffoldFields {}, StyleSettings.scaffold,
      .ofParts scaffoldParts⟩,
    ⟨"colors", _, decodeRecord "Colors" colorFields {}, StyleSettings.colors, .ofParts colorParts⟩
  ]

def decodeDefaultForm (value : Value) : Decoded (Option String) :=
  some <$> decodeString "path string" value

def parts : List (RecordPart Config) :=
  [
    .ofSetting "default_form" decodeDefaultForm Config.defaultForm,
    ⟨"keybindings", _, decodeRecord "KeyBindings" (Action.all.map bindingField) .standard,
      Config.bindings, .ofParts bindingParts⟩,
    ⟨"styles", _, decodeRecord "Styles" styleFields {}, Config.styles, .ofParts styleParts⟩,
    .ofSetting "status_bar" decodeBoolean Config.statusBar,
    .ofSetting "save_on_exit" decodeBoolean Config.saveOnExit
  ]

def layout : Layout Config := .ofParts parts

/-- The tables that may be declared in a configuration. -/
example : layout.tables.map DeclaredTable.path =
    [[], ["keybindings"], ["styles"], ["styles", "list"], ["styles", "counter"],
      ["styles", "status"], ["styles", "screen_scaffold"], ["styles", "colors"]] := rfl

theorem bindings_aligned : Aligned (Action.all.map bindingField) bindingParts := by
  refine ⟨?_, by decide⟩
  rw [bindingParts, List.forall₂_map_left_iff, List.forall₂_map_right_iff, List.forall₂_same]
  intro action _
  refine RecordPart.filled_by_of _ _ _ _ _ _ (fun text texts => by simp [BindingTexts.replace]) ?_
  intro part isPart apart text texts
  obtain ⟨other, -, rfl⟩ := List.mem_map.mp isPart
  have differ : other ≠ action := fun same => apart (same ▸ rfl)
  simp [textPart, RecordPart.ofSetting, BindingTexts.replace, differ]

theorem list_aligned : Aligned listFields listParts := by
  refine ⟨?_, by decide⟩
  simp [listFields, listParts, textField, textPart, RecordPart.ofSetting, RecordPart.filled_by_of]

theorem counter_aligned : Aligned counterFields counterParts := by
  refine ⟨?_, by decide⟩
  simp [counterFields, counterParts, textField, textPart, RecordPart.ofSetting,
    RecordPart.filled_by_of]

theorem status_aligned : Aligned statusFields statusParts := by
  refine ⟨?_, by decide⟩
  simp [statusFields, statusParts, textField, textPart, RecordPart.ofSetting,
    RecordPart.filled_by_of]

theorem scaffold_aligned : Aligned scaffoldFields scaffoldParts := by
  refine ⟨?_, by decide⟩
  simp [scaffoldFields, scaffoldParts, RecordPart.ofSetting, RecordPart.filled_by_of]

theorem colors_aligned : Aligned colorFields colorParts := by
  refine ⟨?_, by decide⟩
  simp [colorFields, colorParts, textField, textPart, RecordPart.ofSetting,
    RecordPart.filled_by_of]

theorem styles_aligned : Aligned styleFields styleParts := by
  refine ⟨?_, by decide⟩
  simp [styleFields, styleParts, RecordPart.filled_by_of]

theorem config_aligned : Aligned fields parts := by
  have defaultForm := RecordPart.filled_by_map parts "default_form" (decodeString "path string")
    (fun path config => { config with defaultForm := some path }) decodeDefaultForm
    Config.defaultForm (.ofValue decodeDefaultForm) some (fun _ => rfl) (fun _ _ => rfl)
    (by simp [parts, RecordPart.ofSetting])
  refine ⟨.cons defaultForm ?_, by decide⟩
  simp [parts, RecordPart.ofSetting, RecordPart.filled_by_of]

theorem bindings_layout_governs : (Layout.ofParts bindingParts).Governs .standard
    (decodeRecord "KeyBindings" (Action.all.map bindingField) .standard) := by
  refine Layout.of_parts_governs "KeyBindings" bindings_aligned ?_ ?_
  · intro one other same
    funext action
    exact same (textPart action.name fun texts => texts action)
      (List.mem_map.mpr ⟨action, action.mem_all, rfl⟩)
  · simp [bindingParts, textPart, RecordPart.ofSetting, Layout.of_value_governs]

theorem list_layout_governs :
    (Layout.ofParts listParts).Governs {} (decodeRecord "List" listFields {}) := by
  refine Layout.of_parts_governs "List" list_aligned ?_ ?_
  · rintro ⟨⟩ ⟨⟩
    simp [listParts, textPart, RecordPart.ofSetting]
  · simp [listParts, textPart, RecordPart.ofSetting, Layout.of_value_governs]

theorem counter_layout_governs :
    (Layout.ofParts counterParts).Governs {} (decodeRecord "Counter" counterFields {}) := by
  refine Layout.of_parts_governs "Counter" counter_aligned ?_ ?_
  · rintro ⟨⟩ ⟨⟩
    simp [counterParts, textPart, RecordPart.ofSetting]
  · simp [counterParts, textPart, RecordPart.ofSetting, Layout.of_value_governs]

theorem status_layout_governs :
    (Layout.ofParts statusParts).Governs {} (decodeRecord "Status" statusFields {}) := by
  refine Layout.of_parts_governs "Status" status_aligned ?_ ?_
  · rintro ⟨⟩ ⟨⟩
    simp [statusParts, textPart, RecordPart.ofSetting]
  · simp [statusParts, textPart, RecordPart.ofSetting, Layout.of_value_governs]

theorem scaffold_layout_governs : (Layout.ofParts scaffoldParts).Governs {}
    (decodeRecord "ScreenScaffold" scaffoldFields {}) := by
  refine Layout.of_parts_governs "ScreenScaffold" scaffold_aligned ?_ ?_
  · rintro ⟨⟩ ⟨⟩
    simp [scaffoldParts, RecordPart.ofSetting]
  · simp [scaffoldParts, RecordPart.ofSetting, Layout.of_value_governs]

theorem colors_layout_governs :
    (Layout.ofParts colorParts).Governs {} (decodeRecord "Colors" colorFields {}) := by
  refine Layout.of_parts_governs "Colors" colors_aligned ?_ ?_
  · rintro ⟨⟩ ⟨⟩
    simp [colorParts, textPart, RecordPart.ofSetting]
  · simp [colorParts, textPart, RecordPart.ofSetting, Layout.of_value_governs]

theorem styles_layout_governs :
    (Layout.ofParts styleParts).Governs {} (decodeRecord "Styles" styleFields {}) := by
  refine Layout.of_parts_governs "Styles" styles_aligned ?_ ?_
  · rintro ⟨⟩ ⟨⟩
    simp [styleParts]
  · simp [styleParts, list_layout_governs, counter_layout_governs, status_layout_governs,
      scaffold_layout_governs, colors_layout_governs]

theorem layout_governs : layout.Governs {} (decodeRecord "Config" fields {}) := by
  refine Layout.of_parts_governs "Config" config_aligned ?_ ?_
  · rintro ⟨⟩ ⟨⟩
    simp [parts, RecordPart.ofSetting]
  · simp [parts, RecordPart.ofSetting, Layout.of_value_governs, bindings_layout_governs,
      styles_layout_governs]

end Config

end CounterForms
