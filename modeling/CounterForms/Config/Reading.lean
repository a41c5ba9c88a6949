import CounterForms.Config.Settings
import CounterForms.Toml.Decoder

/-!
Reading settings from a TOML document. Sections and fields may be left out, and what is left out
keeps its own value; a name that is not declared is refused.
-/

namespace CounterForms

namespace Config

open Toml

def fontWeightNames : List (String × FontWeight) := [("bold", .bold), ("regular", .regular)]

def borderNames : List (String × BorderChoice) :=
  [("top", .top), ("left", .left), ("right", .right), ("bottom", .bottom), ("all", .all)]

def decodeBorders : Value → Decoded (List BorderChoice) := decodeList (decodeVariant borderNames)

def textField {Record : Type} (name : String) (store : String → Record → Record) :
    RecordField Record :=
  .of name (decodeString "a string") store

def bindingField (action : Action) : RecordField BindingTexts :=
  textField action.name fun text texts => texts.replace action text

def listFields : List (RecordField ListSettings) :=
  [
    textField "highlight_symbol" fun text list => { list with highlightSymbol := text },
    textField "icon_answered" fun text list => { list with iconAnswered := text },
    textField "icon_unanswered" fun text list => { list with iconUnanswered := text },
    .of "font_weight" (decodeVariant fontWeightNames) fun weight list =>
      { list with fontWeight := weight },
    .of "borders" decodeBorders fun borders list => { list with borders := borders }
  ]

def counterFields : List (RecordField CounterSettings) :=
  [
    textField "increase_label" fun text counter => { counter with increaseLabel := text },
    textField "decrease_label" fun text counter => { counter with decreaseLabel := text },
    textField "empty_placeholder" fun text counter => { counter with emptyPlaceholder := text },
    .of "show_hint" decodeBoolean fun shown counter => { counter with showHint := shown },
    .of "font_weight" (decodeVariant fontWeightNames) fun weight counter =>
      { counter with fontWeight := weight },
    .of "borders" decodeBorders fun borders counter => { counter with borders := borders }
  ]

def statusFields : List (RecordField StatusSettings) :=
  [
    .of "left_split" decodeShare fun share status => { status with leftShare := share },
    .of "right_split" decodeShare fun share status => { status with rightShare := share },
    .of "borders" decodeBorders fun borders status => { status with borders := borders },
    .of "font_weight" (decodeVariant fontWeightNames) fun weight status =>
      { status with fontWeight := weight },
    textField "idle_icon" fun text status => { status with idleIcon := text },
    textField "modified_icon" fun text status => { status with modifiedIcon := text },
    textField "saved_icon" fun text status => { status with savedIcon := text },
    textField "error_icon" fun text status => { status with errorIcon := text }
  ]

def scaffoldFields : List (RecordField ScaffoldSettings) :=
  [
    .of "left_split" decodeShare fun share scaffold => { scaffold with leftShare := share },
    .of "right_split" decodeShare fun share scaffold => { scaffold with rightShare := share }
  ]

def colorFields : List (RecordField PaletteTexts) :=
  [
    textField "highlights_background" fun text colors =>
      { colors with highlightsBackground := text },
    textField "highlights_text" fun text colors => { colors with highlightsText := text },
    textField "borders" fun text colors => { colors with borders := text },
    textField "borders_list" fun text colors => { colors with bordersList := text },
    textField "borders_counter" fun text colors => { colors with bordersCounter := text },
    textField "borders_status" fun text colors => { colors with bordersStatus := text },
    textField "text" fun text colors => { colors with text := text },
    textField "text_list" fun text colors => { colors with textList := text },
    textField "text_counter" fun text colors => { colors with textCounter := text },
    textField "text_hint" fun text colors => { colors with textHint := text },
    textField "text_status" fun text colors => { colors with textStatus := text },
    textField "button_enabled" fun text colors => { colors with buttonEnabled := text },
    textField "button_disabled" fun text colors => { colors with buttonDisabled := text },
    textField "background" fun text colors => { colors with background := text },
    textField "background_list" fun text colors => { colors with backgroundList := text },
    textField "background_counter" fun text colors => { colors with backgroundCounter := text },
    textField "background_status" fun text colors => { colors with backgroundStatus := text }
  ]

def styleFields : List (RecordField StyleSettings) :=
  [
    .of "list" (decodeRecord "List" listFields {}) fun list styles =>
      { styles with list := list },
    .of "counter" (decodeRecord "Counter" counterFields {}) fun counter styles =>
      { styles with counter := counter },
    .of "status" (decodeRecord "Status" statusFields {}) fun status styles =>
      { styles with status := status },
    .of "screen_scaffold" (decodeRecord "ScreenScaffold" scaffoldFields {}) fun scaffold styles =>
      { styles with scaffold := scaffold },
    .of "colors" (decodeRecord "Colors" colorFields {}) fun colors styles =>
      { styles with colors := colors }
  ]

def fields : List (RecordField Config) :=
  [
    .of "default_form" (decodeString "path string") fun path config =>
      { config with defaultForm := some path },
    .of "keybindings" (decodeRecord "KeyBindings" (Action.all.map bindingField) .standard)
      fun bindings config => { config with bindings := bindings },
    .of "styles" (decodeRecord "Styles" styleFields {}) fun styles config =>
      { config with styles := styles },
    .of "status_bar" decodeBoolean fun shown config => { config with statusBar := shown },
    .of "save_on_exit" decodeBoolean fun saves config => { config with saveOnExit := saves }
  ]

def ofText (text : String) : Except DocumentFault Config :=
  decodeDocument (decodeRecord "Config" fields {}) text

end Config

end CounterForms
