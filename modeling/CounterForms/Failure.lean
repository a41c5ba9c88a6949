import CounterForms.Config.Settings
import CounterForms.Environment
import CounterForms.Form.Basic
import CounterForms.Json.Writer
import CounterForms.Operation
import CounterForms.Storage.Disk
import CounterForms.Toml.Decoder

/-!
Failures: a cause, and what was being attempted when it came up, the outermost attempt first. The
messages of a failure are those of its attempts and then those of its cause.
-/

namespace CounterForms

inductive Attempt
  | readFile (path : Path)
  | parseFile (path : Path)
  | useForm (path : Path)
  | makeDirectory (path : Path)
  | writeFile (path : Path)
  | expandPath
  | expandAnswersPath
  | expandFormPath
  | expandConfigPath
  | findConfig
  | loadConfig
  | loadConfigFile (path : Path)
  | checkConfigFile (path : Path)
  | readBindings
  | loadAnswers
  | openScreen
  | saveOnExit
  | makeLogDirectory (path : Path)
  | openLog (path : Path)
deriving DecidableEq

def Attempt.message : Attempt → String
  | .readFile path => "Failed to read " ++ path.quoted
  | .parseFile path => "Failed to parse " ++ path.quoted
  | .useForm path => "Invalid form " ++ path.quoted
  | .makeDirectory path => "Failed to create directory " ++ path.quoted
  | .writeFile path => "Failed to write " ++ path.quoted
  | .expandPath => "Failed to expand path"
  | .expandAnswersPath => "Failed to expand answers path"
  | .expandFormPath => "Failed to expand form path"
  | .expandConfigPath => "Failed to expand config path"
  | .findConfig => "Failed to find config file"
  | .loadConfig => "Failed to load config file"
  | .loadConfigFile path => "Config file " ++ path.quoted ++ " could not be loaded"
  | .checkConfigFile path => "Config file " ++ path.quoted ++ " is invalid"
  | .readBindings => "Invalid keybinding configuration"
  | .loadAnswers => "Failed to load answers"
  | .openScreen => "Failed to initialize TUI application"
  | .saveOnExit => "Failed to save answers on exit"
  | .makeLogDirectory path => "Failed to create log directory " ++ path.quoted
  | .openLog path => "Failed to open log file " ++ path.quoted

inductive Cause
  | storage (fault : Storage.Fault)
  | document (fault : Toml.DocumentFault)
  | json (fault : Json.Fault)
  | answerKind (name : String) (found : Json)
  | form (fault : FormFault)
  | settings (fault : SettingsFault)
  | binding (fault : BindingFault)
  | color (fault : ColorFault)
  | variable (fault : UnsetVariable)
  | readOnly (refusal : ReadOnlyRefusal)
  | unknownQuestion (name : String) (title : String)
  | homeless
  | missingConfig (path : Path)
  | noConfig (path : Path)
  | noForm
  | namelessForm (path : Path)
  | nothingToValidate
  | noTerminal

def jsonMessage : Json.Fault → String
  | .malformed => "the text is not JSON"
  | .cutShort => "the text ends before the JSON value does"
  | .notAnObject => "the JSON value is not an object"

def bindingMessages : BindingFault → List String
  | .chord action text fault =>
      ["Failed to parse '" ++ action.name ++ "' keybinding '" ++ text ++ "'", fault.message]
  | .shared conflicts => [sharedMessage conflicts]

def Cause.messages : Cause → List String
  | .storage fault => [fault.message]
  | .document fault => [fault.message]
  | .json fault => [jsonMessage fault]
  | .answerKind name found =>
      ["Answer '" ++ name ++ "' must be an integer or null, found " ++
        String.ofList found.compact]
  | .form fault => [fault.message]
  | .settings fault => [fault.message]
  | .binding fault => bindingMessages fault
  | .color fault => fault.messages
  | .variable fault => fault.messages
  | .readOnly refusal => [refusal.message]
  | .unknownQuestion name title => ["Question '" ++ name ++ "' not found in form '" ++ title ++ "'"]
  | .homeless => ["Failed to determine home directory"]
  | .missingConfig path => ["Specified config file does not exist: " ++ path.quoted]
  | .noConfig path =>
      ["No config file found to validate. Searched:\n  - " ++ path.quoted ++ "\n  - ./tally.toml"]
  | .noForm =>
      ["No form specified. Pass --form <PATH> or set default_form in the config file"]
  | .namelessForm path => ["Could not derive a form name from " ++ path.quoted]
  | .nothingToValidate =>
      ["validate command requires either --form-file or --config-file flag"]
  | .noTerminal => ["No such device or address (os error 6)"]

structure Failure where
  attempts : List Attempt := []
  cause : Cause

namespace Failure

def messages (failure : Failure) : List String :=
  failure.attempts.map Attempt.message ++ failure.cause.messages

def headline (failure : Failure) : String := failure.messages.headD ""

def inOneLine (messages : List String) : String := ": ".intercalate messages

def indented (first behind : String) (message : String) : String :=
  first ++ ("\n" ++ behind).intercalate (message.splitOn "\n")

/-- The messages of a failure for a reader: the headline and below it the reasons, which are
numbered if there are several. -/
def report (messages : List String) : String :=
  match messages with
  | [] => ""
  | [headline] => headline
  | [headline, reason] => headline ++ "\n\nCaused by:\n" ++ indented "    " "    " reason
  | headline :: reasons =>
      let numbered := reasons.zipIdx.map fun (reason, index) =>
        let number := Text.natText index
        let padding := String.ofList (List.replicate (5 - number.length) ' ')
        indented (padding ++ number ++ ": ") "       " reason
      headline ++ "\n\nCaused by:\n" ++ "\n".intercalate numbered

end Failure

abbrev Attempted := Except Failure

def failBy {Content : Type} (cause : Cause) : Attempted Content := .error ⟨[], cause⟩

def orFail {Fault Content : Type} (cause : Fault → Cause) : Except Fault Content → Attempted Content
  | .ok content => .ok content
  | .error fault => failBy (cause fault)

def during {Content : Type} (attempt : Attempt) : Attempted Content → Attempted Content
  | .ok content => .ok content
  | .error failure => .error { failure with attempts := attempt :: failure.attempts }

end CounterForms
