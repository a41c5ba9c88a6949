import CounterForms.CommandLine.Completion
import CounterForms.Decimal.Binary64
import CounterForms.Operation
import CounterForms.Storage.Path

/-!
The command line of the program. The places of the configuration, the form and the answers may be
given anywhere; what stands nearer to the end decides. A command follows the options of the program
and has options of its own; without a command a form is filled in on the screen.
-/

namespace CounterForms

namespace CommandLine

inductive Command
  | fill
  | answer (question : String) (operation : Operation)
  | complete (shell : Shell)
  | validateForm (path : Path)
  /-- Judges the configuration at a path, or the one that is in use. -/
  | validateConfig (path : Option Path)
  | validateNothing

structure Places where
  config : Option Path := none
  form : Option Path := none
  answers : Option Path := none
deriving Inhabited

/-- What is given behind a command goes before what is given in front of it. -/
def Places.orElse (behind before : Places) : Places :=
  ⟨behind.config <|> before.config, behind.form <|> before.form,
    behind.answers <|> before.answers⟩

structure Arguments where
  places : Places := {}
  statusBar : Option Bool := none
  saveOnExit : Option Bool := none
  command : Command := .fill

inductive Request
  | run (arguments : Arguments)
  | version
  | help

def pathValue : Option String → Option Path
  | some text => if text.isEmpty then none else some ⟨text⟩
  | none => none

def truthValue : Option String → Option Bool
  | some "true" => some true
  | some "false" => some false
  | _ => none

/-- A whole number of 64 bits with a sign. -/
def numberValue : Option String → Option Int
  | none => none
  | some text =>
      let (negative, digits) := match text.toList with
        | '-' :: rest => (true, rest)
        | '+' :: rest => (false, rest)
        | rest => (false, rest)
      let magnitude : Int := Text.digitsValue 10 digits
      let number := if negative then -magnitude else magnitude
      if !digits.isEmpty && digits.all Text.isDigit && Word.holdsSigned 63 number then some number
      else none

section

variable {Draft : Type}

def pathRule (name : String) (store : Path → Draft → Draft) : OptionRule Draft where
  name := name
  arity := .one
  store value draft := (pathValue value).map fun path => store path draft

def truthRule (name : String) (store : Bool → Draft → Draft) : OptionRule Draft where
  name := name
  arity := .one
  store value draft := (truthValue value).map fun truth => store truth draft

def flagRule (name : String) (store : Draft → Draft) : OptionRule Draft where
  name := name
  arity := .none
  store _ draft := some (store draft)

def placeRules (change : (Places → Places) → Draft → Draft) : List (OptionRule Draft) :=
  [
    pathRule "config" fun path => change fun places => { places with config := some path },
    pathRule "form" fun path => change fun places => { places with form := some path },
    pathRule "answers" fun path => change fun places => { places with answers := some path }
  ]

end

structure MainDraft where
  places : Places := {}
  statusBar : Option Bool := none
  saveOnExit : Option Bool := none

def mainLevel : Level MainDraft where
  rules :=
    placeRules (fun change draft => { draft with places := change draft.places }) ++
      [
        truthRule "status-bar" fun truth draft => { draft with statusBar := some truth },
        truthRule "save-on-exit" fun truth draft => { draft with saveOnExit := some truth }
      ]
  commands := ["answer", "completions", "validate", "help"]
  tellsVersion := true

structure AnswerDraft where
  places : Places := {}
  question : Option String := none
  increase : Bool := false
  decrease : Bool := false
  clear : Bool := false
  set : Option Int := none

namespace AnswerDraft

def level : Level AnswerDraft where
  rules :=
    placeRules (fun change draft => { draft with places := change draft.places }) ++
      [
        ⟨"question", .one, false, fun value draft =>
          value.map fun name => { draft with question := some name }⟩,
        flagRule "increase" fun draft => { draft with increase := true },
        flagRule "decrease" fun draft => { draft with decrease := true },
        flagRule "clear" fun draft => { draft with clear := true },
        ⟨"set", .oneNumber, false, fun value draft =>
          (numberValue value).map fun number => { draft with set := some number }⟩
      ]

/-- The operation that the options ask for. Of several the first one in this order counts. -/
def operation (draft : AnswerDraft) : Operation :=
  if draft.increase then .increase
  else if draft.decrease then .decrease
  else if draft.clear then .clear
  else match draft.set with
    | some value => .set value
    | none => .look

def operationCount (draft : AnswerDraft) : Nat :=
  draft.increase.toNat + draft.decrease.toNat + draft.clear.toNat + draft.set.isSome.toNat

def command (draft : AnswerDraft) : Except UsageFault Command :=
  if 1 < draft.operationCount then .error .conflictingOptions
  else match draft.question with
    | none => .error (.missingOption "question")
    | some question => .ok (.answer question draft.operation)

end AnswerDraft

structure CompletionDraft where
  places : Places := {}
  shell : Option Shell := none

namespace CompletionDraft

def level : Level CompletionDraft where
  rules := placeRules fun change draft => { draft with places := change draft.places }
  word text draft :=
    match draft.shell with
    | some _ => none
    | none => (Shell.named? text).map fun shell => { draft with shell := some shell }

def command (draft : CompletionDraft) : Except UsageFault Command :=
  match draft.shell with
  | some shell => .ok (.complete shell)
  | none => .error (.missingText "shell")

end CompletionDraft

structure ValidationDraft where
  places : Places := {}
  form : Option Path := none
  /-- The paths given for the configuration, if its option is there. -/
  configs : Option (List Path) := none

namespace ValidationDraft

/-- The option for the configuration may come without a path, and more than once. -/
def storeConfig (value : Option String) (draft : ValidationDraft) : Option ValidationDraft :=
  let earlier := draft.configs.getD []
  match value with
  | none => some { draft with configs := some earlier }
  | some _ => (pathValue value).map fun path => { draft with configs := some (earlier ++ [path]) }

def level : Level ValidationDraft where
  rules :=
    placeRules (fun change draft => { draft with places := change draft.places }) ++
      [
        pathRule "form-file" fun path draft => { draft with form := some path },
        ⟨"config-file", .atMostOne, true, storeConfig⟩
      ]

def command (draft : ValidationDraft) : Except UsageFault Command :=
  match draft.form, draft.configs with
  | some _, some _ => .error .conflictingOptions
  | some path, none => .ok (.validateForm path)
  | none, some paths => .ok (.validateConfig paths.head?)
  | none, none => .ok .validateNothing

end ValidationDraft

def behind {Draft : Type} (before : MainDraft) (level : Level Draft) (start : Draft)
    (placesOf : Draft → Places) (commandOf : Draft → Except UsageFault Command)
    (texts : List String) : Except UsageFault Request := do
  match ← level.readAll start texts with
  | .read draft =>
      let command ← commandOf draft
      let places := (placesOf draft).orElse before.places
      .ok (.run ⟨places, before.statusBar, before.saveOnExit, command⟩)
  | .command _ name _ => .error (.unexpectedText name)
  | .version => .ok .version
  | .help => .ok .help

/-- Help may be asked for about the commands. -/
def helpAbout : List String → Except UsageFault Request
  | [] => .ok .help
  | [name] => if mainLevel.commands.contains name then .ok .help else .error (.unexpectedText name)
  | _ :: text :: _ => .error (.unexpectedText text)

def Request.ofTexts (texts : List String) : Except UsageFault Request := do
  match ← mainLevel.readAll {} texts with
  | .read draft => .ok (.run ⟨draft.places, draft.statusBar, draft.saveOnExit, .fill⟩)
  | .version => .ok .version
  | .help => .ok .help
  | .command draft name rest =>
      match name with
      | "answer" => behind draft AnswerDraft.level {} AnswerDraft.places AnswerDraft.command rest
      | "completions" =>
          behind draft CompletionDraft.level {} CompletionDraft.places CompletionDraft.command rest
      | "validate" =>
          behind draft ValidationDraft.level {} ValidationDraft.places ValidationDraft.command rest
      | _ => helpAbout rest

end CommandLine

end CounterForms
