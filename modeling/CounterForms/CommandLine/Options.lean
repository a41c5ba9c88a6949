import CounterForms.Text.Basic

/-!
Reading a command line against the options that are declared. An option is written with two hyphens;
its value follows behind an equals sign or as the next text. Texts are read from left to right, the
first fault ends the reading, and a question for the version or for help is answered where it
stands.
-/

namespace CounterForms

namespace CommandLine

inductive UsageFault
  | unknownOption (written : String)
  | repeatedOption (option : String)
  | missingValue (option : String)
  | unwantedValue (option : String)
  | unfitValue (option : String)
  | missingOption (option : String)
  | conflictingOptions
  | unexpectedText (text : String)
  | missingText (meaning : String)
deriving DecidableEq

def UsageFault.message : UsageFault → String
  | .unknownOption written => "unexpected argument '" ++ written ++ "' found"
  | .repeatedOption option => "the argument '--" ++ option ++ "' cannot be used multiple times"
  | .missingValue option => "a value is required for '--" ++ option ++ "' but none was supplied"
  | .unwantedValue option =>
      "unexpected value for '--" ++ option ++ "' found; no more were expected"
  | .unfitValue option => "invalid value for '--" ++ option ++ "'"
  | .missingOption option => "the following required argument was not provided: --" ++ option
  | .conflictingOptions => "the arguments cannot be used together"
  | .unexpectedText text => "unexpected argument '" ++ text ++ "' found"
  | .missingText meaning => "the following required argument was not provided: " ++ meaning

inductive Arity
  | none
  | one
  /-- One value, which may be a negative number. -/
  | oneNumber
  | atMostOne
deriving DecidableEq

inductive Shape
  | word
  /-- Two hyphens alone: no option comes after them. -/
  | stop
  | option (name : String) (value : Option String)
  | letters (first : Char) (later : List Char)
deriving DecidableEq

/-- A text is judged by the hyphens at its start. A single hyphen is a word. -/
def Shape.of (text : String) : Shape :=
  match text.toList with
  | ['-', '-'] => .stop
  | '-' :: '-' :: rest =>
      let name := rest.takeWhile (· != '=')
      match rest.dropWhile (· != '=') with
      | [] => .option (String.ofList name) .none
      | _ :: value => .option (String.ofList name) (.some (String.ofList value))
  | '-' :: first :: later => .letters first later
  | _ => .word

def Arity.takes (arity : Arity) (text : String) : Bool :=
  match Shape.of text with
  | .word => arity != .none
  | .letters first later => arity == .oneNumber && (first :: later).all Text.isDigit
  | _ => false

/-- An option and how its value enters what has been read. A value that does not fit enters nothing.
-/
structure OptionRule (Draft : Type) where
  name : String
  arity : Arity
  /-- Whether the option may come more than once. -/
  repeats : Bool := false
  store : Option String → Draft → Option Draft

/-- What may stand on a command line, up to the word that begins a command. -/
structure Level (Draft : Type) where
  rules : List (OptionRule Draft)
  commands : List String := []
  /-- Takes a word that begins no command. -/
  word : String → Draft → Option Draft := fun _ _ => none
  tellsVersion : Bool := false

inductive Reading (Draft : Type)
  | read (draft : Draft)
  | command (draft : Draft) (name : String) (rest : List String)
  | version
  | help

namespace Level

variable {Draft : Type}

def readWords (level : Level Draft) : Draft → List String → Except UsageFault (Reading Draft)
  | draft, [] => .ok (.read draft)
  | draft, text :: rest =>
      match level.word text draft with
      | some taken => level.readWords taken rest
      | none => .error (.unexpectedText text)

def enter (rule : OptionRule Draft) (value : Option String) (draft : Draft) :
    Except UsageFault Draft :=
  match rule.store value draft with
  | some entered => .ok entered
  | none => .error (.unfitValue rule.name)

def rule (level : Level Draft) (given : List String) (name : String) :
    Except UsageFault (OptionRule Draft) :=
  match level.rules.find? fun rule => rule.name == name with
  | none => .error (.unknownOption ("--" ++ name))
  | some rule =>
      if given.contains name && !rule.repeats then .error (.repeatedOption name) else .ok rule

/-- Letters behind a single hyphen: only the questions for help and for the version are known. -/
def readLetters (level : Level Draft) (first : Char) : Except UsageFault (Reading Draft) :=
  if first == 'h' then .ok .help
  else if first == 'V' && level.tellsVersion then .ok .version
  else .error (.unknownOption (String.ofList ['-', first]))

/-- Reads texts from left to right; `given` are the options that have come. -/
def readFrom (level : Level Draft) (given : List String) (draft : Draft) :
    List String → Except UsageFault (Reading Draft)
  | [] => .ok (.read draft)
  | text :: rest =>
      match Shape.of text with
      | .stop => level.readWords draft rest
      | .letters first _ => level.readLetters first
      | .word =>
          if level.commands.contains text then .ok (.command draft text rest)
          else
            match level.word text draft with
            | some taken => level.readFrom given taken rest
            | none => .error (.unexpectedText text)
      | .option "help" none => .ok .help
      | .option "version" none =>
          if level.tellsVersion then .ok .version else .error (.unknownOption text)
      | .option name (some value) => do
          let rule ← level.rule given name
          if rule.arity = .none then .error (.unwantedValue name)
          else
            let entered ← enter rule (some value) draft
            level.readFrom (name :: given) entered rest
      | .option name none => do
          let rule ← level.rule given name
          match rest with
          | value :: later =>
              if rule.arity.takes value then
                let entered ← enter rule (some value) draft
                level.readFrom (name :: given) entered later
              else if rule.arity = .none ∨ rule.arity = .atMostOne then
                let entered ← enter rule none draft
                level.readFrom (name :: given) entered (value :: later)
              else .error (.missingValue name)
          | [] =>
              if rule.arity = .none ∨ rule.arity = .atMostOne then
                let entered ← enter rule none draft
                .ok (.read entered)
              else .error (.missingValue name)
  termination_by texts => texts.length

def readAll (level : Level Draft) (draft : Draft) (texts : List String) :
    Except UsageFault (Reading Draft) :=
  level.readFrom [] draft texts

end Level

end CommandLine

end CounterForms
