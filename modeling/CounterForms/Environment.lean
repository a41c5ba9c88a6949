import CounterForms.Storage.Path
import CounterForms.Text.Basic
import CounterForms.Text.WordTable

/-!
The variables of the environment, and paths that refer to them. A dollar sign brings in a variable,
with or without braces; braces may give a value for a variable that is not set. A tilde at the start
stands for the home directory.
-/

namespace CounterForms

structure Environment where
  values : List (String × String) := []
  /-- The home directory that the account of the user names. -/
  accountHome : Option String := none

structure UnsetVariable where
  name : String
deriving DecidableEq

def UnsetVariable.messages (fault : UnsetVariable) : List String :=
  ["error looking key '" ++ fault.name ++ "' up: environment variable not found",
    "environment variable not found"]

namespace Environment

def value? (environment : Environment) (name : String) : Option String :=
  environment.values.lookup name

/-- The home directory: a variable, or what the account says if that is not set or empty. -/
def home? (environment : Environment) : Option String :=
  match environment.value? "HOME" with
  | some home => if home.isEmpty then environment.accountHome else some home
  | none => environment.accountHome

def isVariableCharacter (character : Char) : Bool :=
  character == '_' || Text.wordRanges.has character

/-- Splits at the first colon with a hyphen behind it. -/
def splitDefault : List Char → Option (List Char × List Char)
  | [] => none
  | ':' :: '-' :: default => some ([], default)
  | character :: rest =>
      (splitDefault rest).map fun (name, default) => (character :: name, default)

/-- The value of what stands between braces. A name comes before the value for the case that it is
not set. -/
def bracedValue (environment : Environment) (inner : List Char) :
    Except UnsetVariable (List Char) :=
  let (name, default?) := match splitDefault inner with
    | some (first :: name, default) => (first :: name, some default)
    | _ => (inner, none)
  match environment.value? (String.ofList name), default? with
  | some value, _ => .ok value.toList
  | none, some default => .ok default
  | none, none => .error ⟨String.ofList name⟩

/-- Brings in the variables of a text. Two dollar signs stand for one, and one that no name follows
stands for itself. The budget bounds the number of steps. -/
def substitute (environment : Environment) : Nat → List Char → Except UnsetVariable (List Char)
  | 0, _ => .ok []
  | _ + 1, [] => .ok []
  | budget + 1, '$' :: '\x7b' :: rest =>
      if rest.contains '\x7d' then do
        let inner := rest.takeWhile (· != '\x7d')
        let value ← environment.bracedValue inner
        let behind ← environment.substitute budget (rest.drop (inner.length + 1))
        .ok (value ++ behind)
      else do
        let behind ← environment.substitute budget rest
        .ok ('$' :: '\x7b' :: behind)
  | budget + 1, '$' :: '$' :: rest => do
      let behind ← environment.substitute budget rest
      .ok ('$' :: behind)
  | budget + 1, '$' :: rest => do
      let name := rest.takeWhile isVariableCharacter
      if name.isEmpty then do
        let behind ← environment.substitute budget rest
        .ok ('$' :: behind)
      else
        match environment.value? (String.ofList name) with
        | none => .error ⟨String.ofList name⟩
        | some value => do
            let behind ← environment.substitute budget (rest.drop name.length)
            .ok (value.toList ++ behind)
  | budget + 1, character :: rest => do
      let behind ← environment.substitute budget rest
      .ok (character :: behind)

/-- Puts the home directory in place of a tilde that stands alone or before a slash. -/
def expandTilde (environment : Environment) (text : List Char) : List Char :=
  match text with
  | '~' :: rest =>
      if rest.isEmpty || rest.head? == some '/' then
        match environment.home? with
        | some home => home.toList ++ rest
        | none => text
      else text
  | _ => text

/-- Expands the variables of a path, and its tilde if it is written at the start of the path and not
brought in by a variable. -/
def expand (environment : Environment) (path : Path) : Except UnsetVariable Path := do
  let text ← environment.substitute (path.chars.length + 1) path.chars
  let expanded := if path.chars.head? = some '~' then environment.expandTilde text else text
  .ok ⟨String.ofList expanded⟩

/-- The directory of the program below one that a variable names. A relative one does not count;
then it lies below the home directory. -/
def programDirectory? (environment : Environment) (named : String) (fallback : List String) :
    Option Path :=
  match environment.value? named with
  | some text =>
      if (Path.mk text).isAbsolute then some ((Path.mk text).join "tally")
      else homeDirectory
  | none => homeDirectory
where
  homeDirectory : Option Path :=
    environment.home?.map fun home => (fallback.foldl Path.join ⟨home⟩).join "tally"

def configDirectory? (environment : Environment) : Option Path :=
  environment.programDirectory? "XDG_CONFIG_HOME" [".config"]

def dataDirectory? (environment : Environment) : Option Path :=
  environment.programDirectory? "XDG_DATA_HOME" [".local", "share"]

end Environment

end CounterForms
