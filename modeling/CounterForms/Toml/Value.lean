import CounterForms.Decimal.Binary64
import CounterForms.Decimal.Shortest
import CounterForms.Text.Quoted

/-!
TOML values, and why a value does not fit what is asked for. A date or a time is known to be one but
its parts are not kept, since no setting takes one. The entries of a table stand in the order of the
document and no key comes twice. A misfit is worded by what was found and what was expected in its
place.
-/

namespace CounterForms.Toml

/-- A floating number with the two special ones that TOML adds. -/
inductive Floating
  | finite (value : Binary64)
  | infinite (negative : Bool)
  | undefined
deriving DecidableEq, Inhabited

inductive Value
  | string (text : String)
  | integer (value : Int)
  | floating (value : Floating)
  | boolean (value : Bool)
  | moment
  | array (elements : List Value)
  | table (entries : List (String × Value))
deriving Inhabited

inductive Misfit
  | wrongType (found : Value) (expected : String)
  | outOfRange (found : Int) (expected : String)
  | unknownField (name : String) (known : List String)
  | missingField (name : String)
  | unknownVariant (name : String) (known : List String)
  /-- An array that stands for a record and has too few elements. -/
  | tooShort (length : Nat) (expected : String)
  /-- A variant that is neither a text nor a table. -/
  | noVariant
  | noEntry
  | manyEntries
  /-- A variant that carries something although it stands for itself. -/
  | notEmptyTable
  | notEmptyArray
  | carries (kind : String)
  /-- A whole number beyond 128 bits. -/
  | tooLarge

def quotedNames (names : List String) : List String :=
  names.map fun name => "\x60" ++ name ++ "\x60"

def expectedNames (names : List String) : String :=
  match quotedNames names with
  | [] => "there are no fields"
  | [one] => "expected " ++ one
  | [one, other] => "expected " ++ one ++ " or " ++ other
  | several => "expected one of " ++ ", ".intercalate several

def Floating.text : Floating → String
  | .undefined => "NaN"
  | .infinite negative => if negative then "-inf" else "inf"
  | .finite value =>
      let digits := ((value.shortest .upward).dropZeros 20).positional
      String.ofList (if value.negative then '-' :: digits else digits)

def Value.found : Value → String
  | .string text => "string " ++ Text.quoted text
  | .integer value =>
      let plain := "integer \x60" ++ Text.intText value ++ "\x60"
      if Word.holdsEither 63 value then plain
      else if Word.holdsSigned 127 value then plain ++ " as i128"
      else plain ++ " as u128"
  | .floating value => "floating point \x60" ++ value.text ++ "\x60"
  | .boolean value => "boolean \x60" ++ (if value then "true" else "false") ++ "\x60"
  | .moment => "map"
  | .array _ => "sequence"
  | .table _ => "map"

/-- The kind of a value that takes the place of an empty table. -/
def Value.kind : Value → String
  | .string _ => "string"
  | .integer _ => "integer"
  | .floating _ => "float"
  | .boolean _ => "boolean"
  | .moment => "datetime"
  | .array _ => "array"
  | .table _ => "table"

def Misfit.message : Misfit → String
  | .wrongType found expected => "invalid type: " ++ found.found ++ ", expected " ++ expected
  | .outOfRange found expected =>
      "invalid value: integer \x60" ++ Text.intText found ++ "\x60, expected " ++ expected
  | .unknownField name known => "unknown field \x60" ++ name ++ "\x60, " ++ expectedNames known
  | .missingField name => "missing field \x60" ++ name ++ "\x60"
  | .unknownVariant name known =>
      "unknown variant \x60" ++ name ++ "\x60, " ++ expectedNames known
  | .tooShort length expected =>
      "invalid length " ++ Text.natText length ++ ", expected " ++ expected
  | .noVariant => "wanted string or table"
  | .noEntry => "wanted exactly 1 element, found 0 elements"
  | .manyEntries => "wanted exactly 1 element, more than 1 element"
  | .notEmptyTable => "expected empty table"
  | .notEmptyArray => "expected empty array"
  | .carries kind => "expected table, found " ++ kind
  | .tooLarge => "integer number overflowed"

/-- A value in place of another one. A whole number beyond 128 bits is refused before that. -/
def wrongType (found : Value) (expected : String) : Misfit :=
  match found with
  | .integer value =>
      if Word.holdsEither 127 value then .wrongType found expected else .tooLarge
  | _ => .wrongType found expected

end CounterForms.Toml
