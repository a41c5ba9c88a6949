import CounterForms.Toml.Reader
import CounterForms.Toml.Value

/-!
Decoding values into the types of a program. A record is decoded from a table whose entries are
taken in the order of their keys, or from an array that gives the fields in the order of their
declaration. A field that is not declared is refused, and a field that is not given keeps what the
record had before. A text that is no document is refused before anything in it is decoded.
-/

namespace CounterForms.Toml

abbrev Decoded := Except Misfit

def decodeString (expected : String) : Value → Decoded String
  | .string text => .ok text
  | other => .error (wrongType other expected)

def decodeBoolean : Value → Decoded Bool
  | .boolean value => .ok value
  | other => .error (wrongType other "a boolean")

def greatestShare : Nat := 65535

def decodeShare : Value → Decoded Nat
  | .integer value =>
      if 0 ≤ value ∧ value ≤ greatestShare then .ok value.toNat
      else if Word.holdsEither 63 value then .error (.outOfRange value "u16")
      else .error (wrongType (.integer value) "u16")
  | other => .error (wrongType other "u16")

def decodeEach {Element : Type} (decode : Value → Decoded Element) :
    List Value → Decoded (List Element)
  | [] => .ok []
  | value :: later => do
      let element ← decode value
      let others ← decodeEach decode later
      .ok (element :: others)

def decodeList {Element : Type} (decode : Value → Decoded Element) : Value → Decoded (List Element)
  | .array elements => decodeEach decode elements
  | other => .error (wrongType other "a sequence")

def variantNamed {Variant : Type} (known : List (String × Variant)) (name : String) :
    Decoded Variant :=
  match known.lookup name with
  | some variant => .ok variant
  | none => .error (.unknownVariant name (known.map Prod.fst))

/-- What a variant that stands for itself may carry: an empty table or array. -/
def checkCarriesNothing : Value → Decoded Unit
  | .table [] => .ok ()
  | .table _ => .error .notEmptyTable
  | .array [] => .ok ()
  | .array _ => .error .notEmptyArray
  | other => .error (.carries other.kind)

/-- A variant given by its name, or by a table with its name as only key. -/
def decodeVariant {Variant : Type} (known : List (String × Variant)) : Value → Decoded Variant
  | .string name => variantNamed known name
  | .table [] => .error .noEntry
  | .table [(name, carried)] => do
      let variant ← variantNamed known name
      checkCarriesNothing carried
      .ok variant
  | .table _ => .error .manyEntries
  | _ => .error .noVariant

structure RecordField (Record : Type) where
  name : String
  decode : Value → Record → Decoded Record

/-- A field given by a decoder and the place its value goes to. -/
def RecordField.of {Record Content : Type} (name : String) (decode : Value → Decoded Content)
    (store : Content → Record → Record) : RecordField Record :=
  ⟨name, fun value record => do
    let content ← decode value
    .ok (store content record)⟩

def takeEntry {Record : Type} (fields : List (RecordField Record)) (record : Record)
    (entry : String × Value) : Decoded Record :=
  match fields.find? fun field => field.name == entry.1 with
  | some field => field.decode entry.2 record
  | none => .error (.unknownField entry.1 (fields.map RecordField.name))

def takeElements {Record : Type} : List (RecordField Record) → Record → List Value → Decoded Record
  | field :: fields, record, value :: values => do
      let changed ← field.decode value record
      takeElements fields changed values
  | _, record, _ => .ok record

/-- The entries of a table in the order of their keys. -/
def inKeyOrder (entries : List (String × Value)) : List (String × Value) :=
  entries.mergeSort fun one other => !decide (other.1 < one.1)

/-- The key under which a date or a time is seen as a table. -/
def momentKey : String := "$__toml_private_datetime"

/-- Decodes a record from a table or an array, starting from what it holds before. -/
def decodeRecord {Record : Type} (name : String) (fields : List (RecordField Record))
    (start : Record) : Value → Decoded Record
  | .table entries => (inKeyOrder entries).foldlM (takeEntry fields) start
  | .moment => .error (.unknownField momentKey (fields.map RecordField.name))
  | .array elements => takeElements fields start elements
  | other => .error (wrongType other ("struct " ++ name))

inductive DocumentFault
  | grammar
  | misfit (misfit : Misfit)

def DocumentFault.message : DocumentFault → String
  | .grammar => "the text is not a TOML document"
  | .misfit reason => reason.message

def decodeDocument {Content : Type} (decode : Value → Decoded Content) (text : String) :
    Except DocumentFault Content :=
  match readDocument text with
  | none => .error .grammar
  | some entries => (decode (.table entries)).mapError .misfit

end CounterForms.Toml
