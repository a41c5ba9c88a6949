import CounterForms.Json.Number
import CounterForms.Json.Value

/-!
JSON on one line, without spaces. The members of an object are written in the order of their keys,
and of several members with one key only the last.
-/

namespace CounterForms.Json

def lastOfEachKey {Value : Type} : List (String × Value) → List (String × Value)
  | [] => []
  | (key, value) :: later =>
      if later.any fun other => other.1 == key then lastOfEachKey later
      else (key, value) :: lastOfEachKey later

/-- The last value of every key, in the order of the keys by code points. -/
def sortedByKey {Value : Type} (members : List (String × Value)) : List (String × Value) :=
  (lastOfEachKey members).mergeSort fun one other => !decide (other.1 < one.1)

def withCommas (pieces : List (List Char)) : List Char := [','].intercalate pieces

mutual

def compact : Json → List Char
  | .null => ['n', 'u', 'l', 'l']
  | .bool true => ['t', 'r', 'u', 'e']
  | .bool false => ['f', 'a', 'l', 's', 'e']
  | .integer value => Text.intNumeral value
  | .number value => numberText value
  | .string text => quote text
  | .array elements => '[' :: (withCommas (compactElements elements) ++ [']'])
  | .object members =>
      let written := (sortedByKey (compactMembers members)).map fun (key, value) =>
        quote key ++ ':' :: value
      '\x7b' :: (withCommas written ++ ['\x7d'])

def compactElements : List Json → List (List Char)
  | [] => []
  | element :: later => compact element :: compactElements later

def compactMembers : List (String × Json) → List (String × List Char)
  | [] => []
  | (key, value) :: later => (key, compact value) :: compactMembers later

end

end CounterForms.Json
