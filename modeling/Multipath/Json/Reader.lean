import Multipath.Json.Parser

/-! Reading the parts of a document out of a JSON value. A record may be written as an
object, in which fields with unknown names are passed over, or as the list of its fields
in order; a plain alternative may be written as its name, or as an object whose only
field has that name and holds null. -/
namespace Multipath.Json

namespace Value

def string? : Value → Option String
  | .string s => some s
  | _ => none

def natural? (bound : Nat) : Value → Option Nat
  | .natural n => if n ≤ bound then some n else none
  | _ => none

def word? (v : Value) : Option Nat := v.natural? Text.largestWord

def array? (item? : Value → Option α) : Value → Option (List α)
  | .array items => items.mapM item?
  | _ => none

def bindings? (value? : Value → Option α) : Value → Option (List (String × α))
  | .object fields => fields.mapM fun (name, value) => (value? value).map (name, ·)
  | _ => none

def field? (fields : List (String × Value)) (name : String) : Option Value :=
  match fields.filter (·.1 == name) with
  | [(_, value)] => some value
  | _ => none

def record? (names : List String) : Value → Option (List Value)
  | .object fields => names.mapM (field? fields)
  | .array items => if items.length = names.length then some items else none
  | _ => none

/-- The fields of a record that has no others. -/
def closedRecord? (names : List String) (v : Value) : Option (List Value) :=
  match v with
  | .object fields => if fields.all (names.contains ·.1) then v.record? names else none
  | _ => v.record? names

def alternative? : Value → Option String
  | .string name => some name
  | .object [(name, .null)] => some name
  | _ => none

end Value
end Multipath.Json
