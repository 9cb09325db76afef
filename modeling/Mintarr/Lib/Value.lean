import Mathlib.Data.Rat.Defs

/-!
# JSON values

What a JSON document holds once it is read, and how Python looks at it.
-/

namespace Mintarr.Lib

/-- A JSON value; the keys of an object are distinct. -/
inductive Value where
  | null
  | bool (value : Bool)
  | number (value : ℚ)
  | string (text : String)
  | array (items : List Value)
  | object (fields : List (String × Value))

namespace Value

/-- `bool(value)`. -/
def truthy : Value → Bool
  | null => false
  | bool value => value
  | number value => value ≠ 0
  | string text => text ≠ ""
  | array items => !items.isEmpty
  | object fields => !fields.isEmpty

/-- The text of a string. -/
def asString : Value → Option String
  | string text => some text
  | _ => none

/-- `first or second`. -/
def orElse (first second : Value) : Value := if first.truthy then first else second

/-- `fields.get(key)`, of an object. -/
def get (fields : List (String × Value)) (key : String) : Value :=
  (fields.lookup key).getD .null

end Value

end Mintarr.Lib
