import IndigoMatter.Library.Json

/-!
# Values of a Python dictionary

What a Python program finds under the keys of a dictionary that came from JSON.
A boolean compares equal to the integer it converts to, but a check that asks for
an integer and refuses a boolean tells them apart.  A nested list or dictionary
is kept as its text: the programs here only carry such values along.
-/

namespace IndigoMatter.Library

/-- A value of a Python dictionary. -/
inductive PyValue
  | none
  | bool (value : Bool)
  | int (value : Int)
  | float (value : Rat)
  | str (value : String)
  | nested (json : String)
deriving DecidableEq

namespace PyValue

/-- The number a value takes part in comparisons as. -/
def number? : PyValue → Option Rat
  | bool value => some (if value then 1 else 0)
  | int value => some value
  | float value => some value
  | _ => Option.none

/-- `isinstance(value, (int, float)) and not isinstance(value, bool)`, as a number. -/
def numeric? : PyValue → Option Rat
  | int value => some value
  | float value => some value
  | _ => Option.none

/-- `bool(value)`. -/
def truthy : PyValue → Bool
  | none => false
  | bool value => value
  | int value => value ≠ 0
  | float value => value ≠ 0
  | str value => value ≠ ""
  | nested json => json ≠ "[]" && json ≠ "{}"

/-- `first == second`: numbers compare by their value, whatever their type. -/
def equals (first second : PyValue) : Bool :=
  match first.number?, second.number? with
  | some first, some second => first = second
  | _, _ => first = second

/-- `isinstance(value, int) and not isinstance(value, bool)`. -/
def integer? : PyValue → Option Int
  | int value => some value
  | _ => Option.none

/-- `isinstance(value, bool)`. -/
def isBool : PyValue → Bool
  | bool _ => true
  | _ => false

/-- `isinstance(value, str)` and not empty. -/
def isText : PyValue → Bool
  | str value => value ≠ ""
  | _ => false

/-- What the other side of a wire parses from the value's JSON; the text of a
nested value is read by the parser given. -/
def toJson (loads : String → Json) : PyValue → Json
  | none => .null
  | bool value => .boolean value
  | int value => .number (JsNumber.ofInt value)
  | float value => .number (.finite value)
  | str value => .string value
  | nested json => loads json

/-- `value == n` for an integer. -/
def equalsInt (value : PyValue) (n : Int) : Bool := value.number? = some (n : Rat)

@[simp]
theorem equals_self (value : PyValue) : value.equals value = true := by
  unfold equals
  split <;> simp_all

theorem integer?_eq_some {value : PyValue} {n : Int} (isInt : value.integer? = some n) :
    value = int n := by
  cases value <;> simp_all [integer?]

end PyValue

end IndigoMatter.Library
