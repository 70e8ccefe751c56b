import Mathlib.Data.Rat.Defs

/-!
# Parsed JSON values

What a JSON parser hands to a program.  A number is the value the parser has
already rounded: a finite rational, or one of the two infinities an overlong
literal turns into.  An absent property is `none`, which is not the same thing
as a property holding `null`.
-/

namespace IndigoMatter.Library

/-- A number as `JSON.parse` delivers it. -/
inductive JsNumber
  | finite (value : Rat)
  | infinite (negative : Bool)
deriving DecidableEq

namespace JsNumber

/-- `Number.isFinite`. -/
def isFinite : JsNumber → Bool
  | finite _ => true
  | infinite _ => false

/-- The integer a number denotes, when `Number.isInteger` accepts it. -/
def integer? : JsNumber → Option Int
  | finite value => if value.den = 1 then some value.num else none
  | infinite _ => none

/-- The number denoting an integer. -/
def ofInt (value : Int) : JsNumber := finite value

@[simp]
theorem integer?_ofInt (value : Int) : (ofInt value).integer? = some value := by
  simp [ofInt, integer?]

end JsNumber

/-- A JSON value; an object lists its properties in order. -/
inductive Json
  | null
  | boolean (value : Bool)
  | number (value : JsNumber)
  | string (value : String)
  | array (items : List Json)
  | object (fields : List (String × Json))

namespace Json

/-- A property of an object; the last one wins when a name is repeated. -/
def property (fields : List (String × Json)) (name : String) : Option Json :=
  fields.reverse.lookup name

end Json

end IndigoMatter.Library
