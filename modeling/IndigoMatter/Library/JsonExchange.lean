import IndigoMatter.Library.Json
import IndigoMatter.Library.NumberText
import IndigoMatter.Library.PyJson

/-!
# JSON from Python to JavaScript

Python writes an integer of any size in full; JavaScript reads the digits as the
nearest double, and as an infinity when they are beyond every double.  A float is
written so that it is read back as itself.  Hence a value arrives as what it
means just when every integer in it is a double.
-/

namespace IndigoMatter.Library

/-- The number `JSON.parse` makes of an integer's digits. -/
def JsNumber.ofDigits (value : Int) : JsNumber :=
  if nearestDouble value.natAbs < 2 ^ 1024 then
    .ofInt (value.sign * nearestDouble value.natAbs)
  else .infinite (value < 0)

/-- Whether an integer is a double. -/
def IsDouble (value : Int) : Prop :=
  nearestDouble value.natAbs = value.natAbs ∧ value.natAbs < 2 ^ 1024

theorem isDouble_of_lt {value : Int} (small : value.natAbs < 2 ^ 53) : IsDouble value := by
  constructor
  · exact nearestDouble_of_lt small
  · apply small.trans
    apply Nat.pow_lt_pow_right <;> decide

theorem JsNumber.ofInt_injective : Function.Injective JsNumber.ofInt := by
  intro first second same
  exact Rat.intCast_injective (JsNumber.finite.inj same)

/-- The digits of an integer are read as that integer just when it is a double. -/
theorem JsNumber.ofDigits_eq_ofInt_iff {value : Int} :
    JsNumber.ofDigits value = .ofInt value ↔ IsDouble value := by
  unfold ofDigits
  split
  · rename_i finite
    rw [JsNumber.ofInt_injective.eq_iff]
    constructor
    · intro same
      have magnitude : nearestDouble value.natAbs = value.natAbs := by
        rcases eq_or_ne value 0 with rfl | nonzero
        · rfl
        · have lengths := congrArg Int.natAbs same
          rwa [Int.natAbs_mul, Int.natAbs_sign_of_ne_zero nonzero, Nat.one_mul,
            Int.natAbs_natCast] at lengths
      exact ⟨magnitude, magnitude ▸ finite⟩
    · intro isDouble
      rw [isDouble.1]
      exact Int.sign_mul_natAbs value
  · rename_i overflow
    constructor
    · intro same
      contradiction
    · intro isDouble
      rw [isDouble.1] at overflow
      exact absurd isDouble.2 overflow

/-- A number read from an integer's digits is that integer or no integer of its own. -/
theorem JsNumber.integer?_ofDigits_iff {value : Int} :
    (JsNumber.ofDigits value).integer? = some value ↔ IsDouble value := by
  rw [← JsNumber.ofDigits_eq_ofInt_iff]
  constructor
  · intro read
    unfold ofDigits at read ⊢
    split at read
    · rename_i finite
      rw [if_pos finite]
      rw [JsNumber.integer?_ofInt] at read
      rw [Option.some.inj read]
    · contradiction
  · intro same
    rw [same, JsNumber.integer?_ofInt]

namespace PyJson

mutual

/-- The JSON value of a Python value, given what an integer is read as. -/
def toJson (read : Int → JsNumber) : PyJson → Json
  | null => .null
  | bool value => .boolean value
  | int value => .number (read value)
  | float value => .number (.finite value)
  | str text => .string text
  | list items => .array (itemsToJson read items)
  | dict fields => .object (fieldsToJson read fields)

def itemsToJson (read : Int → JsNumber) : List PyJson → List Json
  | [] => []
  | item :: rest => toJson read item :: itemsToJson read rest

def fieldsToJson (read : Int → JsNumber) : List (String × PyJson) → List (String × Json)
  | [] => []
  | (name, value) :: rest => (name, toJson read value) :: fieldsToJson read rest

end

mutual

/-- The integers in a value. -/
def integers : PyJson → List Int
  | int value => [value]
  | list items => integersOfItems items
  | dict fields => integersOfFields fields
  | _ => []

def integersOfItems : List PyJson → List Int
  | [] => []
  | item :: rest => integers item ++ integersOfItems rest

def integersOfFields : List (String × PyJson) → List Int
  | [] => []
  | (_, value) :: rest => integers value ++ integersOfFields rest

end

section Readings

variable {first second : Int → JsNumber}

mutual

/-- Two readings of the integers give one value just when they agree on its integers. -/
theorem toJson_eq_iff : ∀ value : PyJson,
    toJson first value = toJson second value ↔
      ∀ integer ∈ value.integers, first integer = second integer
  | null | bool _ | float _ | str _ => by simp [toJson, integers]
  | int value => by simp [toJson, integers]
  | list items => by simp [toJson, integers, itemsToJson_eq_iff items]
  | dict fields => by simp [toJson, integers, fieldsToJson_eq_iff fields]

theorem itemsToJson_eq_iff : ∀ items : List PyJson,
    itemsToJson first items = itemsToJson second items ↔
      ∀ integer ∈ integersOfItems items, first integer = second integer
  | [] => by simp [itemsToJson, integersOfItems]
  | item :: rest => by
      simp only [itemsToJson, integersOfItems, List.cons.injEq, List.mem_append, or_imp,
        forall_and, toJson_eq_iff item, itemsToJson_eq_iff rest]

theorem fieldsToJson_eq_iff : ∀ fields : List (String × PyJson),
    fieldsToJson first fields = fieldsToJson second fields ↔
      ∀ integer ∈ integersOfFields fields, first integer = second integer
  | [] => by simp [fieldsToJson, integersOfFields]
  | (name, value) :: rest => by
      simp only [fieldsToJson, integersOfFields, List.cons.injEq, Prod.mk.injEq, true_and,
        List.mem_append, or_imp, forall_and, toJson_eq_iff value, fieldsToJson_eq_iff rest]

end

end Readings

end PyJson

end IndigoMatter.Library
