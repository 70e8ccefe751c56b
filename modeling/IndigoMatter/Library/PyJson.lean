import Mathlib.Data.Rat.Floor

/-!
# JSON values as Python sees them

A parsed JSON document keeps integers apart from floats, and a boolean is an
integer too.  The conversions here are the built-in ones: `int` of a value,
truth of a value, and the integer a piece of text denotes.  Digits are the ASCII
ones, and a float is finite.
-/

namespace IndigoMatter.Library

/-- The value of an ASCII digit or letter, in the range of base sixteen. -/
def digitOf? (c : Char) : Option Nat :=
  if '0' ≤ c ∧ c ≤ '9' then some (c.toNat - '0'.toNat)
  else if 'a' ≤ c ∧ c ≤ 'f' then some (c.toNat - 'a'.toNat + 10)
  else if 'A' ≤ c ∧ c ≤ 'F' then some (c.toNat - 'A'.toNat + 10)
  else none

/-- Read digits in a base; single underscores may stand between two of them. -/
def readDigits (base : Nat) : Nat → Bool → List Char → Option Nat
  | value, afterDigit, [] => if afterDigit then some value else none
  | value, afterDigit, '_' :: rest =>
      if afterDigit then readDigits base value false rest else none
  | value, _, c :: rest =>
      match digitOf? c with
      | some digit =>
          if digit < base then readDigits base (value * base + digit) true rest else none
      | none => none

/-- The characters `str.strip` removes. -/
def isPySpace (c : Char) : Bool :=
  c.toNat ∈ [0x09, 0x0A, 0x0B, 0x0C, 0x0D, 0x1C, 0x1D, 0x1E, 0x1F, 0x20, 0x85, 0xA0, 0x1680,
    0x2000, 0x2001, 0x2002, 0x2003, 0x2004, 0x2005, 0x2006, 0x2007, 0x2008, 0x2009, 0x200A,
    0x2028, 0x2029, 0x202F, 0x205F, 0x3000]

/-- `text.strip()`. -/
def pyStrip (text : List Char) : List Char :=
  ((text.dropWhile isPySpace).reverse.dropWhile isPySpace).reverse

/-- Read an optional sign in front of what `read` accepts. -/
def readSigned (read : List Char → Option Nat) : List Char → Option Int
  | '-' :: rest => (read rest).map fun value => -(value : Int)
  | '+' :: rest => (read rest).map fun value => (value : Int)
  | text => (read text).map fun value => (value : Int)

/-- `int(text)`; `none` where it raises. -/
def pyInt? (text : List Char) : Option Int :=
  readSigned (readDigits 10 0 false) (pyStrip text)

/-- The digits behind a base prefix; one underscore may follow the prefix. -/
def readPrefixed (base : Nat) : List Char → Option Nat
  | '_' :: rest => readDigits base 0 false rest
  | rest => readDigits base 0 false rest

/-- `int(text, 0)` for text with a base prefix; `none` where there is none. -/
def pyIntWithPrefix? (text : List Char) : Option Int :=
  readSigned
    (fun
      | '0' :: base :: rest =>
          if base = 'x' ∨ base = 'X' then readPrefixed 16 rest
          else if base = 'o' ∨ base = 'O' then readPrefixed 8 rest
          else if base = 'b' ∨ base = 'B' then readPrefixed 2 rest
          else none
      | _ => none)
    (pyStrip text)

/-- A value of a JSON document read into Python. -/
inductive PyJson
  | null
  | bool (value : Bool)
  | int (value : Int)
  | float (value : Rat)
  | str (text : String)
  | list (items : List PyJson)
  | dict (fields : List (String × PyJson))

namespace PyJson

/-- `bool(value)`. -/
def truthy : PyJson → Bool
  | null => false
  | bool value => value
  | int value => value ≠ 0
  | float value => value ≠ 0
  | str text => text ≠ ""
  | list items => !items.isEmpty
  | dict fields => !fields.isEmpty

/-- `isinstance(value, bool)`. -/
def isBool : PyJson → Bool
  | bool _ => true
  | _ => false

/-- The integer of a value that is an `int`, as a boolean is. -/
def instInt? : PyJson → Option Int
  | bool value => some (if value then 1 else 0)
  | int value => some value
  | _ => none

/-- `int(value)`; `none` where it raises. -/
def toInt? : PyJson → Option Int
  | bool value => some (if value then 1 else 0)
  | int value => some value
  | float value => some (if 0 ≤ value then value.floor else value.ceil)
  | str text => pyInt? text.toList
  | _ => none

/-- `fields.get(name)`. -/
def field? (fields : List (String × PyJson)) (name : String) : Option PyJson :=
  fields.lookup name

end PyJson

end IndigoMatter.Library
