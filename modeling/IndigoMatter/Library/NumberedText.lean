import Mathlib.Data.List.Basic
import Mathlib.Data.List.DropRight

/-!
# Texts that end in a number

A text is a list of characters.  The patterns here are the ones a regular expression
writes as `\d+` between two literal parts at the end of a text: `stemBefore?` finds what
stands before them, and there is at most one way to read a text so when the opening part
does not end in a digit.
-/

namespace IndigoMatter.Library

abbrev Text := List Char

/-- The zeros of the decimal digits that `\d` matches; nine more follow each. -/
def digitZeros : List Nat :=
  [0x0030, 0x0660, 0x06F0, 0x07C0, 0x0966, 0x09E6, 0x0A66, 0x0AE6, 0x0B66, 0x0BE6, 0x0C66, 0x0CE6,
    0x0D66, 0x0DE6, 0x0E50, 0x0ED0, 0x0F20, 0x1040, 0x1090, 0x17E0, 0x1810, 0x1946, 0x19D0, 0x1A80,
    0x1A90, 0x1B50, 0x1BB0, 0x1C40, 0x1C50, 0xA620, 0xA8D0, 0xA900, 0xA9D0, 0xA9F0, 0xAA50, 0xABF0,
    0xFF10, 0x104A0, 0x10D30, 0x11066, 0x110F0, 0x11136, 0x111D0, 0x112F0, 0x11450, 0x114D0,
    0x11650, 0x116C0, 0x11730, 0x118E0, 0x11950, 0x11C50, 0x11D50, 0x11DA0, 0x16A60, 0x16AC0,
    0x16B50, 0x1D7CE, 0x1D7D8, 0x1D7E2, 0x1D7EC, 0x1D7F6, 0x1E140, 0x1E2F0, 0x1E950, 0x1FBF0]

/-- Whether `\d` matches a character. -/
def isDecimal (c : Char) : Bool :=
  digitZeros.any fun first => first ≤ c.toNat && c.toNat < first + 10

theorem isDecimal_of_isDigit {c : Char} (digit : c.isDigit = true) : isDecimal c = true := by
  simp only [Char.isDigit, ge_iff_le, Bool.and_eq_true, decide_eq_true_eq,
    UInt32.le_iff_toNat_le] at digit
  change 48 ≤ c.toNat ∧ c.toNat ≤ 57 at digit
  refine List.any_eq_true.mpr ⟨0x0030, List.mem_cons_self, ?_⟩
  rw [Bool.and_eq_true, decide_eq_true_eq, decide_eq_true_eq]
  omega

/-- The digits of an integer. -/
def integerChars : Int → Text
  | .ofNat n => Nat.toDigits 10 n
  | .negSucc n => '-' :: Nat.toDigits 10 (n + 1)

theorem isDecimal_of_mem_toDigits {n : Nat} {c : Char} (member : c ∈ Nat.toDigits 10 n) :
    isDecimal c = true :=
  isDecimal_of_isDigit (Nat.isDigit_of_mem_toDigits (by decide) (by decide) member)

/-- What precedes a suffix. -/
def stem? (suffix text : Text) : Option Text :=
  if suffix.isSuffixOf text then some (text.take (text.length - suffix.length)) else none

theorem stem?_eq_some_iff {suffix text stem : Text} :
    stem? suffix text = some stem ↔ text = stem ++ suffix := by
  unfold stem?
  constructor
  · intro found
    split at found
    · rename_i ends
      rcases List.isSuffixOf_iff_suffix.mp ends with ⟨front, rfl⟩
      rw [← Option.some.inj found]
      simp
    · cases found
  · rintro rfl
    rw [if_pos (List.isSuffixOf_iff_suffix.mpr (List.suffix_append stem suffix))]
    simp

/-- What precedes the opening part where a text ends in the opening part, digits and the
closing part. -/
def stemBefore? (opening closing text : Text) : Option Text :=
  (stem? closing text).bind fun numbered =>
    if (numbered.rtakeWhile isDecimal).isEmpty then none
    else stem? opening (numbered.rdropWhile isDecimal)

section Patterns

variable {opening closing text stem digits : Text}

theorem rdropWhile_append_digits (decimal : ∀ c ∈ digits, isDecimal c = true) :
    (text ++ digits).rdropWhile isDecimal = text.rdropWhile isDecimal := by
  unfold List.rdropWhile
  rw [List.reverse_append, List.dropWhile_append_of_pos]
  intro c member
  exact decimal c (List.mem_reverse.mp member)

theorem rdropWhile_of_getLast? {c : Char} (last : text.getLast? = some c)
    (apart : isDecimal c = false) : text.rdropWhile isDecimal = text := by
  rw [List.rdropWhile_eq_self_iff]
  intro nonempty
  rw [List.getLast?_eq_some_getLast nonempty] at last
  rw [Option.some.inj last, apart]
  exact Bool.false_ne_true

theorem stemBefore?_eq_some_iff {c : Char} (last : opening.getLast? = some c)
    (apart : isDecimal c = false) :
    stemBefore? opening closing text = some stem ↔
      ∃ digits, digits ≠ [] ∧ (∀ c ∈ digits, isDecimal c = true) ∧
        text = stem ++ opening ++ digits ++ closing := by
  unfold stemBefore?
  rw [Option.bind_eq_some_iff]
  constructor
  · rintro ⟨numbered, ends, found⟩
    split at found
    · cases found
    · rename_i some_
      refine ⟨numbered.rtakeWhile isDecimal, ?_, fun c member => List.mem_rtakeWhile_imp member, ?_⟩
      · rwa [List.isEmpty_iff] at some_
      · rw [← stem?_eq_some_iff.mp found, List.rdropWhile_append_rtakeWhile]
        exact stem?_eq_some_iff.mp ends
  · rintro ⟨digits, nonempty, decimal, rfl⟩
    have kept : (stem ++ opening ++ digits).rdropWhile isDecimal = stem ++ opening := by
      rw [rdropWhile_append_digits decimal]
      apply rdropWhile_of_getLast? _ apart
      rw [List.getLast?_append, last]
      rfl
    have taken : (stem ++ opening ++ digits).rtakeWhile isDecimal = digits := by
      have whole := @List.rdropWhile_append_rtakeWhile _ isDecimal (stem ++ opening ++ digits)
      rw [kept] at whole
      exact List.append_cancel_left whole
    refine ⟨stem ++ opening ++ digits, stem?_eq_some_iff.mpr rfl, ?_⟩
    rw [kept, taken, if_neg (by simpa using nonempty)]
    exact stem?_eq_some_iff.mpr rfl

end Patterns

end IndigoMatter.Library
