import Mathlib.Data.List.DropRight
import Mathlib.Data.Nat.Log
import Mathlib.Tactic.Linarith
import Mathlib.Tactic.Ring

/-!
# Natural numbers as doubles, and their decimal text

`nearestDouble` reads a natural number as the double nearest to it, and
`numberText` writes a double the way JavaScript does: the closest decimal among
those with the fewest digits that read back as the same double, in positional
notation below `10 ^ 21` and in exponential notation from there on.

Up to `2 ^ 53` both are exact.  Beyond, several numerals read as one double, and
`Shortest` says which of them is the one that is written.
-/

namespace IndigoMatter.Library

/-- The double nearest to a natural number, ties to the even significand. -/
def nearestDouble (value : Nat) : Nat :=
  if value < 2 ^ 53 then value
  else
    let exponent := Nat.log2 value - 52
    let unit := 2 ^ exponent
    let significand := value / unit
    let remainder := 2 * (value % unit)
    if remainder < unit ∨ (remainder = unit ∧ significand % 2 = 0) then significand * unit
    else (significand + 1) * unit

/-! ## Rounding -/

theorem nearestDouble_of_lt {value : Nat} (small : value < 2 ^ 53) : nearestDouble value = value :=
  if_pos small

/-- Rounding to a multiple of `unit`, ties to the even quotient. -/
def roundTo (unit value : Nat) : Nat :=
  if 2 * (value % unit) < unit ∨ (2 * (value % unit) = unit ∧ value / unit % 2 = 0)
  then value / unit * unit
  else (value / unit + 1) * unit

theorem nearestDouble_of_le {value : Nat} (large : 2 ^ 53 ≤ value) :
    nearestDouble value = roundTo (2 ^ (Nat.log2 value - 52)) value :=
  if_neg (Nat.not_lt_of_le large)

theorem roundTo_of_dvd {unit value : Nat} (positive : 0 < unit) (multiple : unit ∣ value) :
    roundTo unit value = value := by
  unfold roundTo
  rw [Nat.mod_eq_zero_of_dvd multiple, if_pos (.inl (by omega))]
  exact Nat.div_mul_cancel multiple

/-- Rounding stays between the two neighbouring multiples. -/
theorem roundTo_bounds (unit value : Nat) :
    value / unit * unit ≤ roundTo unit value ∧
      roundTo unit value ≤ (value / unit + 1) * unit := by
  have step : value / unit * unit ≤ (value / unit + 1) * unit :=
    Nat.mul_le_mul_right unit (Nat.le_succ _)
  unfold roundTo
  split
  · exact ⟨Nat.le_refl _, step⟩
  · exact ⟨step, Nat.le_refl _⟩

theorem roundTo_mono {unit first second : Nat} (ordered : first ≤ second) :
    roundTo unit first ≤ roundTo unit second := by
  have quotients : first / unit ≤ second / unit := Nat.div_le_div_right ordered
  rcases Nat.lt_or_eq_of_le quotients with earlier | same
  · calc
      roundTo unit first ≤ (first / unit + 1) * unit := (roundTo_bounds unit first).2
      _ ≤ second / unit * unit := Nat.mul_le_mul_right unit earlier
      _ ≤ roundTo unit second := (roundTo_bounds unit second).1
  · have remainders : first % unit ≤ second % unit := by
      have firstParts := Nat.div_add_mod first unit
      have secondParts := Nat.div_add_mod second unit
      rw [same] at firstParts
      omega
    unfold roundTo
    rw [same]
    split
    · split
      · exact Nat.le_refl _
      · exact Nat.mul_le_mul_right unit (Nat.le_succ _)
    · rename_i firstUp
      rw [if_neg]
      intro secondDown
      exact firstUp (by omega)

theorem ne_zero_of_large {value : Nat} (large : 2 ^ 53 ≤ value) : value ≠ 0 := by
  have := Nat.two_pow_pos 53
  omega

theorem two_pow_log2_add {value : Nat} (large : 2 ^ 53 ≤ value) (extra : Nat) :
    2 ^ (Nat.log2 value + extra) = 2 ^ (52 + extra) * 2 ^ (Nat.log2 value - 52) := by
  have exponent : 53 ≤ Nat.log2 value := (Nat.le_log2 (ne_zero_of_large large)).mpr large
  rw [← Nat.pow_add]
  congr 1
  omega

theorem significand_lt {value : Nat} (large : 2 ^ 53 ≤ value) :
    value / 2 ^ (Nat.log2 value - 52) < 2 ^ 53 := by
  rw [Nat.div_lt_iff_lt_mul (Nat.two_pow_pos _), ← two_pow_log2_add large 1]
  exact Nat.lt_log2_self

/-- The binade of a large number holds its rounding. -/
theorem nearestDouble_bounds {value : Nat} (large : 2 ^ 53 ≤ value) :
    2 ^ Nat.log2 value ≤ nearestDouble value ∧
      nearestDouble value ≤ 2 ^ (Nat.log2 value + 1) := by
  have lower : 2 ^ 52 ≤ value / 2 ^ (Nat.log2 value - 52) := by
    rw [Nat.le_div_iff_mul_le (Nat.two_pow_pos _), ← two_pow_log2_add large 0]
    exact Nat.log2_self_le (ne_zero_of_large large)
  rw [nearestDouble_of_le large]
  constructor
  · calc
      2 ^ Nat.log2 value = 2 ^ 52 * 2 ^ (Nat.log2 value - 52) := two_pow_log2_add large 0
      _ ≤ value / 2 ^ (Nat.log2 value - 52) * 2 ^ (Nat.log2 value - 52) :=
        Nat.mul_le_mul_right _ lower
      _ ≤ roundTo (2 ^ (Nat.log2 value - 52)) value := (roundTo_bounds _ _).1
  · calc
      roundTo (2 ^ (Nat.log2 value - 52)) value ≤
          (value / 2 ^ (Nat.log2 value - 52) + 1) * 2 ^ (Nat.log2 value - 52) :=
        (roundTo_bounds _ _).2
      _ ≤ 2 ^ 53 * 2 ^ (Nat.log2 value - 52) := Nat.mul_le_mul_right _ (significand_lt large)
      _ = 2 ^ (Nat.log2 value + 1) := (two_pow_log2_add large 1).symm

theorem nearestDouble_mono {first second : Nat} (ordered : first ≤ second) :
    nearestDouble first ≤ nearestDouble second := by
  rcases Nat.lt_or_ge second (2 ^ 53) with small | large
  · rw [nearestDouble_of_lt small, nearestDouble_of_lt (Nat.lt_of_le_of_lt ordered small)]
    exact ordered
  · have positive : second ≠ 0 := ne_zero_of_large large
    rcases Nat.lt_or_ge first (2 ^ 53) with firstSmall | firstLarge
    · rw [nearestDouble_of_lt firstSmall]
      calc
        first ≤ 2 ^ 53 := Nat.le_of_lt firstSmall
        _ ≤ 2 ^ Nat.log2 second :=
          Nat.pow_le_pow_right (by decide) ((Nat.le_log2 positive).mpr large)
        _ ≤ nearestDouble second := (nearestDouble_bounds large).1
    · have binades : Nat.log2 first ≤ Nat.log2 second := by
        rw [Nat.le_log2 positive]
        exact Nat.le_trans (Nat.log2_self_le (ne_zero_of_large firstLarge)) ordered
      rcases Nat.lt_or_eq_of_le binades with earlier | same
      · calc
          nearestDouble first ≤ 2 ^ (Nat.log2 first + 1) := (nearestDouble_bounds firstLarge).2
          _ ≤ 2 ^ Nat.log2 second := Nat.pow_le_pow_right (by decide) earlier
          _ ≤ nearestDouble second := (nearestDouble_bounds large).1
      · rw [nearestDouble_of_le firstLarge, nearestDouble_of_le large, same]
        exact roundTo_mono ordered

/-- A number with a significand of at most 53 bits is a double. -/
theorem nearestDouble_mul_two_pow {significand exponent : Nat} (fits : significand ≤ 2 ^ 53) :
    nearestDouble (significand * 2 ^ exponent) = significand * 2 ^ exponent := by
  rcases Nat.lt_or_ge (significand * 2 ^ exponent) (2 ^ 53) with small | large
  · exact nearestDouble_of_lt small
  · rw [nearestDouble_of_le large]
    apply roundTo_of_dvd (Nat.two_pow_pos _)
    by_cases binade : Nat.log2 (significand * 2 ^ exponent) - 52 ≤ exponent
    · exact (Nat.pow_dvd_pow 2 binade).trans (Nat.dvd_mul_left _ _)
    · -- The significand is `2 ^ 53` itself, and the number a power of two.
      have power : 2 ^ 53 * 2 ^ exponent ≤ significand * 2 ^ exponent := by
        calc
          2 ^ 53 * 2 ^ exponent = 2 ^ (53 + exponent) := (Nat.pow_add 2 53 exponent).symm
          _ ≤ 2 ^ Nat.log2 (significand * 2 ^ exponent) :=
            Nat.pow_le_pow_right (by decide) (by omega)
          _ ≤ significand * 2 ^ exponent := Nat.log2_self_le (ne_zero_of_large large)
      have whole : significand = 2 ^ 53 :=
        Nat.le_antisymm fits (Nat.le_of_mul_le_mul_right power (Nat.two_pow_pos _))
      rw [whole, ← Nat.pow_add, Nat.log2_two_pow]
      exact Nat.pow_dvd_pow 2 (by omega)

/-- Rounding to a double gives a double. -/
@[simp]
theorem nearestDouble_nearestDouble (value : Nat) :
    nearestDouble (nearestDouble value) = nearestDouble value := by
  rcases Nat.lt_or_ge value (2 ^ 53) with small | large
  · rw [nearestDouble_of_lt small, nearestDouble_of_lt small]
  · rw [nearestDouble_of_le large, roundTo]
    split
    · exact nearestDouble_mul_two_pow (Nat.le_of_lt (significand_lt large))
    · exact nearestDouble_mul_two_pow (significand_lt large)

theorem lt_two_pow_iff_nearestDouble {value : Nat} :
    nearestDouble value < 2 ^ 53 ↔ value < 2 ^ 53 := by
  rcases Nat.lt_or_ge value (2 ^ 53) with small | large
  · rw [nearestDouble_of_lt small]
  · have rounded : 2 ^ 53 ≤ nearestDouble value := by
      calc
        2 ^ 53 = nearestDouble (2 ^ 53) := rfl
        _ ≤ nearestDouble value := nearestDouble_mono (by omega)
    omega

theorem two_le_nearestDouble_iff (value : Nat) : 2 ≤ nearestDouble value ↔ 2 ≤ value := by
  constructor
  · intro rounded
    rcases Nat.lt_or_ge value 2 with small | atLeast
    · rw [nearestDouble_of_lt (by omega)] at rounded
      exact rounded
    · exact atLeast
  · intro atLeast
    exact nearestDouble_mono atLeast

theorem lt_two_mul_nearestDouble {value : Nat} (positive : 0 < value) :
    value < 2 * nearestDouble value := by
  rcases Nat.lt_or_ge value (2 ^ 53) with small | large
  · rw [nearestDouble_of_lt small]
    omega
  · calc
      value < 2 ^ (Nat.log2 value + 1) := Nat.lt_log2_self
      _ = 2 * 2 ^ Nat.log2 value := by rw [Nat.pow_succ, Nat.mul_comm]
      _ ≤ 2 * nearestDouble value := Nat.mul_le_mul_left 2 (nearestDouble_bounds large).1

theorem dvd_roundTo (unit value : Nat) : unit ∣ roundTo unit value := by
  unfold roundTo
  split
  · exact Nat.dvd_mul_left _ _
  · exact Nat.dvd_mul_left _ _

/-- The number after a multiple is rounded up only by a tie between multiples of two. -/
theorem lt_roundTo_succ_iff {unit value : Nat} (positive : 0 < unit) (even : 2 ∣ unit)
    (multiple : unit ∣ value) :
    value < roundTo unit (value + 1) ↔ unit = 2 ∧ value % 4 = 2 := by
  by_cases two : unit = 2
  · subst two
    unfold roundTo
    split
    · omega
    · omega
  · have remainder : (value + 1) % unit = 1 := by
      rcases multiple with ⟨quotient, rfl⟩
      rw [Nat.mul_add_mod, Nat.mod_eq_of_lt (by omega)]
    have below : (value + 1) / unit * unit = value := by
      have division := Nat.div_add_mod (value + 1) unit
      rw [remainder, Nat.mul_comm] at division
      omega
    rw [roundTo, remainder, if_pos (.inl (by omega)), below]
    omega

theorem log2_succ_of_even {value : Nat} (even : 2 ∣ value) (positive : value ≠ 0) :
    Nat.log2 (value + 1) = Nat.log2 value := by
  rw [Nat.log2_eq_iff (Nat.succ_ne_zero value)]
  constructor
  · exact Nat.le_succ_of_le (Nat.log2_self_le positive)
  · have below : value < 2 ^ (Nat.log2 value + 1) := Nat.lt_log2_self
    rw [Nat.pow_succ] at below ⊢
    omega

/-- The next number reads as a later double up to `2 ^ 53`, and in the binade from
there on where a tie is rounded up. -/
theorem nearestDouble_lt_succ_iff {value : Nat} (isDouble : nearestDouble value = value) :
    nearestDouble value < nearestDouble (value + 1) ↔
      value < 2 ^ 53 ∨ (value < 2 ^ 54 ∧ value % 4 = 2) := by
  rcases Nat.lt_or_ge value (2 ^ 53) with small | large
  · have next : nearestDouble ((value + 1) * 2 ^ 0) = (value + 1) * 2 ^ 0 :=
      nearestDouble_mul_two_pow small
    rw [Nat.pow_zero, Nat.mul_one] at next
    rw [isDouble, next]
    omega
  · have positive := ne_zero_of_large large
    have exponent : 53 ≤ Nat.log2 value := (Nat.le_log2 positive).mpr large
    have even : 2 ∣ 2 ^ (Nat.log2 value - 52) := dvd_pow_self 2 (by omega)
    have multiple : 2 ^ (Nat.log2 value - 52) ∣ value := by
      have divides := dvd_roundTo (2 ^ (Nat.log2 value - 52)) value
      rwa [← nearestDouble_of_le large, isDouble] at divides
    rw [isDouble, nearestDouble_of_le (Nat.le_succ_of_le large),
      log2_succ_of_even (even.trans multiple) positive,
      lt_roundTo_succ_iff (Nat.two_pow_pos _) even multiple]
    have unit : 2 ^ (Nat.log2 value - 52) = 2 ↔ value < 2 ^ 54 := by
      rw [← Nat.log2_lt positive]
      constructor
      · intro two
        have one := Nat.pow_right_injective (Nat.le_refl 2) (two.trans (Nat.pow_one 2).symm)
        omega
      · intro first
        have one : Nat.log2 value - 52 = 1 := by omega
        rw [one, Nat.pow_one]
    rw [unit]
    omega

/-! ## Decimal text -/

/-- The multiple of `unit` closest to a double, among those that read as it;
of two equally close ones the one with the even quotient. -/
def closestReading? (double unit : Nat) : Option Nat :=
  let low := double / unit * unit
  let high := low + unit
  if nearestDouble low = double then
    if nearestDouble high = double ∧ (high - double < double - low ∨
        (high - double = double - low ∧ double / unit % 2 = 1)) then some high
    else some low
  else if nearestDouble high = double then some high
  else none

/-- The closest numeral of a double with at least the given number of zeros at
its end, or else with as many as possible. -/
def shortestFrom (double : Nat) : Nat → Nat
  | 0 => double
  | zeros + 1 =>
      match closestReading? double (10 ^ (zeros + 1)) with
      | some numeral => numeral
      | none => shortestFrom double zeros

/-- The numeral of a double with the fewest significant digits. -/
def shortestNumeral (double : Nat) : Nat :=
  shortestFrom double (Nat.toDigits 10 double).length

/-- The exponential notation of a numeral. -/
def exponentialText (numeral : Nat) : String :=
  let digits := Nat.toDigits 10 numeral
  let exponent := "e+" ++ toString (digits.length - 1)
  match digits.rdropWhile (· = '0') with
  | [] => exponent
  | [digit] => String.ofList [digit] ++ exponent
  | digit :: fraction => String.ofList (digit :: '.' :: fraction) ++ exponent

/-- `Number::toString` of a natural number. -/
def numberText (double : Nat) : String :=
  if shortestNumeral double < 10 ^ 21 then toString (shortestNumeral double)
  else exponentialText (shortestNumeral double)

/-- `Number::toString` of an integer. -/
def integerText : Int → String
  | .ofNat double => numberText double
  | .negSucc double => "-" ++ numberText (double + 1)

example : numberText (2 ^ 69) = "590295810358705700000" := by decide +kernel
example : numberText (2 ^ 70) = "1.1805916207174113e+21" := by decide +kernel

/-! ## The shortest numeral -/

/-- How far a numeral is from a number. -/
def distance (number numeral : Nat) : Nat := (numeral - number) + (number - numeral)

/-- A multiple of `unit` that reads as a double, and the closest of them. -/
structure Closest (double unit numeral : Nat) : Prop where
  multiple : unit ∣ numeral
  reads : nearestDouble numeral = double
  closest : ∀ other, unit ∣ other → nearestDouble other = double → other ≠ numeral →
    distance double numeral < distance double other ∨
      (distance double numeral = distance double other ∧ numeral / unit % 2 = 0)

/-- A numeral with the fewest significant digits of those that read as its double,
and the closest one among them. -/
def Shortest (numeral : Nat) : Prop :=
  ∃ zeros, Closest (nearestDouble numeral) (10 ^ zeros) numeral ∧
    ∀ other, 10 ^ (zeros + 1) ∣ other → nearestDouble other ≠ nearestDouble numeral

section Closest

variable {double unit numeral other : Nat}

/-- What lies between a numeral of a double and the double reads as it too. -/
theorem reads_of_between (isDouble : nearestDouble double = double)
    (reads : nearestDouble other = double)
    (between : (other ≤ numeral ∧ numeral ≤ double) ∨ (double ≤ numeral ∧ numeral ≤ other)) :
    nearestDouble numeral = double := by
  rcases between with ⟨above, below⟩ | ⟨above, below⟩
  · have lower := nearestDouble_mono above
    have upper := nearestDouble_mono below
    omega
  · have lower := nearestDouble_mono above
    have upper := nearestDouble_mono below
    omega

theorem div_mul_le_and_lt (positive : 0 < unit) (double : Nat) :
    double / unit * unit ≤ double ∧ double < double / unit * unit + unit := by
  constructor
  · exact Nat.div_mul_le_self double unit
  · have parts := Nat.div_add_mod double unit
    have small := Nat.mod_lt double positive
    rw [Nat.mul_comm] at parts
    omega

/-- A multiple is at most the lower neighbour or at least the upper one. -/
theorem le_or_le_of_dvd (multiple : unit ∣ numeral) (double : Nat) :
    numeral ≤ double / unit * unit ∨ double / unit * unit + unit ≤ numeral := by
  rcases multiple with ⟨quotient, rfl⟩
  rcases Nat.lt_or_ge (double / unit) quotient with later | earlier
  · right
    calc
      double / unit * unit + unit = (double / unit + 1) * unit := (Nat.succ_mul _ _).symm
      _ ≤ quotient * unit := Nat.mul_le_mul_right unit later
      _ = unit * quotient := Nat.mul_comm _ _
  · left
    rw [Nat.mul_comm]
    exact Nat.mul_le_mul_right unit earlier

theorem closestReading?_eq_none (positive : 0 < unit) (isDouble : nearestDouble double = double)
    (none : closestReading? double unit = none) (multiple : unit ∣ other) :
    nearestDouble other ≠ double := by
  intro reads
  rcases div_mul_le_and_lt positive double with ⟨low, high⟩
  unfold closestReading? at none
  dsimp only at none
  split at none
  · split at none <;> cases none
  · rename_i lowReads
    split at none
    · cases none
    · rename_i highReads
      rcases le_or_le_of_dvd multiple double with below | above
      · exact lowReads (reads_of_between isDouble reads (.inl ⟨below, low⟩))
      · exact highReads (reads_of_between isDouble reads (.inr ⟨Nat.le_of_lt high, above⟩))

theorem Closest.of_closestReading? (positive : 0 < unit)
    (isDouble : nearestDouble double = double)
    (found : closestReading? double unit = some numeral) : Closest double unit numeral := by
  rcases div_mul_le_and_lt positive double with ⟨low, high⟩
  have lowMultiple : unit ∣ double / unit * unit := Nat.dvd_mul_left _ _
  have highMultiple : unit ∣ double / unit * unit + unit := Nat.dvd_add lowMultiple (Nat.dvd_refl _)
  have lowQuotient : double / unit * unit / unit = double / unit := Nat.mul_div_cancel _ positive
  have highQuotient : (double / unit * unit + unit) / unit = double / unit + 1 := by
    rw [← Nat.succ_mul, Nat.mul_div_cancel _ positive]
  unfold closestReading? at found
  dsimp only at found
  split at found
  · rename_i lowReads
    split at found
    · rename_i up
      obtain rfl := Option.some.inj found
      refine ⟨highMultiple, up.1, ?_⟩
      intro other multiple reads different
      unfold distance
      rw [highQuotient]
      rcases le_or_le_of_dvd multiple double with below | above
      · omega
      · omega
    · rename_i down
      obtain rfl := Option.some.inj found
      refine ⟨lowMultiple, lowReads, ?_⟩
      intro other multiple reads different
      unfold distance
      rw [lowQuotient]
      rcases le_or_le_of_dvd multiple double with below | above
      · omega
      · have highReads : nearestDouble (double / unit * unit + unit) = double :=
          reads_of_between isDouble reads (.inr ⟨Nat.le_of_lt high, above⟩)
        omega
  · rename_i lowUnread
    split at found
    · rename_i highReads
      obtain rfl := Option.some.inj found
      refine ⟨highMultiple, highReads, ?_⟩
      intro other multiple reads different
      unfold distance
      rcases le_or_le_of_dvd multiple double with below | above
      · exact absurd (reads_of_between isDouble reads (.inl ⟨below, low⟩)) lowUnread
      · omega
    · cases found

/-- Two closest numerals would lie on both sides with even quotients, and a closer
one between them. -/
theorem Closest.not_lt (positive : 0 < unit) (isDouble : nearestDouble double = double)
    (first : Closest double unit numeral) (second : Closest double unit other) :
    ¬numeral < other := by
  intro ordered
  have forth := first.closest other second.multiple second.reads (Nat.ne_of_gt ordered)
  have back := second.closest numeral first.multiple first.reads (Nat.ne_of_lt ordered)
  rcases first.multiple with ⟨lower, rfl⟩
  rcases second.multiple with ⟨upper, rfl⟩
  unfold distance at forth back
  have evenLower : lower % 2 = 0 := by
    rcases forth with closer | ⟨_, even⟩
    · omega
    · rwa [Nat.mul_div_cancel_left _ positive] at even
  have evenUpper : upper % 2 = 0 := by
    rcases back with closer | ⟨_, even⟩
    · omega
    · rwa [Nat.mul_div_cancel_left _ positive] at even
  have apart : lower + 2 ≤ upper := by
    have := Nat.lt_of_mul_lt_mul_left ordered
    omega
  have spread : unit * lower + 2 * unit ≤ unit * upper := by
    calc
      unit * lower + 2 * unit = unit * (lower + 2) := by ring
      _ ≤ unit * upper := Nat.mul_le_mul_left unit apart
  have reads : nearestDouble (unit * (lower + 1)) = double := by
    apply reads_of_between isDouble first.reads
    left
    rw [Nat.mul_succ]
    omega
  have between := first.closest (unit * (lower + 1)) (Nat.dvd_mul_right _ _) reads
    (by rw [Nat.mul_succ]; omega)
  unfold distance at between
  rw [Nat.mul_succ] at between
  omega

theorem Closest.unique (positive : 0 < unit) (isDouble : nearestDouble double = double)
    (first : Closest double unit numeral) (second : Closest double unit other) :
    numeral = other :=
  Nat.le_antisymm (Nat.le_of_not_lt (second.not_lt positive isDouble first))
    (Nat.le_of_not_lt (first.not_lt positive isDouble second))

/-- There is one closest numeral, and the search finds it. -/
theorem Closest.closestReading? (positive : 0 < unit) (isDouble : nearestDouble double = double)
    (closest : Closest double unit numeral) :
    closestReading? double unit = some numeral := by
  cases found : Library.closestReading? double unit with
  | none =>
      exact absurd closest.reads (closestReading?_eq_none positive isDouble found closest.multiple)
  | some best =>
      rw [closest.unique positive isDouble (.of_closestReading? positive isDouble found)]

theorem closest_self (isDouble : nearestDouble double = double) : Closest double 1 double where
  multiple := Nat.one_dvd double
  reads := isDouble
  closest := by
    intro other _ _ different
    unfold distance
    omega

end Closest

section Search

variable {double zeros numeral : Nat}

/-- What the search finds is closest among the multiples of a power of ten, and no
multiple of a higher power that the search looked at reads as the double. -/
theorem shortestFrom_spec (isDouble : nearestDouble double = double) (top : Nat) :
    ∃ zeros ≤ top, Closest double (10 ^ zeros) (shortestFrom double top) ∧
      (zeros < top → ∀ other, 10 ^ (zeros + 1) ∣ other → nearestDouble other ≠ double) := by
  induction top with
  | zero => exact ⟨0, Nat.le_refl 0, closest_self isDouble, fun less => absurd less (by omega)⟩
  | succ top ih =>
      unfold shortestFrom
      cases found : closestReading? double (10 ^ (top + 1)) with
      | some numeral =>
          refine ⟨top + 1, Nat.le_refl _, ?_, fun less => absurd less (by omega)⟩
          exact .of_closestReading? (Nat.pow_pos (by decide)) isDouble found
      | none =>
          rcases ih with ⟨zeros, bound, closest, none⟩
          refine ⟨zeros, Nat.le_succ_of_le bound, closest, ?_⟩
          intro _ other multiple
          rcases Nat.lt_or_eq_of_le bound with less | rfl
          · exact none less other multiple
          · exact closestReading?_eq_none (Nat.pow_pos (by decide)) isDouble found multiple

theorem shortestFrom_eq (isDouble : nearestDouble double = double) {top : Nat}
    (closest : Closest double (10 ^ zeros) numeral) (bound : zeros ≤ top)
    (none : ∀ other, 10 ^ (zeros + 1) ∣ other → nearestDouble other ≠ double) :
    shortestFrom double top = numeral := by
  rcases shortestFrom_spec isDouble top with ⟨found, foundBound, foundClosest, foundNone⟩
  have same : found = zeros := by
    rcases Nat.lt_trichotomy found zeros with less | same | more
    · exact absurd closest.reads (foundNone (Nat.lt_of_lt_of_le less bound) numeral
        ((Nat.pow_dvd_pow 10 less).trans closest.multiple))
    · exact same
    · exact absurd foundClosest.reads (none _
        ((Nat.pow_dvd_pow 10 more).trans foundClosest.multiple))
  subst same
  exact foundClosest.unique (Nat.pow_pos (by decide)) isDouble closest

/-- Beyond the length of a double no power of ten divides a numeral of it. -/
theorem not_reads_of_dvd (positive : 0 < double) {other : Nat}
    (multiple : 10 ^ ((Nat.toDigits 10 double).length + 1) ∣ other) :
    nearestDouble other ≠ double := by
  intro reads
  have long : double < 10 ^ (Nat.toDigits 10 double).length :=
    (Nat.length_toDigits_le_iff (by decide) Nat.length_toDigits_pos).mp (Nat.le_refl _)
  have nonzero : 0 < other := by
    rcases Nat.eq_zero_or_pos other with rfl | nonzero
    · rw [nearestDouble_of_lt (by decide)] at reads
      omega
    · exact nonzero
  have large := Nat.le_of_dvd nonzero multiple
  have near := lt_two_mul_nearestDouble nonzero
  rw [Nat.pow_succ] at large
  omega

theorem reads_shortestNumeral (isDouble : nearestDouble double = double) :
    nearestDouble (shortestNumeral double) = double := by
  rcases shortestFrom_spec isDouble (Nat.toDigits 10 double).length with ⟨_, _, closest, _⟩
  exact closest.reads

theorem one_le_shortestNumeral (isDouble : nearestDouble double = double)
    (positive : 1 ≤ double) : 1 ≤ shortestNumeral double := by
  have reads := reads_shortestNumeral isDouble
  rcases Nat.eq_zero_or_pos (shortestNumeral double) with zero | above
  · rw [zero, nearestDouble_of_lt (by decide)] at reads
    omega
  · exact above

/-- A numeral is the one its double is written as just when it is shortest. -/
theorem shortestNumeral_eq_iff (positive : 0 < numeral) :
    shortestNumeral (nearestDouble numeral) = numeral ↔ Shortest numeral := by
  have isDouble := nearestDouble_nearestDouble numeral
  have doublePositive : 0 < nearestDouble numeral := by
    have := lt_two_mul_nearestDouble positive
    omega
  constructor
  · intro written
    rcases shortestFrom_spec isDouble (Nat.toDigits 10 (nearestDouble numeral)).length with
      ⟨zeros, bound, closest, none⟩
    rw [← shortestNumeral, written] at closest
    refine ⟨zeros, closest, ?_⟩
    rcases Nat.lt_or_eq_of_le bound with less | rfl
    · exact none less
    · intro other multiple
      exact not_reads_of_dvd doublePositive multiple
  · rintro ⟨zeros, closest, none⟩
    apply shortestFrom_eq isDouble closest _ none
    by_contra beyond
    exact not_reads_of_dvd doublePositive
      ((Nat.pow_dvd_pow 10 (Nat.lt_of_not_le beyond)).trans closest.multiple) rfl

theorem shortestNumeral_of_lt (small : double < 2 ^ 53) : shortestNumeral double = double := by
  have reads := reads_shortestNumeral (nearestDouble_of_lt small)
  have written : shortestNumeral double < 2 ^ 53 := by
    rw [← lt_two_pow_iff_nearestDouble, reads]
    exact small
  rwa [nearestDouble_of_lt written] at reads

/-- Positional notation ends where the doubles reach `10 ^ 21`. -/
theorem shortestNumeral_lt_iff (isDouble : nearestDouble double = double) :
    shortestNumeral double < 10 ^ 21 ↔ double < 10 ^ 21 := by
  have reads := reads_shortestNumeral isDouble
  have power : nearestDouble (10 ^ 21) = 10 ^ 21 := by decide +kernel
  constructor
  · intro written
    have atMost := nearestDouble_mono (Nat.le_of_lt written)
    rw [reads, power] at atMost
    rcases Nat.lt_or_eq_of_le atMost with less | rfl
    · exact less
    · exact absurd written (by decide +kernel)
  · intro less
    by_contra large
    have atLeast := nearestDouble_mono (Nat.le_of_not_lt large)
    rw [reads, power] at atLeast
    omega

end Search

/-! ## What is written -/

theorem numberText_of_lt {double : Nat} (small : double < 2 ^ 53) :
    numberText double = toString double := by
  unfold numberText
  rw [shortestNumeral_of_lt small, if_pos (Nat.lt_trans small (by decide))]

theorem integerText_of_lt {value : Int} (small : value.natAbs < 2 ^ 53) :
    integerText value = toString value := by
  cases value with
  | ofNat double => exact numberText_of_lt small
  | negSucc double =>
      change "-" ++ numberText (double + 1) = "-" ++ (double + 1).repr
      have magnitude : double + 1 < 2 ^ 53 := small
      rw [numberText_of_lt magnitude]
      rfl

/-- Exponential notation shows in the text. -/
theorem mem_exponentialText (numeral : Nat) : 'e' ∈ (exponentialText numeral).toList := by
  unfold exponentialText
  dsimp only
  split <;> simp [String.toList_append]

end IndigoMatter.Library
