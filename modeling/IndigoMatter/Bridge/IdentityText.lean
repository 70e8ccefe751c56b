import IndigoMatter.Bridge.Protocol
import Mathlib.Tactic.IntervalCases

/-!
# How an identity is spelled

The text of a published identity in the parts its grammar gives it: a sign, the
digits of the device and, past the first generation, the digits of the
generation.  Both peers read an identity by this grammar, and differ in how they
read the last number, so what is said of a reading takes the rounding as a
parameter.

`publishedIdFor` writes one spelling of each identity, and `parsePublishedId`
accepts others of it too.  The two are inverse on the canonical spellings.
-/

namespace IndigoMatter.Bridge

open IndigoMatter.Library

/-! ## Digits -/

/-- A `\d+` group. -/
structure Digits (text : List Char) : Prop where
  nonempty : text ≠ []
  digits : ∀ c ∈ text, c.isDigit = true

/-- A text that does not go on with a digit. -/
def NoDigitFirst (text : List Char) : Prop := ∀ c ∈ text.head?, c.isDigit = false

theorem noDigitFirst_nil : NoDigitFirst [] := by
  intro c first
  cases first

theorem spanDigits_append {digits rest : List Char} (allDigits : ∀ c ∈ digits, c.isDigit = true)
    (ends : NoDigitFirst rest) : spanDigits (digits ++ rest) = (digits, rest) := by
  induction digits with
  | nil =>
      cases rest with
      | nil => rfl
      | cons c tail =>
          have stops := ends c rfl
          simp [spanDigits, stops]
  | cons c digits ih =>
      have first := allDigits c List.mem_cons_self
      have later := ih fun other mem => allDigits other (List.mem_cons_of_mem c mem)
      rcases Prod.mk.inj later with ⟨taken, dropped⟩
      simp [spanDigits, first, taken, dropped]

/-- What the split of a text into digits and a rest says about it. -/
theorem spanDigits_spec {text digits rest : List Char} (split : spanDigits text = (digits, rest)) :
    text = digits ++ rest ∧ (∀ c ∈ digits, c.isDigit = true) ∧ NoDigitFirst rest := by
  rcases Prod.mk.inj split with ⟨rfl, rfl⟩
  refine ⟨List.takeWhile_append_dropWhile.symm, ?_, ?_⟩
  · intro c mem
    exact List.mem_takeWhile_imp mem
  · intro c first
    rw [Option.mem_def] at first
    have stop := List.head?_dropWhile_not Char.isDigit text
    rw [first] at stop
    exact stop

theorem digitsValue_toDigits (value : Nat) : digitsValue (Nat.toDigits 10 value) = value :=
  Nat.ofDigitChars_ten_toDigits

theorem digits_toDigits (value : Nat) : Digits (Nat.toDigits 10 value) where
  nonempty := Nat.toDigits_ne_nil
  digits := fun _ mem => Nat.isDigit_of_mem_toDigits (by decide) (by decide) mem

/-- No zero before another digit. -/
def NoLeadingZero (text : List Char) : Prop := text.head? = some '0' → text = ['0']

theorem digitsValue_append (digits : List Char) (digit : Char) :
    digitsValue (digits ++ [digit]) = 10 * digitsValue digits + (digit.toNat - '0'.toNat) := by
  simp [digitsValue, List.foldl_append]

theorem digitChar_of_isDigit {digit : Char} (isDigit : digit.isDigit = true) :
    digit.toNat - '0'.toNat < 10 ∧ (digit.toNat - '0'.toNat).digitChar = digit := by
  have bounds : 48 ≤ digit.toNat ∧ digit.toNat ≤ 57 := by
    simpa [Char.isDigit, UInt32.le_iff_toNat_le] using isDigit
  rcases bounds with ⟨lower, upper⟩
  have same : Char.ofNat digit.toNat = digit := Char.ofNat_toNat digit
  generalize digit.toNat = code at lower upper same ⊢
  subst same
  interval_cases code <;> decide

/-- Without a leading zero, digits are those of their value. -/
theorem toDigits_digitsValue {text : List Char} (digits : Digits text)
    (plain : NoLeadingZero text) : Nat.toDigits 10 (digitsValue text) = text := by
  induction text using List.reverseRecOn with
  | nil => exact absurd rfl digits.nonempty
  | append_singleton front last ih =>
      rcases digitChar_of_isDigit (digits.digits last (by simp)) with ⟨small, char⟩
      rw [digitsValue_append]
      by_cases single : front = []
      · subst single
        change Nat.toDigits 10 (10 * 0 + _) = _
        rw [Nat.mul_zero, Nat.zero_add, Nat.toDigits_of_lt_base small, char]
        rfl
      · have first : (front ++ [last]).head? = front.head? := by
          cases front with
          | nil => exact absurd rfl single
          | cons c tail => rfl
        have unzeroed : front.head? ≠ some '0' := by
          intro zero
          have alone := plain (first.trans zero)
          have length := congrArg List.length alone
          rw [List.length_append] at length
          have := List.length_pos_of_ne_nil single
          simp only [List.length_singleton] at length
          omega
        have written := ih ⟨single, fun c mem => digits.digits c (List.mem_append_left _ mem)⟩
          fun zero => absurd zero unzeroed
        have positive : 0 < digitsValue front := by
          rcases Nat.eq_zero_or_pos (digitsValue front) with zero | positive
          · rw [zero] at written
            rw [← written] at unzeroed
            exact absurd rfl unzeroed
          · exact positive
        rw [← Nat.toDigits_append_toDigits (by decide) positive small, written,
          Nat.toDigits_of_lt_base small, char]

theorem noLeadingZero_toDigits (value : Nat) : NoLeadingZero (Nat.toDigits 10 value) := by
  induction value using Nat.strongRecOn with
  | ind value ih =>
      intro zero
      rcases Nat.lt_or_ge value 10 with small | large
      · rw [Nat.toDigits_of_lt_base small] at zero ⊢
        rw [Option.some.inj zero]
      · rw [Nat.toDigits_of_base_le (by decide) large] at zero
        have front : (Nat.toDigits 10 (value / 10)).head? = some '0' := by
          cases shape : Nat.toDigits 10 (value / 10) with
          | nil => exact absurd shape Nat.toDigits_ne_nil
          | cons c tail =>
              rw [shape] at zero
              exact zero
        have alone := ih (value / 10) (by omega) front
        have empty := digitsValue_toDigits (value / 10)
        rw [alone] at empty
        change 0 = value / 10 at empty
        omega

/-! ## The two groups of the grammar -/

/-- The sign of a device id. -/
def signText (negative : Bool) : List Char := if negative then ['-'] else []

/-- The value of a signed group. -/
def signedValue (negative : Bool) (digits : List Char) : Int :=
  if negative then -(digitsValue digits : Int) else digitsValue digits

theorem not_isDigit_minus {text : List Char} (digits : Digits text) :
    text.head? ≠ some '-' := by
  intro minus
  have mem : '-' ∈ text := List.mem_of_head? minus
  exact absurd (digits.digits _ mem) (by decide)

theorem parseSigned_append {negative : Bool} {digits rest : List Char} (group : Digits digits)
    (ends : NoDigitFirst rest) :
    parseSigned (signText negative ++ (digits ++ rest)) =
      some (signedValue negative digits, rest) := by
  have span := spanDigits_append group.digits ends
  unfold parseSigned
  cases negative with
  | true => simp [signText, signedValue, span, group.nonempty]
  | false =>
      have unsigned : (digits ++ rest).head? ≠ some '-' := by
        rw [List.head?_append_of_ne_nil _ group.nonempty]
        exact not_isDigit_minus group
      have plain : signText false ++ (digits ++ rest) = digits ++ rest := rfl
      rw [plain]
      simp only [unsigned, if_false, span, group.nonempty]
      rfl

theorem parseSigned_spec {text rest : List Char} {value : Int}
    (read : parseSigned text = some (value, rest)) :
    ∃ negative digits, Digits digits ∧ NoDigitFirst rest ∧
      text = signText negative ++ (digits ++ rest) ∧ value = signedValue negative digits := by
  unfold parseSigned at read
  dsimp only at read
  cases split : spanDigits (if text.head? = some '-' then text.tail else text) with
  | mk digits after =>
      rw [split] at read
      rcases spanDigits_spec split with ⟨parts, allDigits, ends⟩
      by_cases empty : digits = []
      · rw [if_pos empty] at read
        cases read
      · rw [if_neg empty] at read
        rcases Prod.mk.inj (Option.some.inj read) with ⟨rfl, rfl⟩
        by_cases negative : text.head? = some '-'
        · rw [if_pos negative] at parts ⊢
          refine ⟨true, digits, ⟨empty, allDigits⟩, ends, ?_, rfl⟩
          rw [← parts]
          exact (List.cons_head?_tail negative).symm
        · rw [if_neg negative] at parts ⊢
          exact ⟨false, digits, ⟨empty, allDigits⟩, ends, parts, rfl⟩

/-- The generation tail, under a rounding of its number. -/
def readGeneration (round : Nat → Nat) (text : List Char) : Option Nat :=
  match text with
  | [] => some 1
  | '~' :: tail =>
      let (digits, rest) := spanDigits tail
      let generation := round (digitsValue digits)
      if digits ≠ [] ∧ rest = [] ∧ 2 ≤ generation then some generation else none
  | _ => none

/-- How a generation is spelled: not at all when it is the first. -/
def tailText (later : Option (List Char)) : List Char :=
  match later with
  | none => []
  | some digits => '~' :: digits

/-- The generation that a tail spells. -/
def tailValue (later : Option (List Char)) : Nat :=
  match later with
  | none => 1
  | some digits => digitsValue digits

theorem noDigitFirst_tailText (later : Option (List Char)) : NoDigitFirst (tailText later) := by
  cases later with
  | none => exact noDigitFirst_nil
  | some digits =>
      intro c first
      obtain rfl : '~' = c := Option.some.inj first
      rfl

theorem readGeneration_tailText {round : Nat → Nat} {later : Option (List Char)}
    (one : round 1 = 1) (lawful : ∀ digits, later = some digits →
      Digits digits ∧ 2 ≤ round (digitsValue digits)) :
    readGeneration round (tailText later) = some (round (tailValue later)) := by
  cases later with
  | none => exact congrArg some one.symm
  | some digits =>
      rcases lawful digits rfl with ⟨group, later⟩
      have span := spanDigits_append group.digits noDigitFirst_nil
      rw [List.append_nil] at span
      simp only [readGeneration, tailText, tailValue, span, group.nonempty, later, ne_eq,
        not_false_eq_true, and_self, if_true]

theorem readGeneration_spec {round : Nat → Nat} {text : List Char} {generation : Nat}
    (one : round 1 = 1) (read : readGeneration round text = some generation) :
    ∃ later, text = tailText later ∧ generation = round (tailValue later) ∧
      ∀ digits, later = some digits → Digits digits ∧ 2 ≤ round (digitsValue digits) := by
  unfold readGeneration at read
  split at read
  · obtain rfl := Option.some.inj read
    exact ⟨none, rfl, one.symm, fun _ none => by cases none⟩
  · rename_i tail
    cases split : spanDigits tail with
    | mk digits rest =>
        rw [split] at read
        rcases spanDigits_spec split with ⟨parts, allDigits, -⟩
        dsimp only at read
        split at read
        · rename_i holds
          rcases holds with ⟨nonempty, rfl, later⟩
          obtain rfl := Option.some.inj read
          rw [List.append_nil] at parts
          refine ⟨some digits, congrArg _ parts, rfl, ?_⟩
          intro other same
          obtain rfl := Option.some.inj same
          exact ⟨⟨nonempty, allDigits⟩, later⟩
        · cases read
  · cases read

/-! ## Spellings -/

/-- One way to write an identity. -/
structure Spelling where
  negative : Bool
  digits : List Char
  later : Option (List Char)

namespace Spelling

/-- The text of a spelling. -/
def text (spelling : Spelling) : List Char :=
  PUBLISHED_ID_PREFIX.toList ++
    (signText spelling.negative ++ (spelling.digits ++ tailText spelling.later))

/-- The device a spelling names. -/
def deviceId (spelling : Spelling) : Int := signedValue spelling.negative spelling.digits

/-- The generation a spelling names, whatever its size. -/
def generation (spelling : Spelling) : Nat := tailValue spelling.later

/-- The spellings of the grammar whose numbers are in range. -/
structure Lawful (spelling : Spelling) : Prop where
  digits : Digits spelling.digits
  safe : digitsValue spelling.digits ≤ MAX_SAFE_INTEGER
  later : ∀ digits, spelling.later = some digits → Digits digits ∧ 2 ≤ digitsValue digits

theorem Lawful.one_le_generation {spelling : Spelling} (lawful : spelling.Lawful) :
    1 ≤ spelling.generation := by
  unfold generation
  cases shape : spelling.later with
  | none => exact Nat.le_refl 1
  | some digits => exact Nat.le_of_succ_le (lawful.later digits shape).2

theorem natAbs_deviceId (spelling : Spelling) :
    spelling.deviceId.natAbs = digitsValue spelling.digits := by
  unfold deviceId signedValue
  cases spelling.negative <;> simp

end Spelling

/-- `parsePublishedId`, under a rounding of the generation. -/
def readIdentity (round : Nat → Nat) (value : String) : Option PublishedId :=
  if PUBLISHED_ID_MAX < value.length then none
  else if PUBLISHED_ID_PREFIX.toList.isPrefixOf value.toList then
    match parseSigned (value.toList.drop PUBLISHED_ID_PREFIX.length) with
    | none => none
    | some (deviceId, rest) =>
        if MAX_SAFE_INTEGER < deviceId.natAbs then none
        else (readGeneration round rest).map fun generation => ⟨deviceId, generation⟩
  else none

theorem parsePublishedId_eq (value : String) :
    parsePublishedId value = readIdentity nearestDouble value := rfl

/-- A rounding that keeps the first generation apart from the later ones. -/
structure KeepsFirst (round : Nat → Nat) : Prop where
  one : round 1 = 1
  later : ∀ value, 2 ≤ round value ↔ 2 ≤ value

theorem keepsFirst_nearestDouble : KeepsFirst nearestDouble := ⟨rfl, two_le_nearestDouble_iff⟩

theorem keepsFirst_id : KeepsFirst id := ⟨rfl, fun _ => Iff.rfl⟩

/-- A text is accepted just when it is a lawful spelling of no more than the cap, and
read as what it spells. -/
theorem readIdentity_eq_some_iff {round : Nat → Nat} (keeps : KeepsFirst round)
    {value : String} {parsed : PublishedId} :
    readIdentity round value = some parsed ↔
      value.length ≤ PUBLISHED_ID_MAX ∧ ∃ spelling : Spelling, spelling.Lawful ∧
        spelling.text = value.toList ∧
        parsed = ⟨spelling.deviceId, round spelling.generation⟩ := by
  constructor
  · intro read
    unfold readIdentity at read
    split at read
    · cases read
    · rename_i fits
      split at read
      · rename_i prefixed
        rcases List.isPrefixOf_iff_prefix.mp prefixed with ⟨rest, parts⟩
        have dropped : value.toList.drop PUBLISHED_ID_PREFIX.length = rest := by
          rw [← parts]
          rfl
        rw [dropped] at read
        split at read
        · cases read
        · rename_i deviceId tail signed
          split at read
          · cases read
          · rename_i safe
            rcases Option.map_eq_some_iff.mp read with ⟨generation, tailRead, rfl⟩
            rcases parseSigned_spec signed with ⟨negative, digits, group, -, text, rfl⟩
            rcases readGeneration_spec keeps.one tailRead with ⟨later, rfl, rfl, lawful⟩
            refine ⟨Nat.le_of_not_lt fits, ⟨negative, digits, later⟩, ?_, ?_, rfl⟩
            · refine ⟨group, ?_, ?_⟩
              · have bound := Nat.le_of_not_lt safe
                rw [← Spelling.natAbs_deviceId ⟨negative, digits, later⟩]
                exact bound
              · intro other same
                exact ⟨(lawful other same).1, (keeps.later _).mp (lawful other same).2⟩
            · rw [← parts, text]
              rfl
      · cases read
  · rintro ⟨fits, spelling, lawful, text, rfl⟩
    have prefixed : PUBLISHED_ID_PREFIX.toList.isPrefixOf value.toList = true := by
      rw [← text, List.isPrefixOf_iff_prefix]
      exact List.prefix_append _ _
    have dropped : value.toList.drop PUBLISHED_ID_PREFIX.length =
        signText spelling.negative ++ (spelling.digits ++ tailText spelling.later) := by
      rw [← text]
      rfl
    have safe : ¬MAX_SAFE_INTEGER < (signedValue spelling.negative spelling.digits).natAbs := by
      have same := spelling.natAbs_deviceId
      rw [Spelling.deviceId] at same
      rw [same]
      exact Nat.not_lt_of_le lawful.safe
    have tail : readGeneration round (tailText spelling.later) =
        some (round (tailValue spelling.later)) :=
      readGeneration_tailText keeps.one fun digits same =>
        ⟨(lawful.later digits same).1, (keeps.later _).mpr (lawful.later digits same).2⟩
    unfold readIdentity
    rw [if_neg (Nat.not_lt_of_le fits), if_pos prefixed, dropped,
      parseSigned_append lawful.digits (noDigitFirst_tailText _)]
    dsimp only
    rw [if_neg safe, tail]
    rfl

/-! ## Formatting -/

namespace Spelling

/-- The spelling of an identity in plain decimal. -/
def plain (deviceId : Int) (generation : Nat) : Spelling where
  negative := decide (deviceId < 0)
  digits := Nat.toDigits 10 deviceId.natAbs
  later := if generation = 1 then none else some (Nat.toDigits 10 generation)

theorem deviceId_plain (deviceId : Int) (generation : Nat) :
    (plain deviceId generation).deviceId = deviceId := by
  change (if decide (deviceId < 0) then -(digitsValue (Nat.toDigits 10 deviceId.natAbs) : Int)
    else digitsValue (Nat.toDigits 10 deviceId.natAbs)) = deviceId
  rw [digitsValue_toDigits]
  split
  · rename_i negative
    have := of_decide_eq_true negative
    omega
  · rename_i negative
    have := of_decide_eq_false (Bool.eq_false_iff.mpr negative)
    omega

theorem generation_plain (deviceId : Int) (generation : Nat) :
    (plain deviceId generation).generation = generation := by
  unfold Spelling.generation plain
  dsimp only
  split
  · rename_i one
    exact one.symm
  · exact digitsValue_toDigits generation

theorem lawful_plain {deviceId : Int} {generation : Nat}
    (safe : deviceId.natAbs ≤ MAX_SAFE_INTEGER) (positive : 1 ≤ generation) :
    (plain deviceId generation).Lawful where
  digits := digits_toDigits _
  safe := by
    unfold plain
    rwa [digitsValue_toDigits]
  later := by
    intro digits same
    unfold plain at same
    dsimp only at same
    split at same
    · cases same
    · obtain rfl := Option.some.inj same
      refine ⟨digits_toDigits _, ?_⟩
      rw [digitsValue_toDigits]
      omega

theorem toList_toString (deviceId : Int) :
    (toString deviceId).toList =
      signText (decide (deviceId < 0)) ++ Nat.toDigits 10 deviceId.natAbs := by
  cases deviceId with
  | ofNat value => exact Nat.toList_repr
  | negSucc value =>
      change ("-" ++ (value + 1).repr).toList = _
      have negative : decide (Int.negSucc value < 0) = true :=
        decide_eq_true (Int.negSucc_lt_zero value)
      rw [String.toList_append, Nat.toList_repr, negative]
      rfl

theorem text_plain (deviceId : Int) (generation : Nat) :
    (plain deviceId generation).text = PUBLISHED_ID_PREFIX.toList ++
      ((toString deviceId).toList ++
        if generation = 1 then [] else '~' :: (toString generation).toList) := by
  have digits : (toString generation).toList = Nat.toDigits 10 generation := Nat.toList_repr
  rw [toList_toString, digits, List.append_assoc]
  unfold Spelling.text plain
  dsimp only
  by_cases one : generation = 1
  · rw [if_pos one, if_pos one]
    rfl
  · rw [if_neg one, if_neg one]
    rfl

end Spelling

theorem toList_publishedIdFor (deviceId : Int) (generation : Nat) :
    (publishedIdFor deviceId generation).toList = PUBLISHED_ID_PREFIX.toList ++
      ((integerText deviceId).toList ++
        if generation = 1 then [] else '~' :: (numberText generation).toList) := by
  unfold publishedIdFor
  split
  · rw [String.toList_append, List.append_nil]
  · simp only [String.toList_append, List.append_assoc]
    rfl

/-- Positional notation writes a generation as its shortest numeral. -/
theorem toList_publishedIdFor_plain {deviceId : Int} {generation : Nat}
    (safe : deviceId.natAbs ≤ MAX_SAFE_INTEGER) (isDouble : nearestDouble generation = generation)
    (positional : generation < 10 ^ 21) :
    (publishedIdFor deviceId generation).toList =
      (Spelling.plain deviceId (shortestNumeral generation)).text := by
  have small : deviceId.natAbs < 2 ^ 53 := Nat.lt_of_le_of_lt safe (by decide)
  have first : shortestNumeral generation = 1 ↔ generation = 1 := by
    constructor
    · intro one
      have reads := reads_shortestNumeral isDouble
      rw [one] at reads
      exact reads.symm
    · rintro rfl
      exact shortestNumeral_of_lt (by decide)
  rw [toList_publishedIdFor, Spelling.text_plain, integerText_of_lt small, numberText,
    if_pos ((shortestNumeral_lt_iff isDouble).mpr positional)]
  simp only [first]

/-- A generation in exponential notation leaves the grammar. -/
theorem not_readIdentity_exponential {round : Nat → Nat} (keeps : KeepsFirst round)
    {deviceId : Int} {generation : Nat} (isDouble : nearestDouble generation = generation)
    (exponential : 10 ^ 21 ≤ generation) {parsed : PublishedId} :
    readIdentity round (publishedIdFor deviceId generation) ≠ some parsed := by
  intro read
  rcases (readIdentity_eq_some_iff keeps).mp read with ⟨-, spelling, lawful, text, -⟩
  have written : 'e' ∈ (numberText generation).toList := by
    rw [numberText, if_neg]
    · exact mem_exponentialText _
    · rw [shortestNumeral_lt_iff isDouble]
      exact Nat.not_lt_of_le exponential
  have later : generation ≠ 1 := by omega
  have mem : 'e' ∈ spelling.text := by
    rw [text, toList_publishedIdFor, if_neg later]
    simp [written]
  have undigit (digits : List Char) (group : Digits digits) : 'e' ∉ digits := by
    intro mem
    exact absurd (group.digits _ mem) (by decide)
  unfold Spelling.text at mem
  rcases List.mem_append.mp mem with prefixed | mem
  · exact absurd prefixed (by decide)
  · rcases List.mem_append.mp mem with sign | mem
    · cases negative : spelling.negative <;> simp [signText, negative] at sign
    · rcases List.mem_append.mp mem with device | tail
      · exact undigit _ lawful.digits device
      · cases shape : spelling.later with
        | none => simp [tailText, shape] at tail
        | some digits =>
            rw [shape] at tail
            rcases List.mem_cons.mp tail with tilde | mem
            · exact absurd tilde (by decide)
            · exact undigit _ (lawful.later digits shape).1 mem

/-! ## Canonical spellings -/

/-- The spellings `publishedIdFor` writes: no leading zero, no minus zero, and the
generation as the shortest numeral of its double, in positional notation. -/
structure Spelling.Canonical (spelling : Spelling) : Prop where
  lawful : spelling.Lawful
  digits : NoLeadingZero spelling.digits
  signed : spelling.negative = true → spelling.digits ≠ ['0']
  later : ∀ digits, spelling.later = some digits → NoLeadingZero digits ∧
    nearestDouble (digitsValue digits) < 10 ^ 21 ∧ Shortest (digitsValue digits)

/-- A text in the canonical spelling. -/
def Canonical (value : String) : Prop :=
  ∃ spelling : Spelling, spelling.Canonical ∧ spelling.text = value.toList

/-- A canonical spelling is the plain one of what it names. -/
theorem Spelling.Canonical.eq_plain {spelling : Spelling} (canonical : spelling.Canonical) :
    spelling = .plain spelling.deviceId spelling.generation := by
  have device := toDigits_digitsValue canonical.lawful.digits canonical.digits
  have sign : spelling.negative = decide (spelling.deviceId < 0) := by
    cases negative : spelling.negative with
    | false =>
        have named : spelling.deviceId = digitsValue spelling.digits := by
          rw [Spelling.deviceId, negative]
          rfl
        rw [named]
        exact (decide_eq_false (by omega)).symm
    | true =>
        have nonzero : digitsValue spelling.digits ≠ 0 := by
          intro zero
          rw [zero] at device
          exact canonical.signed negative device.symm
        have named : spelling.deviceId = -(digitsValue spelling.digits : Int) := by
          rw [Spelling.deviceId, negative]
          rfl
        rw [named]
        exact (decide_eq_true (by omega)).symm
  have later : spelling.later = (if spelling.generation = 1 then none
      else some (Nat.toDigits 10 spelling.generation)) := by
    cases shape : spelling.later with
    | none =>
        rw [Spelling.generation, shape]
        rfl
    | some digits =>
        rcases canonical.lawful.later digits shape with ⟨group, atLeast⟩
        have named : spelling.generation = digitsValue digits := by
          rw [Spelling.generation, shape]
          rfl
        rw [named, if_neg (by omega), toDigits_digitsValue group (canonical.later digits shape).1]
  unfold Spelling.plain
  rw [← sign, ← later, spelling.natAbs_deviceId, device]

/-- What the formatter writes in positional notation is canonical. -/
theorem canonical_publishedIdFor {deviceId : Int} {generation : Nat}
    (safe : deviceId.natAbs ≤ MAX_SAFE_INTEGER) (positive : 1 ≤ generation)
    (isDouble : nearestDouble generation = generation) (positional : generation < 10 ^ 21) :
    Canonical (publishedIdFor deviceId generation) := by
  have reads := reads_shortestNumeral isDouble
  have numeralPositive := one_le_shortestNumeral isDouble positive
  refine ⟨.plain deviceId (shortestNumeral generation), ?_,
    (toList_publishedIdFor_plain safe isDouble positional).symm⟩
  refine ⟨Spelling.lawful_plain safe numeralPositive, noLeadingZero_toDigits _, ?_, ?_⟩
  · intro negative zero
    have below : deviceId < 0 := of_decide_eq_true negative
    have magnitude := digitsValue_toDigits deviceId.natAbs
    change Nat.toDigits 10 deviceId.natAbs = ['0'] at zero
    rw [zero] at magnitude
    change 0 = deviceId.natAbs at magnitude
    omega
  · intro digits same
    unfold Spelling.plain at same
    dsimp only at same
    split at same
    · cases same
    · obtain rfl := Option.some.inj same
      rw [digitsValue_toDigits, reads, ← shortestNumeral_eq_iff numeralPositive, reads]
      exact ⟨noLeadingZero_toDigits _, positional, rfl⟩

/-- The formatter writes a canonical text again. -/
theorem publishedIdFor_of_canonical {value : String} {parsed : PublishedId}
    (accepted : parsePublishedId value = some parsed) (canonical : Canonical value) :
    publishedIdFor parsed.deviceId parsed.generation = value := by
  rcases canonical with ⟨spelling, canonical, text⟩
  rw [parsePublishedId_eq] at accepted
  have fits := ((readIdentity_eq_some_iff keepsFirst_nearestDouble).mp accepted).1
  have read : readIdentity nearestDouble value =
      some ⟨spelling.deviceId, nearestDouble spelling.generation⟩ :=
    (readIdentity_eq_some_iff keepsFirst_nearestDouble).mpr
      ⟨fits, spelling, canonical.lawful, text, rfl⟩
  obtain rfl := Option.some.inj (accepted.symm.trans read)
  have safe : spelling.deviceId.natAbs ≤ MAX_SAFE_INTEGER := by
    rw [spelling.natAbs_deviceId]
    exact canonical.lawful.safe
  have written : nearestDouble spelling.generation < 10 ^ 21 ∧
      shortestNumeral (nearestDouble spelling.generation) = spelling.generation := by
    cases shape : spelling.later with
    | none =>
        have named : spelling.generation = 1 := by
          rw [Spelling.generation, shape]
          rfl
        rw [named]
        exact ⟨by decide, shortestNumeral_of_lt (by decide)⟩
    | some digits =>
        have named : spelling.generation = digitsValue digits := by
          rw [Spelling.generation, shape]
          rfl
        rcases canonical.later digits shape with ⟨-, positional, shortest⟩
        have atLeast := (canonical.lawful.later digits shape).2
        rw [named]
        exact ⟨positional, (shortestNumeral_eq_iff (by omega)).mpr shortest⟩
  apply String.toList_injective
  rw [toList_publishedIdFor_plain safe (nearestDouble_nearestDouble _) written.1, written.2,
    ← canonical.eq_plain, text]

theorem parsed_bounds {value : String} {parsed : PublishedId}
    (accepted : parsePublishedId value = some parsed) :
    parsed.deviceId.natAbs ≤ MAX_SAFE_INTEGER ∧ 1 ≤ parsed.generation ∧
      nearestDouble parsed.generation = parsed.generation := by
  rcases (readIdentity_eq_some_iff keepsFirst_nearestDouble).mp accepted with
    ⟨-, spelling, lawful, -, rfl⟩
  refine ⟨?_, ?_, nearestDouble_nearestDouble _⟩
  · rw [spelling.natAbs_deviceId]
    exact lawful.safe
  · exact keepsFirst_nearestDouble.one ▸ nearestDouble_mono lawful.one_le_generation

/-- Formatting undoes parsing on the canonical spellings and no others, so that of
those no two denote one identity; and parsing undoes formatting until the
generation reaches exponential notation. -/
theorem publishedIdFor_inverse_iff (value other : String) (parsed : PublishedId)
    (deviceId : Int) (generation : Nat) :
    (parsePublishedId value = some parsed →
      (publishedIdFor parsed.deviceId parsed.generation = value ↔ Canonical value)) ∧
    (parsePublishedId value = some parsed → parsePublishedId other = some parsed →
      Canonical value → Canonical other → value = other) ∧
    (deviceId.natAbs ≤ MAX_SAFE_INTEGER → 1 ≤ generation →
      nearestDouble generation = generation →
      (publishedIdFor deviceId generation).length ≤ PUBLISHED_ID_MAX →
      (parsePublishedId (publishedIdFor deviceId generation) = some ⟨deviceId, generation⟩ ↔
        generation < 10 ^ 21)) := by
  refine ⟨?_, ?_, ?_⟩
  · intro accepted
    constructor
    · intro same
      rcases parsed_bounds accepted with ⟨safe, positive, isDouble⟩
      rw [← same]
      apply canonical_publishedIdFor safe positive isDouble
      by_contra exponential
      rw [← same] at accepted
      exact not_readIdentity_exponential keepsFirst_nearestDouble isDouble
        (Nat.le_of_not_lt exponential) accepted
    · exact publishedIdFor_of_canonical accepted
  · intro accepted otherAccepted canonical otherCanonical
    rw [← publishedIdFor_of_canonical accepted canonical,
      ← publishedIdFor_of_canonical otherAccepted otherCanonical]
  · intro safe positive isDouble fits
    constructor
    · intro accepted
      by_contra exponential
      exact not_readIdentity_exponential keepsFirst_nearestDouble isDouble
        (Nat.le_of_not_lt exponential) accepted
    · intro positional
      rw [parsePublishedId_eq, readIdentity_eq_some_iff keepsFirst_nearestDouble]
      refine ⟨fits, .plain deviceId (shortestNumeral generation), ?_, ?_, ?_⟩
      · exact Spelling.lawful_plain safe (one_le_shortestNumeral isDouble positive)
      · exact (toList_publishedIdFor_plain safe isDouble positional).symm
      · rw [Spelling.deviceId_plain, Spelling.generation_plain, reads_shortestNumeral isDouble]

theorem publishedIdFor_inverse_second :
    Canonical "indigo-7~2" ∧ parsePublishedId (publishedIdFor 7 2) = some ⟨7, 2⟩ :=
  have inverse := publishedIdFor_inverse_iff "indigo-7~2" "indigo-7~2" ⟨7, 2⟩ 7 2
  ⟨(inverse.1 (by decide +kernel)).mp (by decide +kernel),
    (inverse.2.2 (by decide) (by decide) (by decide) (by decide +kernel)).mpr (by decide)⟩

/-- A leading zero is read and not written, and a generation of `10 ^ 21` is written
and not read. -/
theorem not_publishedIdFor_inverse :
    (¬∀ value parsed, parsePublishedId value = some parsed →
      publishedIdFor parsed.deviceId parsed.generation = value) ∧
    (¬∀ first second parsed, parsePublishedId first = some parsed →
      parsePublishedId second = some parsed → first = second) ∧
    ¬∀ deviceId generation, deviceId.natAbs ≤ MAX_SAFE_INTEGER → 1 ≤ generation →
      nearestDouble generation = generation →
      (publishedIdFor deviceId generation).length ≤ PUBLISHED_ID_MAX →
      parsePublishedId (publishedIdFor deviceId generation) = some ⟨deviceId, generation⟩ := by
  refine ⟨?_, ?_, ?_⟩
  · intro inverse
    exact absurd (inverse "indigo-007" ⟨7, 1⟩ (by decide +kernel)) (by decide +kernel)
  · intro injective
    exact absurd (injective "indigo-007" "indigo-7" ⟨7, 1⟩ (by decide +kernel)
      (by decide +kernel)) (by decide)
  · intro inverse
    exact absurd (inverse 7 (10 ^ 21) (by decide) (by decide) (by decide +kernel)
      (by decide +kernel)) (by decide +kernel)

end IndigoMatter.Bridge
