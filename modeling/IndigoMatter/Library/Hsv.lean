import Mathlib.Algebra.Order.Round
import Mathlib.Tactic.FieldSimp
import Mathlib.Tactic.Linarith
import Mathlib.Tactic.Ring

/-!
# Hue, saturation and value

The conversions of `colorsys` over an ordered field with a floor, so that they are exact
and, over the rationals, executable.  A colour is an arrangement of a highest, a middle and
a lowest channel by the sextant its hue lies in, and both conversions are stated in that
form: the hue says how far the middle channel falls below the highest one, as a fraction of
the chroma.
-/

namespace IndigoMatter.Library

universe u v

/-! ## Rounding -/

section Round

variable {K : Type u} [Field K] [LinearOrder K] [FloorRing K]

/-- The nearest integer; the even one of two that are equally near. -/
def roundHalfEven (x : K) : ℤ :=
  if Int.fract x < 1 / 2 then ⌊x⌋
  else if 1 / 2 < Int.fract x then ⌊x⌋ + 1
  else if ⌊x⌋ % 2 = 0 then ⌊x⌋ else ⌊x⌋ + 1

theorem floor_le_roundHalfEven (x : K) : ⌊x⌋ ≤ roundHalfEven x := by
  unfold roundHalfEven
  split_ifs <;> omega

theorem roundHalfEven_le_floor_add_one (x : K) : roundHalfEven x ≤ ⌊x⌋ + 1 := by
  unfold roundHalfEven
  split_ifs <;> omega

variable [IsStrictOrderedRing K]

@[simp]
theorem roundHalfEven_intCast (n : ℤ) : roundHalfEven (n : K) = n := by
  simp [roundHalfEven]

theorem roundHalfEven_mono {x y : K} (le : x ≤ y) : roundHalfEven x ≤ roundHalfEven y := by
  rcases (Int.floor_mono le).lt_or_eq with apart | same
  · calc
      roundHalfEven x ≤ ⌊x⌋ + 1 := roundHalfEven_le_floor_add_one x
      _ ≤ ⌊y⌋ := apart
      _ ≤ roundHalfEven y := floor_le_roundHalfEven y
  · have fractions : Int.fract x ≤ Int.fract y := by
      rw [Int.fract, Int.fract, same]
      exact sub_le_sub_right le _
    unfold roundHalfEven
    rw [same]
    split_ifs
    all_goals first | omega | linarith

end Round

/-! ## Arrangements -/

/-- A colour by its three channels. -/
@[ext]
structure Rgb (α : Type u) where
  red : α
  green : α
  blue : α
deriving DecidableEq, Repr

namespace Rgb

variable {α : Type u} {β : Type v}

def map (f : α → β) (colour : Rgb α) : Rgb β :=
  ⟨f colour.red, f colour.green, f colour.blue⟩

/-- The colour of a sextant of the wheel with the given highest, middle and lowest channel. -/
def arrange (sextant : ℤ) (high middle low : α) : Rgb α :=
  if sextant % 6 = 0 then ⟨high, middle, low⟩
  else if sextant % 6 = 1 then ⟨middle, high, low⟩
  else if sextant % 6 = 2 then ⟨low, high, middle⟩
  else if sextant % 6 = 3 then ⟨low, middle, high⟩
  else if sextant % 6 = 4 then ⟨middle, low, high⟩
  else ⟨high, low, middle⟩

theorem map_arrange (f : α → β) (sextant : ℤ) (high middle low : α) :
    (arrange sextant high middle low).map f =
      arrange sextant (f high) (f middle) (f low) := by
  unfold arrange
  split_ifs <;> rfl

theorem map_injective {f : α → β} (injective : Function.Injective f) :
    Function.Injective (map f) := by
  intro first second same
  simp only [map, mk.injEq] at same
  exact Rgb.ext (injective same.1) (injective same.2.1) (injective same.2.2)

theorem arrange_emod (sextant : ℤ) (high middle low : α) :
    arrange (sextant % 6) high middle low = arrange sextant high middle low := by
  simp only [arrange, Int.emod_emod_of_dvd _ (dvd_refl 6)]

/-- The sextants, by their residue. -/
theorem sextant_cases (sextant : ℤ) : sextant % 6 = 0 ∨ sextant % 6 = 1 ∨ sextant % 6 = 2 ∨
    sextant % 6 = 3 ∨ sextant % 6 = 4 ∨ sextant % 6 = 5 := by
  omega

@[simp]
theorem arrange_inj {sextant : ℤ} {high middle low middle' : α} :
    arrange sextant high middle low = arrange sextant high middle' low ↔ middle = middle' := by
  unfold arrange
  split_ifs <;> simp

@[simp]
theorem arrange_grey (sextant : ℤ) (level : α) :
    arrange sextant level level level = ⟨level, level, level⟩ := by
  unfold arrange
  split_ifs <;> rfl

end Rgb

section Channels

variable {K : Type u} [LinearOrder K]

/-- `max(r, g, b)`. -/
def Rgb.highest (colour : Rgb K) : K := max (max colour.red colour.green) colour.blue

/-- `min(r, g, b)`. -/
def Rgb.lowest (colour : Rgb K) : K := min (min colour.red colour.green) colour.blue

/-- Every colour is an arrangement of its channels. -/
theorem Rgb.exists_arrange (colour : Rgb K) :
    ∃ sextant middle, colour.lowest ≤ middle ∧ middle ≤ colour.highest ∧
      colour = arrange sextant colour.highest middle colour.lowest := by
  rcases colour with ⟨red, green, blue⟩
  simp only [Rgb.highest, Rgb.lowest]
  rcases le_total red green with rg | gr
  · rcases le_total green blue with gb | bg
    · exact ⟨3, green, by simp [*, rg.trans gb, arrange]⟩
    · rcases le_total red blue with rb | br
      · exact ⟨2, blue, by simp [*, arrange]⟩
      · exact ⟨1, red, by simp [*, arrange]⟩
  · rcases le_total red blue with rb | br
    · exact ⟨4, red, by simp [*, gr.trans rb, arrange]⟩
    · rcases le_total green blue with gb | bg
      · exact ⟨5, blue, by simp [*, arrange]⟩
      · exact ⟨0, green, by simp [*, arrange]⟩

variable {low middle high : K} (lower : low ≤ middle) (upper : middle ≤ high)
include lower upper

/-- A colour of the first sextant with no rise is also that of the last, and of no other but
a grey. -/
theorem Rgb.arrange_zero_eq_iff (sextant : ℤ) :
    arrange 0 high low low = arrange sextant high middle low ↔
      low = high ∨ (sextant % 6 = 0 ∨ sextant % 6 = 5) ∧ middle = low := by
  constructor
  · intro same
    rcases sextant_cases sextant with i | i | i | i | i | i
    all_goals simp [arrange, i] at same
    · exact Or.inr ⟨Or.inl i, same.symm⟩
    · exact Or.inl same.2
    · exact Or.inl same.1.symm
    · exact Or.inl same.1.symm
    · exact Or.inl same.2
    · exact Or.inr ⟨Or.inr i, same.symm⟩
  · rintro (rfl | ⟨i | i, rfl⟩)
    · rw [le_antisymm upper lower, arrange_grey, arrange_grey]
    · simp [arrange, i]
    · simp [arrange, i]

theorem Rgb.highest_arrange (sextant : ℤ) : (arrange sextant high middle low).highest = high := by
  have ends := lower.trans upper
  unfold highest arrange
  split_ifs <;> simp [*]

theorem Rgb.lowest_arrange (sextant : ℤ) : (arrange sextant high middle low).lowest = low := by
  have ends := lower.trans upper
  unfold lowest arrange
  split_ifs <;> simp [*]

end Channels

/-! ## The conversions -/

section Conversions

variable {K : Type u} [Field K] [LinearOrder K] [FloorRing K]

/-- `colorsys.rgb_to_hsv`. -/
def rgbToHsv (colour : Rgb K) : K × K × K :=
  let maxc := colour.highest
  let minc := colour.lowest
  let rangec := maxc - minc
  if minc = maxc then (0, 0, maxc)
  else
    let rc := (maxc - colour.red) / rangec
    let gc := (maxc - colour.green) / rangec
    let bc := (maxc - colour.blue) / rangec
    let h :=
      if colour.red = maxc then bc - gc
      else if colour.green = maxc then 2 + rc - bc
      else 4 + gc - rc
    (Int.fract (h / 6), rangec / maxc, maxc)

/-- `colorsys.hsv_to_rgb`, for a hue that is not negative. -/
def hsvToRgb (h s v : K) : Rgb K :=
  if s = 0 then ⟨v, v, v⟩
  else
    let i := ⌊h * 6⌋
    let f := h * 6 - i
    let p := v * (1 - s)
    let q := v * (1 - s * f)
    let t := v * (1 - s * (1 - f))
    if i % 6 = 0 then ⟨v, t, p⟩
    else if i % 6 = 1 then ⟨q, v, p⟩
    else if i % 6 = 2 then ⟨p, v, t⟩
    else if i % 6 = 3 then ⟨p, q, v⟩
    else if i % 6 = 4 then ⟨t, p, v⟩
    else ⟨v, p, q⟩

/-- How far the middle channel of a hue falls below the highest, in parts of the chroma. -/
def fallOf (h : K) : K :=
  if ⌊h * 6⌋ % 2 = 0 then 1 - Int.fract (h * 6) else Int.fract (h * 6)

/-- The colour of a hue, as an arrangement. -/
theorem hsvToRgb_eq_arrange (h s v : K) :
    hsvToRgb h s v = .arrange ⌊h * 6⌋ v (v * (1 - s * fallOf h)) (v * (1 - s)) := by
  by_cases grey : s = 0
  · rw [hsvToRgb, if_pos grey, grey]
    simp
  · rw [hsvToRgb, if_neg grey]
    have fraction : h * 6 - ⌊h * 6⌋ = Int.fract (h * 6) := rfl
    rcases Rgb.sextant_cases ⌊h * 6⌋ with i | i | i | i | i | i
    all_goals
      have parity : ⌊h * 6⌋ % 2 = ⌊h * 6⌋ % 6 % 2 := by omega
      rw [i] at parity
      simp [Rgb.arrange, fallOf, i, parity, fraction]

theorem rgbToHsv_grey (level : K) : rgbToHsv ⟨level, level, level⟩ = (0, 0, level) := by
  simp [rgbToHsv, Rgb.highest, Rgb.lowest]

/-- The saturation and the value of a colour, by its highest and lowest channel. -/
theorem rgbToHsv_snd (colour : Rgb K) :
    (rgbToHsv colour).2 = ((colour.highest - colour.lowest) / colour.highest, colour.highest) := by
  unfold rgbToHsv
  dsimp only
  split
  · rename_i grey
    rw [grey, sub_self, zero_div]
  · rfl

variable [IsStrictOrderedRing K]

theorem fallOf_nonneg (h : K) : 0 ≤ fallOf h := by
  have below := Int.fract_lt_one (h * 6)
  unfold fallOf
  split
  · linarith
  · exact Int.fract_nonneg _

theorem fallOf_le_one (h : K) : fallOf h ≤ 1 := by
  have above := Int.fract_nonneg (h * 6)
  unfold fallOf
  split
  · linarith
  · exact (Int.fract_lt_one _).le

/-- A hue counts its sextants modulo six. -/
theorem fract_sextant (sextant : ℤ) (g : K) :
    Int.fract ((sextant + g) / 6) = Int.fract (((sextant % 6 : ℤ) + g) / 6) := by
  apply Int.fract_eq_fract.mpr
  refine ⟨sextant / 6, ?_⟩
  have split : ((sextant % 6 : ℤ) : K) + 6 * ((sextant / 6 : ℤ) : K) = sextant := by
    exact_mod_cast Int.emod_add_mul_ediv sextant 6
  rw [← split]
  ring

/-- The hue of an arrangement. -/
theorem rgbToHsv_arrange_fst {low middle high : K} (lower : low ≤ middle)
    (upper : middle ≤ high) (chromatic : low < high) (sextant : ℤ) :
    (rgbToHsv (Rgb.arrange sextant high middle low)).1 =
      Int.fract ((sextant + if sextant % 2 = 0 then (middle - low) / (high - low)
        else (high - middle) / (high - low)) / 6) := by
  have chroma : high - low ≠ 0 := (sub_pos.mpr chromatic).ne'
  have full : (high - low) / (high - low) = 1 := div_self chroma
  have rise : (middle - low) / (high - low) = 1 - (high - middle) / (high - low) := by
    rw [eq_sub_iff_add_eq, ← add_div, sub_add_sub_cancel', full]
  have top (same : middle = high) : (high - middle) / (high - low) = 0 := by
    rw [same, sub_self, zero_div]
  have turn (x : K) : Int.fract ((x - 1) / 6) = Int.fract ((5 + x) / 6) := by
    rw [← Int.fract_sub_one ((5 + x) / 6)]
    congr 1
    ring
  rw [fract_sextant]
  simp only [rgbToHsv, Rgb.highest_arrange lower upper, Rgb.lowest_arrange lower upper, if_neg chromatic.ne]
  rcases Rgb.sextant_cases sextant with i | i | i | i | i | i
  all_goals
    have parity : sextant % 2 = sextant % 6 % 2 := by omega
    rw [i] at parity
    simp only [Rgb.arrange, i, parity, full, rise, if_true, if_neg chromatic.ne, sub_self,
      zero_div, Int.reduceEq, if_false, Int.reduceMod, Int.cast_ofNat, Int.cast_zero,
      Int.cast_one]
  · congr 1
    ring
  · split
    · rename_i same
      rw [top same, sub_zero, add_zero]
    · congr 1
      ring
  · congr 1
    ring
  · split
    · rename_i same
      rw [top same]
      norm_num
    · congr 1
      ring
  · split
    · rename_i same
      rw [top same, zero_sub, ← zero_sub (1 : K), turn]
      norm_num
    · congr 1
      ring
  · exact turn _

/-- The colour of a position in a sextant. -/
theorem hsvToRgb_position_of_lt (sextant : ℤ) {g : K} (start : 0 ≤ g) (finish : g < 1) (s v : K) :
    hsvToRgb (Int.fract ((sextant + g) / 6)) s v =
      .arrange sextant v (v * (1 - s * if sextant % 2 = 0 then 1 - g else g)) (v * (1 - s)) := by
  have turns : (((sextant % 6 : ℤ) : K) + g) / 6 * 6 = (sextant % 6 : ℤ) + g :=
    div_mul_cancel₀ _ (by norm_num)
  have unit : Int.fract ((((sextant % 6 : ℤ) : K) + g) / 6) = ((sextant % 6 : ℤ) + g) / 6 := by
    have least : (0 : K) ≤ (sextant % 6 : ℤ) := by
      exact_mod_cast Int.emod_nonneg sextant (by norm_num)
    have most : ((sextant % 6 : ℤ) : K) ≤ 5 := by
      exact_mod_cast Int.le_of_lt_add_one (Int.emod_lt_of_pos sextant (by norm_num))
    apply Int.fract_eq_self.mpr
    constructor
    · positivity
    · rw [div_lt_one (by norm_num)]
      linarith
  have floor : ⌊((sextant % 6 : ℤ) : K) + g⌋ = sextant % 6 := by
    rw [Int.floor_intCast_add, Int.floor_eq_zero_iff.mpr ⟨start, finish⟩, add_zero]
  have fraction : Int.fract (((sextant % 6 : ℤ) : K) + g) = g := by
    rw [Int.fract_intCast_add, Int.fract_eq_self.mpr ⟨start, finish⟩]
  have parity : sextant % 6 % 2 = sextant % 2 := by omega
  rw [fract_sextant, hsvToRgb_eq_arrange, unit, fallOf, turns, floor, fraction, parity,
    Rgb.arrange_emod]

/-- The end of a sextant is the start of the next. -/
theorem hsvToRgb_position (sextant : ℤ) {g : K} (start : 0 ≤ g) (finish : g ≤ 1) (s v : K) :
    hsvToRgb (Int.fract ((sextant + g) / 6)) s v =
      .arrange sextant v (v * (1 - s * if sextant % 2 = 0 then 1 - g else g)) (v * (1 - s)) := by
  rcases finish.lt_or_eq with inside | rfl
  · exact hsvToRgb_position_of_lt sextant start inside s v
  · have next := hsvToRgb_position_of_lt (sextant + 1) le_rfl zero_lt_one s v
    rw [Int.cast_add, Int.cast_one, add_zero] at next
    rw [next]
    rcases Rgb.sextant_cases sextant with i | i | i | i | i | i
    all_goals
      have after : (sextant + 1) % 6 = (sextant % 6 + 1) % 6 := by omega
      have parity : sextant % 2 = sextant % 6 % 2 := by omega
      have parity' : (sextant + 1) % 2 = (sextant % 6 + 1) % 2 := by omega
      rw [i] at after parity parity'
      simp [Rgb.arrange, i, after, parity, parity']

/-- A colour whose hue is kept and whose saturation and value are replaced. -/
theorem hsvToRgb_rgbToHsv_arrange {low middle high : K} (lower : low ≤ middle)
    (upper : middle ≤ high) (chromatic : low < high) (sextant : ℤ) (s v : K) :
    hsvToRgb (rgbToHsv (Rgb.arrange sextant high middle low)).1 s v =
      .arrange sextant v (v * (1 - s * ((high - middle) / (high - low)))) (v * (1 - s)) := by
  have chroma : 0 < high - low := sub_pos.mpr chromatic
  have fall : (middle - low) / (high - low) = 1 - (high - middle) / (high - low) := by
    rw [eq_sub_iff_add_eq, ← add_div, sub_add_sub_cancel', div_self chroma.ne']
  have start : 0 ≤ (high - middle) / (high - low) := div_nonneg (sub_nonneg.mpr upper) chroma.le
  have finish : (high - middle) / (high - low) ≤ 1 := by
    rw [div_le_one chroma]
    exact sub_le_sub_left lower high
  rw [rgbToHsv_arrange_fst lower upper chromatic]
  by_cases even : sextant % 2 = 0
  · rw [if_pos even, fall, hsvToRgb_position sextant (sub_nonneg.mpr finish) (sub_le_self 1 start),
      if_pos even, sub_sub_cancel]
  · rw [if_neg even, hsvToRgb_position sextant start finish, if_neg even]

end Conversions

end IndigoMatter.Library
