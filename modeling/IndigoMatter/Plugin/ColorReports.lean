import IndigoMatter.Library.Hsv
import IndigoMatter.Library.InsertionMap
import Mathlib.Data.Rat.Floor

/-!
# Hue and saturation reports

A colour device reports its hue and its saturation one at a time, and the plugin keeps
neither.  Each report is combined with the other component as it is recovered from the
stored levels, which are whole percents.  A grey carries no hue, so a hue that arrives
first is forgotten; a colour close to grey carries it in few steps.

`RoundingSpares` is the exact condition under which neither loss can be seen.
-/

namespace IndigoMatter.Plugin

open IndigoMatter.Library

/-! ## The handler -/

/-- The numeric states of an Indigo device. -/
abbrev DeviceStates := InsertionMap String ℚ

def ATTR_CURRENT_HUE : ℕ := 0x0000
def ATTR_CURRENT_SATURATION : ℕ := 0x0001
def ATTR_CURRENT_X : ℕ := 0x0003
def ATTR_CURRENT_Y : ℕ := 0x0004
def ATTR_COLOR_TEMP_MIREDS : ℕ := 0x0007
def ATTR_COLOR_CAPABILITIES : ℕ := 0x400A

/-- `states.get(key, 0) or 0`. -/
def stateOrZero (states : DeviceStates) (key : String) : ℚ := (states.get? key).getD 0

/-- `int` of a number. -/
def truncated (number : ℚ) : ℤ := if 0 ≤ number then ⌊number⌋ else ⌈number⌉

/-- Mireds to Kelvin; zero maps to zero. -/
def miredsToKelvin (mireds : ℤ) : ℤ :=
  if mireds = 0 then 0 else roundHalfEven ((1000000 : ℚ) / mireds)

/-- The stored levels of the three channels. -/
def levelsOf (states : DeviceStates) : Rgb ℚ :=
  ⟨stateOrZero states "redLevel", stateOrZero states "greenLevel", stateOrZero states "blueLevel"⟩

/-- A colour in whole percents. -/
def percents (colour : Rgb ℚ) : Rgb ℤ := colour.map fun channel => roundHalfEven (channel * 100)

/-- Matter hue and saturation to Indigo levels. -/
def matterHsToRgb (hue sat : ℤ) (value : ℚ) : Rgb ℤ :=
  percents (hsvToRgb ((hue : ℚ) / 254) ((sat : ℚ) / 254) value)

/-- The update of the three levels. -/
def levelUpdates (colour : Rgb ℤ) : List (String × ℚ) :=
  [("redLevel", colour.red), ("greenLevel", colour.green), ("blueLevel", colour.blue)]

/-- A hue or a saturation report: the other component is the one of the stored levels. -/
def onHueOrSaturation (levels : Rgb ℚ) (attributeId : ℕ) (value : ℤ) : Rgb ℤ :=
  let (hue, sat, val) := rgbToHsv (levels.map (· / 100))
  let hue := if attributeId = ATTR_CURRENT_HUE then (value : ℚ) / 254 else hue
  let sat := if attributeId = ATTR_CURRENT_HUE then sat else (value : ℚ) / 254
  percents (hsvToRgb hue sat (if 0 < val then val else 1))

/-- `ColorControlHandler.on_attribute_update`.  The conversion of CIE coordinates takes
powers that are not rational; it is a parameter. -/
def onAttributeUpdate (matterXyToRgb : ℤ → ℤ → ℚ → Rgb ℤ) (states : DeviceStates)
    (attributeId : ℕ) : Option ℤ → List (String × ℚ)
  | none => []
  | some value =>
      if attributeId = ATTR_COLOR_TEMP_MIREDS then
        if states.has "whiteTemperature" then [("whiteTemperature", miredsToKelvin value)] else []
      else if attributeId = ATTR_COLOR_CAPABILITIES then
        if states.has "colorCapabilities" then [("colorCapabilities", value)] else []
      else if attributeId = ATTR_CURRENT_X ∨ attributeId = ATTR_CURRENT_Y then
        if states.has "colorX" ∧ states.has "colorY" then
          let rawX := if attributeId = ATTR_CURRENT_X then value
            else truncated (stateOrZero states "colorX")
          let rawY := if attributeId = ATTR_CURRENT_Y then value
            else truncated (stateOrZero states "colorY")
          let axes : List (String × ℚ) := [("colorX", rawX), ("colorY", rawY)]
          if rawX ≠ 0 ∧ rawY ≠ 0 then
            let stored := stateOrZero states "brightnessLevel"
            let brightness := (if stored = 0 then 100 else stored) / 100
            axes ++ levelUpdates (matterXyToRgb rawX rawY brightness)
          else axes
        else []
      else if attributeId = ATTR_CURRENT_HUE ∨ attributeId = ATTR_CURRENT_SATURATION then
        levelUpdates (onHueOrSaturation (levelsOf states) attributeId value)
      else []

/-- Deliver one attribute report: its updates are written to the device. -/
def deliver (matterXyToRgb : ℤ → ℤ → ℚ → Rgb ℤ) (states : DeviceStates) (attributeId : ℕ)
    (value : Option ℤ) : DeviceStates :=
  (onAttributeUpdate matterXyToRgb states attributeId value).foldl
    (fun states update => states.set update.1 update.2) states

/-! ## One report -/

variable {matterXyToRgb : ℤ → ℤ → ℚ → Rgb ℤ} {states : DeviceStates} {hue sat : ℕ}

/-- The levels of a device after an update of all three. -/
theorem levelsOf_levelUpdates (states : DeviceStates) (colour : Rgb ℤ) :
    levelsOf ((levelUpdates colour).foldl (fun states update => states.set update.1 update.2)
      states) = colour.map (↑) := by
  simp [levelsOf, stateOrZero, levelUpdates, InsertionMap.get?_set, Rgb.map]

theorem levelsOf_deliver_hue (value : ℤ) :
    levelsOf (deliver matterXyToRgb states ATTR_CURRENT_HUE (some value)) =
      (onHueOrSaturation (levelsOf states) ATTR_CURRENT_HUE value).map (↑) :=
  levelsOf_levelUpdates states _

theorem levelsOf_deliver_saturation (value : ℤ) :
    levelsOf (deliver matterXyToRgb states ATTR_CURRENT_SATURATION (some value)) =
      (onHueOrSaturation (levelsOf states) ATTR_CURRENT_SATURATION value).map (↑) :=
  levelsOf_levelUpdates states _

/-- The sextant of a hue on the wheel. -/
def sextantOf (hue : ℕ) : ℤ := ⌊(hue : ℚ) / 254 * 6⌋

/-- How far the middle channel of a hue falls, in parts of the chroma. -/
def fallOfHue (hue : ℕ) : ℚ := fallOf ((hue : ℚ) / 254)

/-- The level of a channel that lies the given part of the chroma below the highest. -/
def below (high : ℤ) (chroma fall : ℚ) : ℤ := roundHalfEven (high - chroma * fall)

/-- The chroma of a saturation at the given highest level, in percents. -/
def chromaOf (high : ℤ) (sat : ℕ) : ℚ := high * (sat / 254)

/-- An arrangement of channels, in whole percents. -/
theorem percents_arrange (sextant high : ℤ) (s fall : ℚ) :
    percents (.arrange sextant ((high : ℚ) / 100) ((high : ℚ) / 100 * (1 - s * fall))
        ((high : ℚ) / 100 * (1 - s))) =
      .arrange sextant high (below high (high * s) fall) (below high (high * s) 1) := by
  have top : (high : ℚ) / 100 * 100 = high := div_mul_cancel₀ _ (by norm_num)
  have level (fall : ℚ) :
      (high : ℚ) / 100 * (1 - s * fall) * 100 = high - high * s * fall := by ring
  rw [percents, Rgb.map_arrange, top, level, roundHalfEven_intCast, below, below, ← level 1,
    mul_one]

/-- The levels of a hue and a saturation, as an arrangement. -/
theorem percents_hsvToRgb (h s : ℚ) (high : ℤ) :
    percents (hsvToRgb h s ((high : ℚ) / 100)) =
      .arrange ⌊h * 6⌋ high (below high (high * s) (fallOf h)) (below high (high * s) 1) := by
  rw [hsvToRgb_eq_arrange, percents_arrange]

theorem matterHsToRgb_eq_arrange (hue sat : ℕ) (high : ℤ) :
    matterHsToRgb hue sat ((high : ℚ) / 100) =
      .arrange (sextantOf hue) high (below high (chromaOf high sat) (fallOfHue hue))
        (below high (chromaOf high sat) 1) := by
  rw [matterHsToRgb, percents_hsvToRgb]
  rfl

/-- Rounding keeps the middle channel between the lowest and the highest. -/
theorem below_one_le {high : ℤ} {chroma fall : ℚ} (positive : 0 ≤ chroma) (most : fall ≤ 1) :
    below high chroma 1 ≤ below high chroma fall := by
  apply roundHalfEven_mono
  apply sub_le_sub_left
  exact mul_le_mul_of_nonneg_left most positive

theorem below_le {high : ℤ} {chroma fall : ℚ} (positive : 0 ≤ chroma) (least : 0 ≤ fall) :
    below high chroma fall ≤ high := by
  have top : below high chroma fall ≤ roundHalfEven (high : ℚ) := by
    apply roundHalfEven_mono
    exact sub_le_self _ (mul_nonneg positive least)
  rwa [roundHalfEven_intCast] at top

/-- A whole chroma is subtracted without rounding. -/
theorem below_intCast (high chroma : ℤ) : below high chroma 1 = high - chroma := by
  rw [below, mul_one, ← Int.cast_sub, roundHalfEven_intCast]

/-! ## Both reports -/

section Arranged

variable {low middle high : ℤ} (lower : low ≤ middle) (upper : middle ≤ high)
include lower upper

/-- The saturation and the value of stored levels. -/
theorem stored_saturation_value (sextant : ℤ) :
    (rgbToHsv (((Rgb.arrange sextant high middle low).map ((↑) : ℤ → ℚ)).map (· / 100))).2 =
      (((high - low : ℤ) : ℚ) / high, (high : ℚ) / 100) := by
  have lower' : (low : ℚ) / 100 ≤ (middle : ℚ) / 100 := by gcongr
  have upper' : (middle : ℚ) / 100 ≤ (high : ℚ) / 100 := by gcongr
  rw [Rgb.map_arrange, Rgb.map_arrange, rgbToHsv_snd, Rgb.highest_arrange lower' upper',
    Rgb.lowest_arrange lower' upper', ← sub_div, div_div_div_cancel_right₀ (by norm_num),
    Int.cast_sub]

variable (lit : 0 < high)
include lit

/-- A hue report keeps the highest and the lowest level. -/
theorem hue_report (sextant : ℤ) (hue : ℕ) :
    onHueOrSaturation ((Rgb.arrange sextant high middle low).map (↑)) ATTR_CURRENT_HUE hue =
      .arrange (sextantOf hue) high (below high ((high - low : ℤ) : ℚ) (fallOfHue hue)) low := by
  have positive : (0 : ℚ) < (high : ℚ) / 100 := by positivity
  have chroma : (high : ℚ) * (((high - low : ℤ) : ℚ) / high) = ((high - low : ℤ) : ℚ) :=
    mul_div_cancel₀ _ (by exact_mod_cast lit.ne')
  have split := stored_saturation_value lower upper sextant
  simp only [onHueOrSaturation, if_true, split, if_pos positive]
  rw [percents_hsvToRgb, chroma, below_intCast, sub_sub_cancel]
  rfl

/-- A saturation report keeps the highest level, and where the middle one lies between. -/
theorem saturation_report (sextant : ℤ) (sat : ℕ) :
    onHueOrSaturation ((Rgb.arrange sextant high middle low).map (↑)) ATTR_CURRENT_SATURATION sat =
      if low < high then
        .arrange sextant high
          (below high (chromaOf high sat) (((high - middle : ℤ) : ℚ) / (high - low : ℤ)))
          (below high (chromaOf high sat) 1)
      else
        .arrange 0 high (below high (chromaOf high sat) 1) (below high (chromaOf high sat) 1) := by
  have other : ¬ATTR_CURRENT_SATURATION = ATTR_CURRENT_HUE := by decide
  have positive : (0 : ℚ) < (high : ℚ) / 100 := by positivity
  have split := stored_saturation_value lower upper sextant
  simp only [onHueOrSaturation, if_neg other, split, if_pos positive]
  by_cases chromatic : low < high
  · have lower' : (low : ℚ) / 100 ≤ (middle : ℚ) / 100 := by gcongr
    have upper' : (middle : ℚ) / 100 ≤ (high : ℚ) / 100 := by gcongr
    have chromatic' : (low : ℚ) / 100 < (high : ℚ) / 100 := by gcongr
    have fall : ((high : ℚ) / 100 - middle / 100) / (high / 100 - low / 100) =
        ((high - middle : ℤ) : ℚ) / ((high - low : ℤ) : ℚ) := by
      rw [← sub_div, ← sub_div, div_div_div_cancel_right₀ (by norm_num), Int.cast_sub,
        Int.cast_sub]
    rw [if_pos chromatic, Rgb.map_arrange, Rgb.map_arrange,
      hsvToRgb_rgbToHsv_arrange lower' upper' chromatic', fall, percents_arrange]
    rfl
  · have same : low = high := le_antisymm (lower.trans upper) (not_lt.mp chromatic)
    have between : middle = high := le_antisymm upper (same ▸ lower)
    have start : fallOf (0 : ℚ) = 1 := by simp [fallOf]
    rw [if_neg chromatic, same, between, Rgb.arrange_grey, Rgb.map, Rgb.map, rgbToHsv_grey,
      percents_hsvToRgb, zero_mul, Int.floor_zero, start]
    rfl

end Arranged

/-! ## Both reports -/

/-- The device stores whole percents. -/
structure StoresPercents (states : DeviceStates) (stored : Rgb ℤ) : Prop where
  levels : levelsOf states = stored.map (↑)
  least : 0 ≤ stored.lowest
  most : stored.highest ≤ 100

/-- Both orders of a hue and a saturation report leave the conversion of the two at the value
the device had. -/
def ReportsCommute (matterXyToRgb : ℤ → ℤ → ℚ → Rgb ℤ) (states : DeviceStates)
    (hue sat : ℕ) : Prop :=
  let target : Rgb ℚ := (matterHsToRgb hue sat ((levelsOf states).highest / 100)).map (↑)
  let after first firstValue second secondValue : Rgb ℚ :=
    levelsOf (deliver matterXyToRgb (deliver matterXyToRgb states first (some firstValue))
      second (some secondValue))
  after ATTR_CURRENT_HUE hue ATTR_CURRENT_SATURATION sat = target ∧
    after ATTR_CURRENT_SATURATION sat ATTR_CURRENT_HUE hue = target
deriving Decidable

/-- The middle level of a hue and a saturation. -/
def middleLevel (high : ℤ) (hue sat : ℕ) : ℤ := below high (chromaOf high sat) (fallOfHue hue)

/-- The saturation survives the rounding of the lowest level: the middle level that it gives
is the same when the chroma is a whole number of percents. -/
def SaturationSurvives (high : ℤ) (hue sat : ℕ) : Prop :=
  below high ((high - below high (chromaOf high sat) 1 : ℤ) : ℚ) (fallOfHue hue) =
    middleLevel high hue sat
deriving Decidable

/-- The hue survives the stored levels: the middle level is the same when the hue falls by a
whole number of percents of the stored chroma.  A grey stores no hue but that of red. -/
def HueSurvives (high low : ℤ) (hue sat : ℕ) : Prop :=
  if low < high then
    below high (chromaOf high sat)
        (((high - below high ((high - low : ℤ) : ℚ) (fallOfHue hue) : ℤ) : ℚ) /
          (high - low : ℤ)) =
      middleLevel high hue sat
  else
    below high (chromaOf high sat) 1 = high ∨
      (sextantOf hue % 6 = 0 ∨ sextantOf hue % 6 = 5) ∧
        middleLevel high hue sat = below high (chromaOf high sat) 1
deriving Decidable

/-- The stored levels are not black, and neither component is lost in them. -/
structure RoundingSpares (stored : Rgb ℤ) (hue sat : ℕ) : Prop where
  lit : 0 < stored.highest
  saturation : SaturationSurvives stored.highest hue sat
  hue : HueSurvives stored.highest stored.lowest hue sat

/-- The levels after a hue and then a saturation report. -/
theorem hue_then_saturation {stored : Rgb ℤ} (holds : StoresPercents states stored)
    (hue sat : ℕ) :
    levelsOf (deliver matterXyToRgb (deliver matterXyToRgb states ATTR_CURRENT_HUE
        (some (hue : ℤ))) ATTR_CURRENT_SATURATION (some (sat : ℤ))) =
      (onHueOrSaturation ((onHueOrSaturation (stored.map (↑)) ATTR_CURRENT_HUE hue).map (↑))
        ATTR_CURRENT_SATURATION sat).map (↑) := by
  rw [levelsOf_deliver_saturation, levelsOf_deliver_hue, holds.levels]

theorem saturation_then_hue {stored : Rgb ℤ} (holds : StoresPercents states stored)
    (hue sat : ℕ) :
    levelsOf (deliver matterXyToRgb (deliver matterXyToRgb states ATTR_CURRENT_SATURATION
        (some (sat : ℤ))) ATTR_CURRENT_HUE (some (hue : ℤ))) =
      (onHueOrSaturation ((onHueOrSaturation (stored.map (↑)) ATTR_CURRENT_SATURATION sat).map (↑))
        ATTR_CURRENT_HUE hue).map (↑) := by
  rw [levelsOf_deliver_hue, levelsOf_deliver_saturation, holds.levels]

theorem highest_cast (stored : Rgb ℤ) :
    (stored.map ((↑) : ℤ → ℚ)).highest = (stored.highest : ℤ) := by
  simp only [Rgb.highest, Rgb.map, Int.cast_max]

theorem cast_levels_inj {first second : Rgb ℤ} :
    first.map ((↑) : ℤ → ℚ) = second.map (↑) ↔ first = second :=
  (Rgb.map_injective Int.cast_injective).eq_iff

theorem fallOfHue_nonneg (hue : ℕ) : 0 ≤ fallOfHue hue := fallOf_nonneg _

theorem fallOfHue_le_one (hue : ℕ) : fallOfHue hue ≤ 1 := fallOf_le_one _

theorem chromaOf_nonneg {high : ℤ} (lit : 0 < high) (sat : ℕ) : 0 ≤ chromaOf high sat := by
  unfold chromaOf
  positivity

section Arranged

variable {low middle high : ℤ} (lower : low ≤ middle) (upper : middle ≤ high) (lit : 0 < high)
include lower upper lit

/-- A hue report first: the stored chroma says in how many steps the hue is kept. -/
theorem hue_first_iff (sextant : ℤ) (hue sat : ℕ) :
    onHueOrSaturation ((onHueOrSaturation ((Rgb.arrange sextant high middle low).map (↑))
        ATTR_CURRENT_HUE hue).map (↑)) ATTR_CURRENT_SATURATION sat =
      matterHsToRgb hue sat ((high : ℚ) / 100) ↔ HueSurvives high low hue sat := by
  have chroma : (0 : ℚ) ≤ ((high - low : ℤ) : ℚ) := by
    exact_mod_cast sub_nonneg.mpr (lower.trans upper)
  have lower' : low ≤ below high ((high - low : ℤ) : ℚ) (fallOfHue hue) := by
    have least := @below_one_le high _ _ chroma (fallOfHue_le_one hue)
    rwa [below_intCast, sub_sub_cancel] at least
  have upper' : below high ((high - low : ℤ) : ℚ) (fallOfHue hue) ≤ high :=
    below_le chroma (fallOfHue_nonneg hue)
  rw [hue_report lower upper lit, saturation_report lower' upper' lit, matterHsToRgb_eq_arrange,
    HueSurvives]
  split
  · exact Rgb.arrange_inj
  · apply Rgb.arrange_zero_eq_iff
    · exact below_one_le (chromaOf_nonneg lit sat) (fallOfHue_le_one hue)
    · exact below_le (chromaOf_nonneg lit sat) (fallOfHue_nonneg hue)

/-- A saturation report first: the lowest level is rounded, and the saturation with it. -/
theorem saturation_first_iff (sextant : ℤ) (hue sat : ℕ) :
    onHueOrSaturation ((onHueOrSaturation ((Rgb.arrange sextant high middle low).map (↑))
        ATTR_CURRENT_SATURATION sat).map (↑)) ATTR_CURRENT_HUE hue =
      matterHsToRgb hue sat ((high : ℚ) / 100) ↔ SaturationSurvives high hue sat := by
  have positive := chromaOf_nonneg lit sat
  rw [saturation_report lower upper lit, matterHsToRgb_eq_arrange]
  split
  · rename_i chromatic
    have chroma : (0 : ℚ) < ((high - low : ℤ) : ℚ) := by exact_mod_cast sub_pos.mpr chromatic
    have least : (0 : ℚ) ≤ ((high - middle : ℤ) : ℚ) / (high - low : ℤ) := by
      apply div_nonneg _ chroma.le
      exact_mod_cast sub_nonneg.mpr upper
    have most : ((high - middle : ℤ) : ℚ) / (high - low : ℤ) ≤ 1 := by
      rw [div_le_one chroma]
      exact_mod_cast sub_le_sub_left lower high
    rw [hue_report (below_one_le positive most) (below_le positive least) lit]
    exact Rgb.arrange_inj
  · have top : below high (chromaOf high sat) 1 ≤ high := below_le positive zero_le_one
    rw [hue_report le_rfl top lit]
    exact Rgb.arrange_inj

end Arranged

/-- Reports on black are taken at full value. -/
theorem black_lights_up (hue sat : ℕ) :
    onHueOrSaturation ((onHueOrSaturation ((⟨0, 0, 0⟩ : Rgb ℤ).map (↑))
        ATTR_CURRENT_HUE hue).map (↑)) ATTR_CURRENT_SATURATION sat ≠
      matterHsToRgb hue sat (((0 : ℤ) : ℚ) / 100) := by
  have white : onHueOrSaturation ((⟨0, 0, 0⟩ : Rgb ℤ).map (↑)) ATTR_CURRENT_HUE hue =
      .arrange 0 100 100 100 := by
    have full : roundHalfEven (100 : ℚ) = 100 := by exact_mod_cast roundHalfEven_intCast 100
    simp [onHueOrSaturation, Rgb.map, rgbToHsv_grey, hsvToRgb, percents, full]
  have dark : matterHsToRgb hue sat (((0 : ℤ) : ℚ) / 100) = ⟨0, 0, 0⟩ := by
    rw [matterHsToRgb_eq_arrange]
    have level (fall : ℚ) : below 0 (chromaOf 0 sat) fall = 0 := by
      simp [below, chromaOf, roundHalfEven]
    rw [level, level, Rgb.arrange_grey]
  rw [white, saturation_report le_rfl le_rfl (by norm_num), if_neg (lt_irrefl _), dark]
  intro same
  have red := congrArg Rgb.red same
  simp [Rgb.arrange] at red

/-- The two reports commute, and give their conversion, exactly where the rounding of the
stored levels spares both components. -/
theorem reportsCommute_iff {stored : Rgb ℤ} (holds : StoresPercents states stored)
    (hue sat : ℕ) :
    ReportsCommute matterXyToRgb states hue sat ↔ RoundingSpares stored hue sat := by
  rcases stored.exists_arrange with ⟨sextant, middle, lower, upper, arranged⟩
  have value : (levelsOf states).highest = stored.highest := by
    rw [holds.levels, highest_cast]
  unfold ReportsCommute
  dsimp only
  rw [hue_then_saturation holds, saturation_then_hue holds, value, cast_levels_inj,
    cast_levels_inj]
  by_cases lit : 0 < stored.highest
  · have first := hue_first_iff lower upper lit sextant hue sat
    have second := saturation_first_iff lower upper lit sextant hue sat
    rw [← arranged] at first second
    rw [first, second]
    constructor
    · rintro ⟨hueKept, saturationKept⟩
      exact ⟨lit, saturationKept, hueKept⟩
    · rintro ⟨-, saturationKept, hueKept⟩
      exact ⟨hueKept, saturationKept⟩
  · have black : stored.highest = 0 := by
      have ends := lower.trans upper
      have least := holds.least
      omega
    have levels : stored = ⟨0, 0, 0⟩ := by
      have bottom : stored.lowest = 0 := by
        have ends := lower.trans upper
        have least := holds.least
        omega
      rw [arranged, black, bottom, show middle = 0 by omega, Rgb.arrange_grey]
    apply iff_of_false
    · rintro ⟨hueFirst, -⟩
      rw [black, levels] at hueFirst
      exact black_lights_up hue sat hueFirst
    · rintro ⟨lit', -, -⟩
      exact lit lit'

/-- A device with the given levels. -/
def DeviceStates.ofLevels (red green blue : ℤ) : DeviceStates :=
  .ofList [("redLevel", red), ("greenLevel", green), ("blueLevel", blue)]

/-- On a fully saturated red, any hue at full saturation is taken as reported. -/
theorem reportsCommute_red :
    ReportsCommute (fun _ _ _ => ⟨0, 0, 0⟩) (.ofLevels 100 0 0) 170 254 := by
  have holds : StoresPercents (.ofLevels 100 0 0) ⟨100, 0, 0⟩ :=
    ⟨by decide, by decide, by decide⟩
  have spares : RoundingSpares ⟨100, 0, 0⟩ 170 254 := by
    refine ⟨by decide, ?_, ?_⟩
    · decide +kernel
    · decide +kernel
  exact (reportsCommute_iff holds 170 254).mpr spares

/-- On white, a hue that arrives before its saturation is lost. -/
theorem hue_on_white_is_lost :
    ¬ ∀ (matterXyToRgb : ℤ → ℤ → ℚ → Rgb ℤ) (states : DeviceStates) (stored : Rgb ℤ),
      StoresPercents states stored →
        ∀ hue sat : ℕ, hue ≤ 254 → sat ≤ 254 →
          ReportsCommute matterXyToRgb states hue sat := by
  intro claimed
  have commute := claimed (fun _ _ _ => ⟨0, 0, 0⟩) (.ofLevels 100 100 100) ⟨100, 100, 100⟩
    ⟨by decide, by decide, by decide⟩ 170 254 (by decide) (by decide)
  revert commute
  decide +kernel

end IndigoMatter.Plugin
