import IndigoMatter.Library.Hsv
import IndigoMatter.Plugin.ExportStore
import Mathlib.Data.Rat.Floor

/-!
# Export handlers

What each role publishes of a device, and which changes of it are worth a push.  A key that
the device cannot supply is left out, never defaulted.  Numbers are exact: a reading is the
rational its float stands for, and `colorsys` computes over the rationals.
-/

namespace IndigoMatter.Plugin

open IndigoMatter.Library
open IndigoMatter.Bridge (Role)

/-! ## Keys -/

def STATE_ON_OFF : String := "onOff"
def STATE_LEVEL : String := "level"
def STATE_COLOR_TEMP_MIREDS : String := "colorTempMireds"
def STATE_HUE : String := "hue"
def STATE_SATURATION : String := "saturation"
def STATE_POSITION : String := "position"
def STATE_LOCKED : String := "locked"
def STATE_OCCUPIED : String := "occupied"
def STATE_CONTACT : String := "contact"
def STATE_LEAK : String := "leak"
def STATE_FREEZE : String := "freeze"
def STATE_RAIN : String := "rain"
def STATE_SMOKE : String := "smoke"
def STATE_CO : String := "co"
def STATE_TEMPERATURE_C : String := "temperatureC"
def STATE_HUMIDITY_PCT : String := "humidityPct"
def STATE_LUX : String := "lux"
def STATE_PRESSURE_KPA : String := "pressureKPa"
def STATE_FLOW_M3H : String := "flowM3h"
def STATE_LOCAL_TEMPERATURE_C : String := "localTemperatureC"
def STATE_HEATING_SETPOINT_C : String := "heatingSetpointC"
def STATE_COOLING_SETPOINT_C : String := "coolingSetpointC"
def STATE_SYSTEM_MODE : String := "systemMode"
def STATE_BATTERY_LEVEL : String := "batteryLevel"

def COMMAND_SET_COLOR_TEMP : String := "setColorTemp"

def MIREDS_MIN : ℚ := 153
def MIREDS_MAX : ℚ := 500
def HUE_TOLERANCE_DEGREES : ℚ := 1
def SATURATION_HUE_FLOOR : ℤ := 20
def CT_TOLERANCE_MIREDS : ℚ := 30
def HPA_PER_KPA : ℚ := 10

/-! ## Devices -/

/-- The modes of an Indigo thermostat. -/
inductive HvacMode
  | off
  | heat
  | cool
  | heatCool
  | programHeat
  | programCool
  | programHeatCool
deriving DecidableEq

/-- What the handlers read of an Indigo device at one moment; a proxy that raises when its
states are read has none. -/
structure DeviceReading where
  name : String
  enabled : Bool
  configured : Bool
  onState : PyValue
  brightness : PyValue
  whiteTemperature : PyValue
  redLevel : PyValue
  greenLevel : PyValue
  blueLevel : PyValue
  sensorValue : PyValue
  /-- `None` when the attribute is not a list. -/
  temperatures : Option (List PyValue)
  heatSetpoint : PyValue
  coolSetpoint : PyValue
  hvacMode : Option HvacMode
  batteryLevel : PyValue
  states : Option (InsertionMap String PyValue)

/-- A partial map of state keys. -/
abbrev StateMap := InsertionMap String PyValue

/-- `dict(dev.states or {}).get(key)`, with a raising proxy caught. -/
def DeviceReading.state (dev : DeviceReading) (key : String) : Option PyValue :=
  dev.states.bind fun states => states.get? key

/-! ## Conversions -/

/-- `_clamp`. -/
def clampTo (value low high : ℚ) : ℚ := max low (min high value)

/-- `int(_clamp(round(value), 0, 100))`. -/
def wholePercent (value : ℚ) : ℤ := ⌊clampTo (roundHalfEven value) 0 100⌋

/-- `kelvin_to_mireds`. -/
def kelvinToMireds (kelvin : ℚ) : ℤ :=
  if kelvin = 0 then 0 else roundHalfEven (1000000 / kelvin)

/-- `int(_clamp(kelvin_to_mireds(kelvin), MIREDS_MIN, MIREDS_MAX))`. -/
def publishedMireds (kelvin : ℚ) : ℤ := ⌊clampTo (kelvinToMireds kelvin) MIREDS_MIN MIREDS_MAX⌋

/-- `rgb_to_hue_saturation`. -/
def rgbToHueSaturation (colour : Rgb ℚ) : ℤ × ℤ :=
  let (hue, saturation, _) := rgbToHsv (colour.map (· / 100))
  (roundHalfEven (hue * 360) % 360, roundHalfEven (saturation * 100))

/-- `_position_from_brightness`. -/
def positionFromBrightness (brightness : ℚ) (options : Options) : ℤ :=
  if options.get? OPTION_INVERT = some (.bool true) then 100 - wholePercent brightness
  else wholePercent brightness

/-- `_first_number`. -/
def firstNumber (values : Option (List PyValue)) : Option ℚ :=
  (values.getD []).findSome? PyValue.numeric?

/-- `system_mode_of`. -/
def systemModeOf (dev : DeviceReading) : Option String :=
  dev.hvacMode.map fun
    | .off => "off"
    | .heat | .programHeat => "heat"
    | .cool | .programCool => "cool"
    | .heatCool | .programHeatCool => "auto"

/-- `battery_percent`. -/
def batteryPercent (dev : DeviceReading) : Option ℤ :=
  match dev.batteryLevel.numeric? with
  | none => none
  | some value =>
      let percent := min 100 (roundHalfEven value)
      if percent ≤ 0 then none else some percent

/-- The dictionary of the entries that are there. -/
def statesOf (entries : List (String × Option PyValue)) : StateMap :=
  .ofList (entries.filterMap fun entry => entry.2.map fun value => (entry.1, value))

/-! ## What a role publishes -/

/-- The relay roles. -/
def onOffStates (dev : DeviceReading) : List (String × Option PyValue) :=
  [(STATE_ON_OFF, some (.bool dev.onState.truthy))]

/-- The dimmable roles: a relay with a level. -/
def dimmableStates (dev : DeviceReading) : List (String × Option PyValue) :=
  onOffStates dev ++
    [(STATE_LEVEL, dev.brightness.numeric?.map fun brightness => .int (wholePercent brightness))]

/-- The colour temperature of a device that tells one; a zero is not one. -/
def colorTempState (dev : DeviceReading) : String × Option PyValue :=
  (STATE_COLOR_TEMP_MIREDS, (dev.whiteTemperature.numeric?.filter (· ≠ 0)).map fun kelvin =>
    .int (publishedMireds kelvin))

/-- The three colour channels, when all of them are numbers. -/
def DeviceReading.rgb? (dev : DeviceReading) : Option (Rgb ℚ) :=
  match dev.redLevel.numeric?, dev.greenLevel.numeric?, dev.blueLevel.numeric? with
  | some red, some green, some blue => some ⟨red, green, blue⟩
  | _, _, _ => none

/-- Hue and saturation of a device that tells a colour; near grey the hue is left out. -/
def hueSaturationStates (dev : DeviceReading) : List (String × Option PyValue) :=
  match dev.rgb? with
  | none => []
  | some colour =>
      let (hue, saturation) := rgbToHueSaturation colour
      [(STATE_SATURATION, some (.int saturation)),
        (STATE_HUE, if SATURATION_HUE_FLOOR ≤ saturation then some (.int hue) else none)]

/-- Whether a colour light is in colour-temperature mode: by its own mode, or else by
channels that are all zero beside a usable temperature. -/
def useColorTemp (dev : DeviceReading) : Bool :=
  match dev.state "colorMode" with
  | some (.str "color_temp") => true
  | some (.str "xy") => false
  | some (.str "hs") => false
  | _ =>
      let zero (level : PyValue) : Bool := (level.numeric?.getD 0) = 0
      zero dev.redLevel && zero dev.greenLevel && zero dev.blueLevel &&
        (dev.whiteTemperature.numeric?.getD 0) ≠ 0

/-- A colour light publishes one colour channel, the one of its mode. -/
def extendedColorStates (dev : DeviceReading) : List (String × Option PyValue) :=
  dimmableStates dev ++
    if useColorTemp dev then [colorTempState dev] else hueSaturationStates dev

/-- `_apply_invert`. -/
def applyInvert (value : Bool) (options : Options) : Bool :=
  if options.get? OPTION_STATE_INVERT = some (.bool true) then !value else value

/-- The key of a state mapping, when the export declares one. -/
def mappedKey (options : Options) : Option String :=
  match options.get? OPTION_STATE_KEY with
  | some (.str key) => if key = "" then none else some key
  | _ => none

/-- The binary sensors: the mapped state, or else `onState`. -/
def binaryStates (stateKey : String) (dev : DeviceReading) (options : Options) :
    List (String × Option PyValue) :=
  match mappedKey options with
  | some key =>
      match dev.state key with
      | some (.bool value) => [(stateKey, some (.bool (applyInvert value options)))]
      | _ => []
  | none =>
      if dev.onState = .none then []
      else [(stateKey, some (.bool (applyInvert dev.onState.truthy options)))]

/-- The measured sensors; pressure is scaled and rounded to one decimal. -/
def numericStates (stateKey : String) (convert : ℚ → ℚ) (dev : DeviceReading) :
    List (String × Option PyValue) :=
  [(stateKey, dev.sensorValue.numeric?.map fun value => .float (convert value))]

/-- hPa to kPa, in tenths. -/
def pressureKPa (value : ℚ) : ℚ := (roundHalfEven (value / HPA_PER_KPA * 10) : ℚ) / 10

def thermostatStates (dev : DeviceReading) : List (String × Option PyValue) :=
  [(STATE_LOCAL_TEMPERATURE_C, (firstNumber dev.temperatures).map .float),
    (STATE_HEATING_SETPOINT_C, dev.heatSetpoint.numeric?.map .float),
    (STATE_COOLING_SETPOINT_C, dev.coolSetpoint.numeric?.map .float),
    (STATE_SYSTEM_MODE, (systemModeOf dev).map .str)]

/-- The entries of `states_for`, by the handler of the role. -/
def statesFor (dev : DeviceReading) (options : Options) : Role → List (String × Option PyValue)
  | .onOffPlugInUnit | .onOffLight => onOffStates dev
  | .dimmableLight => dimmableStates dev
  | .colorTemperatureLight => dimmableStates dev ++ [colorTempState dev]
  | .extendedColorLight => extendedColorStates dev
  | .windowCovering =>
      [(STATE_POSITION, dev.brightness.numeric?.map fun brightness =>
        .int (positionFromBrightness brightness options))]
  | .doorLock =>
      if dev.onState = .none then [] else [(STATE_LOCKED, some (.bool dev.onState.truthy))]
  | .occupancySensor => binaryStates STATE_OCCUPIED dev options
  | .contactSensor => binaryStates STATE_CONTACT dev options
  | .waterLeakDetector => binaryStates STATE_LEAK dev options
  | .waterFreezeDetector => binaryStates STATE_FREEZE dev options
  | .rainSensor => binaryStates STATE_RAIN dev options
  | .smokeAlarm => binaryStates STATE_SMOKE dev options
  | .coAlarm => binaryStates STATE_CO dev options
  | .temperatureSensor => numericStates STATE_TEMPERATURE_C id dev
  | .humiditySensor => numericStates STATE_HUMIDITY_PCT id dev
  | .lightSensor => numericStates STATE_LUX id dev
  | .pressureSensor => numericStates STATE_PRESSURE_KPA pressureKPa dev
  | .flowSensor => numericStates STATE_FLOW_M3H id dev
  | .thermostat => thermostatStates dev

/-- `published_states`: the states of the role, and the battery of the device. -/
def publishedStates (role : Role) (dev : DeviceReading) (options : Options) : StateMap :=
  statesOf (statesFor dev options role ++
    [(STATE_BATTERY_LEVEL, (batteryPercent dev).map .int)])

/-! ## What a push carries -/

/-- The per-key tolerances of a role; a key without one compares exactly. -/
def tolerances : Role → List (String × ℚ)
  | .colorTemperatureLight => [(STATE_COLOR_TEMP_MIREDS, CT_TOLERANCE_MIREDS)]
  | .extendedColorLight =>
      [(STATE_HUE, HUE_TOLERANCE_DEGREES), (STATE_COLOR_TEMP_MIREDS, CT_TOLERANCE_MIREDS)]
  | _ => []

/-- The keys a role never publishes together. -/
def modeAlternatingKeys : Role → List String
  | .extendedColorLight => [STATE_COLOR_TEMP_MIREDS, STATE_HUE, STATE_SATURATION]
  | _ => []

/-- `_changed`. -/
def changedFrom (role : Role) (key : String) (before : Option PyValue) (after : PyValue) : Bool :=
  match before with
  | none => true
  | some before =>
      match (tolerances role).lookup key, before.number?, after.number? with
      | some tolerance, some first, some second => tolerance < |second - first|
      | _, _, _ => !before.equals after

/-- What `diff_from` finds: the keys to push, and the keys the device stopped answering. -/
structure StateDiff where
  changed : StateMap
  stopped : List String

/-- `diff_from`: the reading against the snapshot that was last pushed. -/
def diffFrom (role : Role) (pushed : Option StateMap) (newDev : DeviceReading)
    (options : Options) : StateDiff :=
  let before := pushed.getD ∅
  let after := publishedStates role newDev options
  let stopped := before.keys.filter (· ∉ after.keys)
  let alternating := modeAlternatingKeys role
  { changed := after.filterKeys fun key =>
      (after.get? key).any fun value => changedFrom role key (before.get? key) value
    stopped :=
      if after.keys.any (· ∈ alternating) then stopped.filter (· ∉ alternating) else stopped }

/-- `commanded_states`: only a colour-temperature command entitles to a push. -/
def commandedStates (role : Role) (command : String) (args : InsertionMap String PyValue) :
    StateMap :=
  if role = .colorTemperatureLight ∨ role = .extendedColorLight then
    if command = COMMAND_SET_COLOR_TEMP then
      match (args.get? STATE_COLOR_TEMP_MIREDS).bind PyValue.numeric? with
      | none => ∅
      | some mireds =>
          if mireds = 0 then ∅
          else .ofList [(STATE_COLOR_TEMP_MIREDS,
            .int ⌊clampTo (roundHalfEven mireds) MIREDS_MIN MIREDS_MAX⌋)]
    else ∅
  else ∅

/-! ## Colour channels -/

/-- What a colour light shows: a temperature of white, or a colour. -/
inductive ColorChannel
  | temperature
  | hueSaturation
deriving DecidableEq

/-- The channel a key belongs to. -/
def channelOf (key : String) : Option ColorChannel :=
  if key = STATE_COLOR_TEMP_MIREDS then some .temperature
  else if key = STATE_HUE ∨ key = STATE_SATURATION then some .hueSaturation
  else none

/-- The channel of the first colour key of a state map. -/
def channelOfMap (states : StateMap) : Option ColorChannel := states.keys.findSome? channelOf

/-- All colour keys of a state map belong to one channel. -/
def SingleChannel (states : StateMap) : Prop :=
  ∀ key ∈ states.keys, ∀ channel, channelOf key = some channel →
    channelOfMap states = some channel

theorem mem_keys_statesOf {entries : List (String × Option PyValue)} {key : String}
    (mem : key ∈ (statesOf entries).keys) : key ∈ entries.map Prod.fst := by
  rw [statesOf, InsertionMap.mem_keys_ofList] at mem
  rcases List.mem_map.mp mem with ⟨entry, listed, rfl⟩
  rcases List.mem_filterMap.mp listed with ⟨source, member, made⟩
  rcases Option.map_eq_some_iff.mp made with ⟨value, -, rfl⟩
  exact List.mem_map_of_mem member

/-- State maps whose colour keys all belong to the channel. -/
def OnlyChannel (channel : ColorChannel) (keys : List String) : Prop :=
  ∀ key ∈ keys, ∀ other, channelOf key = some other → other = channel

theorem singleChannel_of_only {states : StateMap} {channel : ColorChannel}
    (only : OnlyChannel channel states.keys) : SingleChannel states := by
  intro key mem found isFound
  obtain rfl := only key mem found isFound
  have some : (channelOfMap states).isSome := by
    rw [channelOfMap, List.findSome?_isSome_iff]
    exact ⟨key, mem, by rw [isFound]; rfl⟩
  rcases Option.isSome_iff_exists.mp some with ⟨first, isFirst⟩
  rcases List.exists_of_findSome?_eq_some isFirst with ⟨source, member, made⟩
  rw [isFirst, only source member first made]

/-- The keys a role can publish of a device. -/
def roleKeys (dev : DeviceReading) : Role → List String
  | .onOffPlugInUnit | .onOffLight => [STATE_ON_OFF]
  | .dimmableLight => [STATE_ON_OFF, STATE_LEVEL]
  | .colorTemperatureLight => [STATE_ON_OFF, STATE_LEVEL, STATE_COLOR_TEMP_MIREDS]
  | .extendedColorLight =>
      [STATE_ON_OFF, STATE_LEVEL] ++
        if useColorTemp dev then [STATE_COLOR_TEMP_MIREDS] else [STATE_SATURATION, STATE_HUE]
  | .windowCovering => [STATE_POSITION]
  | .doorLock => [STATE_LOCKED]
  | .occupancySensor => [STATE_OCCUPIED]
  | .contactSensor => [STATE_CONTACT]
  | .waterLeakDetector => [STATE_LEAK]
  | .waterFreezeDetector => [STATE_FREEZE]
  | .rainSensor => [STATE_RAIN]
  | .smokeAlarm => [STATE_SMOKE]
  | .coAlarm => [STATE_CO]
  | .temperatureSensor => [STATE_TEMPERATURE_C]
  | .humiditySensor => [STATE_HUMIDITY_PCT]
  | .lightSensor => [STATE_LUX]
  | .pressureSensor => [STATE_PRESSURE_KPA]
  | .flowSensor => [STATE_FLOW_M3H]
  | .thermostat =>
      [STATE_LOCAL_TEMPERATURE_C, STATE_HEATING_SETPOINT_C, STATE_COOLING_SETPOINT_C,
        STATE_SYSTEM_MODE]

theorem binaryStates_keys (stateKey : String) (dev : DeviceReading) (options : Options) :
    (binaryStates stateKey dev options).map Prod.fst ⊆ [stateKey] := by
  unfold binaryStates
  split
  · split <;> simp
  · split <;> simp

theorem statesFor_keys (role : Role) (dev : DeviceReading) (options : Options) :
    (statesFor dev options role).map Prod.fst ⊆ roleKeys dev role := by
  cases role
  case extendedColorLight =>
    simp only [statesFor, extendedColorStates, roleKeys, dimmableStates, onOffStates]
    split
    · simp [colorTempState]
    · unfold hueSaturationStates
      split <;> simp
  case doorLock =>
    simp only [statesFor, roleKeys]
    split <;> simp
  all_goals first
    | exact binaryStates_keys _ dev options
    | simp [statesFor, roleKeys, onOffStates, dimmableStates, colorTempState, numericStates,
        thermostatStates]

/-- The channel a role publishes of a device, if it publishes a colour at all. -/
def publishedChannel (dev : DeviceReading) : Role → ColorChannel
  | .extendedColorLight => if useColorTemp dev then .temperature else .hueSaturation
  | _ => .temperature

instance (channel : ColorChannel) (keys : List String) : Decidable (OnlyChannel channel keys) :=
  decidable_of_iff (∀ key ∈ keys, channelOf key = none ∨ channelOf key = some channel) <| by
    refine forall₂_congr fun key _ => ?_
    cases channelOf key <;> simp

theorem onlyChannel_roleKeys (role : Role) (dev : DeviceReading) :
    OnlyChannel (publishedChannel dev role) (STATE_BATTERY_LEVEL :: roleKeys dev role) := by
  cases role
  case extendedColorLight =>
    cases mode : useColorTemp dev with
    | true =>
        simp only [publishedChannel, roleKeys, mode]
        decide
    | false =>
        simp only [publishedChannel, roleKeys, mode]
        decide
  all_goals
    simp only [publishedChannel, roleKeys]
    decide

/-- What is published of one reading shows one colour channel. -/
theorem onlyChannel_publishedStates (role : Role) (dev : DeviceReading) (options : Options) :
    OnlyChannel (publishedChannel dev role) (publishedStates role dev options).keys := by
  intro key mem other isOther
  apply onlyChannel_roleKeys role dev key _ other isOther
  have listed := mem_keys_statesOf mem
  rw [List.map_append, List.mem_append] at listed
  rcases listed with state | battery
  · exact List.mem_cons_of_mem _ (statesFor_keys role dev options state)
  · rw [List.map_singleton, List.mem_singleton] at battery
    rw [battery]
    exact List.mem_cons_self

end IndigoMatter.Plugin
