import IndigoMatter.Bridge.Protocol

/-!
# State patches and their refusals

The part of `endpoints.ts` that decides which states an endpoint takes.  A
patch is the list of cluster attributes a `states` object writes, each with the
reading it is converted from; a patch with no attribute is the empty object of
the source.  Creating an endpoint and updating one refuse the same states.
-/

namespace IndigoMatter.Bridge

open IndigoMatter.Library

/-- The cluster attributes a role's converter can write. -/
inductive Attribute
  | onOff
  | currentLevel
  | colorTemperatureMireds
  | currentHue
  | currentSaturation
  | occupancy
  | stateValue
  | smokeState
  | coState
  | temperature
  | humidity
  | illuminance
  | pressure
  | flow
  | localTemperature
  | occupiedHeatingSetpoint
  | occupiedCoolingSetpoint
  | systemMode
  | lockState
  | positionLift
deriving DecidableEq

/-- The attributes a push writes, each with the reading it is converted from. -/
abbrev Patch := List (Attribute × Json)

/-- A key consumed when it holds a boolean. -/
def booleanPatch (target : Attribute) (key : String) (states : Struct) : Patch :=
  match Json.property states key with
  | some (.boolean value) => [(target, .boolean value)]
  | _ => []

/-- A key consumed when it holds a number, infinities included. -/
def numberPatch (target : Attribute) (key : String) (states : Struct) : Patch :=
  match Json.property states key with
  | some (.number value) => [(target, .number value)]
  | _ => []

/-- A key consumed when it holds a finite number. -/
def measuredValuePatch (target : Attribute) (key : String) (states : Struct) : Patch :=
  match Json.property states key with
  | some (.number value) => if value.isFinite then [(target, .number value)] else []
  | _ => []

def onOffPatch : Struct → Patch := booleanPatch .onOff "onOff"

def levelPatch : Struct → Patch := numberPatch .currentLevel "level"

/-- Colour temperature, and hue and saturation for the roles that have them. -/
def colorPatch (states : Struct) (hueSaturation : Bool) : Patch :=
  numberPatch .colorTemperatureMireds "colorTempMireds" states ++
    if hueSaturation then
      numberPatch .currentHue "hue" states ++ numberPatch .currentSaturation "saturation" states
    else []

/-- The `systemMode` strings the table maps, with the names every JavaScript
object inherits: the table is a plain object, so those are found too. -/
def systemModes : List String :=
  ["off", "heat", "cool", "auto", "constructor", "toString", "toLocaleString", "valueOf",
    "hasOwnProperty", "isPrototypeOf", "propertyIsEnumerable", "__proto__",
    "__defineGetter__", "__defineSetter__", "__lookupGetter__", "__lookupSetter__"]

def systemModePatch (states : Struct) : Patch :=
  match Json.property states "systemMode" with
  | some (.string mode) => if mode ∈ systemModes then [(.systemMode, .string mode)] else []
  | _ => []

def thermostatPatch (states : Struct) : Patch :=
  numberPatch .localTemperature "localTemperatureC" states ++
    numberPatch .occupiedHeatingSetpoint "heatingSetpointC" states ++
    numberPatch .occupiedCoolingSetpoint "coolingSetpointC" states ++
    systemModePatch states

def windowCoveringPatch : Struct → Patch := numberPatch .positionLift "position"

def doorLockPatch : Struct → Patch := booleanPatch .lockState "locked"

/-- The converter of each role. -/
def statePatch (role : Role) (states : Struct) : Patch :=
  match role with
  | .onOffPlugInUnit => onOffPatch states
  | .onOffLight => onOffPatch states
  | .dimmableLight => onOffPatch states ++ levelPatch states
  | .colorTemperatureLight => onOffPatch states ++ levelPatch states ++ colorPatch states false
  | .extendedColorLight => onOffPatch states ++ levelPatch states ++ colorPatch states true
  | .occupancySensor => booleanPatch .occupancy "occupied" states
  | .contactSensor => booleanPatch .stateValue "contact" states
  | .waterLeakDetector => booleanPatch .stateValue "leak" states
  | .waterFreezeDetector => booleanPatch .stateValue "freeze" states
  | .rainSensor => booleanPatch .stateValue "rain" states
  | .smokeAlarm => booleanPatch .smokeState "smoke" states
  | .coAlarm => booleanPatch .coState "co" states
  | .temperatureSensor => measuredValuePatch .temperature "temperatureC" states
  | .humiditySensor => measuredValuePatch .humidity "humidityPct" states
  | .lightSensor => measuredValuePatch .illuminance "lux" states
  | .pressureSensor => measuredValuePatch .pressure "pressureKPa" states
  | .flowSensor => measuredValuePatch .flow "flowM3h" states
  | .thermostat => thermostatPatch states
  | .doorLock => doorLockPatch states
  | .windowCovering => windowCoveringPatch states

/-! ## Colour-temperature bounds -/

def MIREDS_MIN : Int := 153

def MIREDS_MAX : Int := 500

/-- The physical bounds of one device, once validated. -/
structure CtBounds where
  minMireds : Int
  maxMireds : Int
deriving DecidableEq

/-- The warning about a pair that is ignored, with what it names. -/
structure UnusableCtBounds where
  min : Option Json
  max : Option Json
  indigoDeviceId : Int

/-- `isMiredsInt`, with the integer it found. -/
def miredsInt? : Option Json → Option Int
  | some (.number value) => value.integer?
  | _ => none

/-- The bounds a spec's options carry, and the warning when they are unusable. -/
def extractCtBounds (options : Struct) (indigoDeviceId : Int) :
    Option CtBounds × Option UnusableCtBounds :=
  let min := Json.property options "ctMinMireds"
  let max := Json.property options "ctMaxMireds"
  if min.isNone ∧ max.isNone then (none, none)
  else
    match miredsInt? min, miredsInt? max with
    | some low, some high =>
        if MIREDS_MIN ≤ low ∧ low < high ∧ high ≤ MIREDS_MAX then (some ⟨low, high⟩, none)
        else (none, some ⟨min, max, indigoDeviceId⟩)
    | _, _ => (none, some ⟨min, max, indigoDeviceId⟩)

/-! ## Refusals -/

/-- Peel a consumable `batteryLevel` off; the rest is for the role's converter. -/
def splitBattery (states : Struct) : Option JsNumber × Struct :=
  match Json.property states "batteryLevel" with
  | some (.number value) =>
      if value.isFinite then (some value, states.filter fun field => field.1 ≠ "batteryLevel")
      else (none, states)
  | _ => (none, states)

/-- The keys the role's converter would not consume on their own. -/
def rejectedStateKeys (role : Role) (states : Struct) : List String :=
  ((splitBattery states).2.filter fun field => statePatch role [field] = []).map Prod.fst

/-- `malformed_args` for a `batteryLevel` on an endpoint with no battery. -/
def refuseBatteryLevelWithoutBattery (indigoDeviceId : Int) : ProtocolError where
  code := .malformedArgs
  details := "endpoint " ++ integerText indigoDeviceId ++
    " was not created with a battery, so batteryLevel cannot be published; " ++
    "re-export the device (§4.1)"

/-- The role's patch, refusing a `states` that produced nothing from something. -/
def statePatchOrRefuse (role : Role) (states : Struct) : Except ProtocolError Patch :=
  let patch := statePatch role states
  if states ≠ [] ∧ patch = [] then
    .error ⟨.malformedArgs, "role " ++ role.name ++ " consumed none of the states given; " ++
      "rejected key(s): " ++ ", ".intercalate (rejectedStateKeys role states) ++ " (§4.2)"⟩
  else .ok patch

/-- The patch `createEndpoint` builds from its spec's states and `applyStates`
from a push, with the composition check both make first. -/
def acceptStates (role : Role) (states : Struct) (hasBattery : Bool) (indigoDeviceId : Int) :
    Except ProtocolError Patch :=
  match splitBattery states with
  | (some _, rest) =>
      if hasBattery then .ok (statePatch role rest)
      else .error (refuseBatteryLevelWithoutBattery indigoDeviceId)
  | (none, rest) => statePatchOrRefuse role rest

end IndigoMatter.Bridge
