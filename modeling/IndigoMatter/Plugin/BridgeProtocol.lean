import IndigoMatter.Bridge.Protocol
import IndigoMatter.Library.PyJson

/-!
# Wire vocabulary of the plugin

The roles and the desired state of one export, as `bridge_protocol.py` declares
them, and the plugin's twin of the formatter of published identities.  Python
writes an integer of any size in full, where the node writes a double.
-/

namespace IndigoMatter.Plugin

open IndigoMatter.Library
open IndigoMatter.Bridge (PUBLISHED_ID_PREFIX)

/-- `published_id_for`. -/
def publishedIdFor (indigoDeviceId : Int) (generation : Nat) : String :=
  if generation = 1 then PUBLISHED_ID_PREFIX ++ toString indigoDeviceId
  else PUBLISHED_ID_PREFIX ++ toString indigoDeviceId ++ "~" ++ toString generation

/-- The role enum, in the order the table of state keys declares it. -/
def ROLES : List String :=
  ["onOffPlugInUnit", "onOffLight", "dimmableLight", "colorTemperatureLight",
    "extendedColorLight", "windowCovering", "doorLock", "occupancySensor", "contactSensor",
    "waterLeakDetector", "waterFreezeDetector", "rainSensor", "smokeAlarm", "coAlarm",
    "temperatureSensor", "humiditySensor", "lightSensor", "pressureSensor", "flowSensor",
    "thermostat"]

def ARG_INDIGO_DEVICE_ID : String := "indigoDeviceId"

def ARG_PUBLISHED_AS : String := "publishedAs"

def ARG_STATES : String := "states"

def ARG_REACHABLE : String := "reachable"

/-- One exported accessory; an empty `publishedAs` stands for the default identity. -/
structure EndpointSpec where
  indigoDeviceId : Int
  role : String
  label : String
  reachable : Bool := true
  states : List (String × PyJson) := []
  options : List (String × PyJson) := []
  battery : Bool := false
  publishedAs : String := ""

namespace EndpointSpec

/-- The identity an export publishes as. -/
def identity (spec : EndpointSpec) : String :=
  if spec.publishedAs = "" then publishedIdFor spec.indigoDeviceId 1 else spec.publishedAs

/-- `to_wire`. -/
def toWire (spec : EndpointSpec) : List (String × PyJson) :=
  [(ARG_INDIGO_DEVICE_ID, .int spec.indigoDeviceId),
    ("role", .str spec.role),
    ("label", .str spec.label),
    (ARG_REACHABLE, .bool spec.reachable),
    (ARG_STATES, .dict spec.states),
    ("options", .dict spec.options)] ++
  (if spec.battery then [("battery", .bool true)] else []) ++
  (if spec.publishedAs ≠ "" ∧ spec.publishedAs ≠ publishedIdFor spec.indigoDeviceId 1 then
    [(ARG_PUBLISHED_AS, .str spec.publishedAs)]
  else [])

end EndpointSpec

end IndigoMatter.Plugin
