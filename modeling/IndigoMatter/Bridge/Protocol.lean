import IndigoMatter.Library.Json
import IndigoMatter.Library.NumberText

/-!
# Wire vocabulary of the bridge node

Roles, error codes, published identities and the desired state of one exported
device, as `protocol.ts` declares them.

A published identity is a string, and `parsePublishedId` is strict about it: a
generation is the double nearest to the digits, so two long digit strings can
denote the same generation, and a device id has to be a safe integer.
-/

namespace IndigoMatter.Bridge

open IndigoMatter.Library

/-- The role enum of the protocol. -/
inductive Role
  | onOffPlugInUnit
  | onOffLight
  | dimmableLight
  | colorTemperatureLight
  | extendedColorLight
  | windowCovering
  | doorLock
  | occupancySensor
  | contactSensor
  | waterLeakDetector
  | waterFreezeDetector
  | rainSensor
  | smokeAlarm
  | coAlarm
  | temperatureSensor
  | humiditySensor
  | lightSensor
  | pressureSensor
  | flowSensor
  | thermostat
deriving DecidableEq

namespace Role

/-- The wire name of a role. -/
def name : Role → String
  | onOffPlugInUnit => "onOffPlugInUnit"
  | onOffLight => "onOffLight"
  | dimmableLight => "dimmableLight"
  | colorTemperatureLight => "colorTemperatureLight"
  | extendedColorLight => "extendedColorLight"
  | windowCovering => "windowCovering"
  | doorLock => "doorLock"
  | occupancySensor => "occupancySensor"
  | contactSensor => "contactSensor"
  | waterLeakDetector => "waterLeakDetector"
  | waterFreezeDetector => "waterFreezeDetector"
  | rainSensor => "rainSensor"
  | smokeAlarm => "smokeAlarm"
  | coAlarm => "coAlarm"
  | temperatureSensor => "temperatureSensor"
  | humiditySensor => "humiditySensor"
  | lightSensor => "lightSensor"
  | pressureSensor => "pressureSensor"
  | flowSensor => "flowSensor"
  | thermostat => "thermostat"

/-- Every role, in the order of the enum. -/
def all : List Role :=
  [onOffPlugInUnit, onOffLight, dimmableLight, colorTemperatureLight, extendedColorLight,
    windowCovering, doorLock, occupancySensor, contactSensor, waterLeakDetector,
    waterFreezeDetector, rainSensor, smokeAlarm, coAlarm, temperatureSensor,
    humiditySensor, lightSensor, pressureSensor, flowSensor, thermostat]

/-- The role a wire name denotes; `isRole` is that there is one. -/
def ofName? (text : String) : Option Role := all.find? fun role => role.name = text

@[simp]
theorem ofName?_name (role : Role) : ofName? role.name = some role := by
  cases role <;> rfl

theorem name_ne_empty (role : Role) : role.name ≠ "" := by
  cases role <;> decide

end Role

/-- The complete `error_code` domain. -/
inductive ErrorCode
  | unknownCommand
  | malformedArgs
  | versionMismatch
  | notAttached
  | unknownDevice
  | unknownRole
  | roleChange
  | massRemovalRefused
  | endpointMapInvalid
  | commissioningWindowFailed
  | internal
deriving DecidableEq

/-- A refusal that carries a wire code. -/
structure ProtocolError where
  code : ErrorCode
  details : String
deriving DecidableEq

/-- Anything a command of the node can throw. -/
inductive Thrown
  | protocol (error : ProtocolError)
  | matter (message : String)
deriving DecidableEq

/-- The message of a throwable, which is what `details` carries. -/
def describeError : Thrown → String
  | .protocol error => error.details
  | .matter message => message

/-! ## Published identities -/

/-- The cap on the length of a published identity. -/
def PUBLISHED_ID_MAX : Nat := 32

/-- The prefix of every published identity. -/
def PUBLISHED_ID_PREFIX : String := "indigo-"

/-- The largest safe integer. -/
def MAX_SAFE_INTEGER : Nat := 2 ^ 53 - 1

/-- The published identity of a device at a generation. -/
def publishedIdFor (indigoDeviceId : Int) (generation : Nat) : String :=
  if generation = 1 then PUBLISHED_ID_PREFIX ++ integerText indigoDeviceId
  else PUBLISHED_ID_PREFIX ++ integerText indigoDeviceId ++ "~" ++ numberText generation

/-- What a published identity denotes. -/
structure PublishedId where
  deviceId : Int
  generation : Nat
deriving DecidableEq

/-- The value of a string of decimal digits. -/
def digitsValue (digits : List Char) : Nat :=
  digits.foldl (fun value digit => 10 * value + (digit.toNat - '0'.toNat)) 0

/-- Split off the leading decimal digits. -/
def spanDigits (text : List Char) : List Char × List Char :=
  (text.takeWhile Char.isDigit, text.dropWhile Char.isDigit)

/-- The `(-?\d+)` group: a sign and at least one digit. -/
def parseSigned (text : List Char) : Option (Int × List Char) :=
  let negative := text.head? = some '-'
  let (digits, rest) := spanDigits (if negative then text.tail else text)
  if digits = [] then none
  else
    let magnitude : Int := digitsValue digits
    some (if negative then -magnitude else magnitude, rest)

/-- The `(?:~(\d+))?$` tail: nothing, or a generation of at least two. -/
def parseGeneration (text : List Char) : Option Nat :=
  match text with
  | [] => some 1
  | '~' :: tail =>
      let (digits, rest) := spanDigits tail
      let generation := nearestDouble (digitsValue digits)
      if digits ≠ [] ∧ rest = [] ∧ 2 ≤ generation then some generation else none
  | _ => none

/-- The inverse of `publishedIdFor`, or `none` for an unlawful identity. -/
def parsePublishedId (value : String) : Option PublishedId :=
  if PUBLISHED_ID_MAX < value.length then none
  else if PUBLISHED_ID_PREFIX.toList.isPrefixOf value.toList then
    match parseSigned (value.toList.drop PUBLISHED_ID_PREFIX.length) with
    | none => none
    | some (deviceId, rest) =>
        if MAX_SAFE_INTEGER < deviceId.natAbs then none
        else (parseGeneration rest).map fun generation => ⟨deviceId, generation⟩
  else none

/-- Whether the new identity is a later generation of the old one. -/
def supersedes (oldPublishedAs newPublishedAs : String) : Bool :=
  match parsePublishedId oldPublishedAs, parsePublishedId newPublishedAs with
  | some before, some after =>
      before.deviceId = after.deviceId && before.generation < after.generation
  | _, _ => false

/-- Superseding compares the generations of two identities of one device. -/
theorem supersedes_iff {oldPublishedAs newPublishedAs : String} :
    supersedes oldPublishedAs newPublishedAs = true ↔
      ∃ before after, parsePublishedId oldPublishedAs = some before ∧
        parsePublishedId newPublishedAs = some after ∧
        before.deviceId = after.deviceId ∧ before.generation < after.generation := by
  unfold supersedes
  cases parsePublishedId oldPublishedAs <;> cases parsePublishedId newPublishedAs <;> simp

theorem supersedes_irrefl (publishedAs : String) : supersedes publishedAs publishedAs = false := by
  rw [Bool.eq_false_iff, ne_eq, supersedes_iff]
  rintro ⟨before, after, first, second, -, newer⟩
  obtain rfl : before = after := Option.some.inj (first.symm.trans second)
  exact Nat.lt_irrefl _ newer

/-! ## Desired state -/

/-- The properties of a parsed object. -/
abbrev Struct := List (String × Json)

/-- The desired state of one exported device, as the plugin declares it. -/
structure EndpointSpec where
  indigoDeviceId : Int
  role : Role
  label : String
  publishedAs : String
  reachable : Bool
  states : Struct
  options : Struct
  battery : Bool

/-- The opt-in for a reconcile that would empty the live endpoint set. -/
def INTENT_REPLACE_ALL : String := "replace_all"

end IndigoMatter.Bridge
