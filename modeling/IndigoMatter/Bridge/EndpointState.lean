import Mathlib.Data.List.Nodup
import IndigoMatter.Bridge.Endpoints
import IndigoMatter.Library.Transition

/-!
# Building an endpoint and pushing to it

The attribute values behind a state patch.  `createEndpoint` merges the converted patch
into the initial state of the role, `applyStates` writes one to a live endpoint, and
`applyCtBoundsUpdate` moves the physical bounds of a colour-temperature light.  The
attributes kept here are those of the on/off, level, colour-temperature and battery
clusters; the other ones of a patch are carried along unconverted.

A parsed number is a double, and so is the result of an operation on it: `toDouble` is
that rounding.  The Matter stack applies a `set` as one transaction, and with no
`onLevel` set switching a light does not touch its level.
-/

namespace IndigoMatter.Bridge

open IndigoMatter.Library

/-! ## Properties of an object -/

/-- A property whose name passes a filter on names. -/
theorem property_filter (keep : String → Bool) (states : Struct) {name : String}
    (kept : keep name = true) :
    Json.property (states.filter fun field => keep field.1) name = Json.property states name := by
  unfold Json.property
  rw [← List.filter_reverse]
  induction states.reverse with
  | nil => rfl
  | cons field rest ih =>
      by_cases stays : keep field.1 = true
      · rw [List.filter_cons, if_pos stays, List.lookup_cons, List.lookup_cons, ih]
      · rw [List.filter_cons, if_neg stays, ih, List.lookup_cons]
        have differs : (name == field.1) = false := by
          apply beq_false_of_ne
          intro same
          exact stays (same ▸ kept)
        rw [differs]

/-- A property of an object is one of its fields. -/
theorem mem_of_property {states : Struct} {name : String} {value : Json}
    (held : Json.property states name = some value) : (name, value) ∈ states := by
  unfold Json.property at held
  rcases List.lookup_eq_some_iff.mp held with ⟨before, after, same, _⟩
  apply List.mem_reverse.mp
  rw [same]
  exact List.mem_append_right _ List.mem_cons_self

/-- A name that occurs once has its field as the property. -/
theorem property_of_mem {states : Struct} (distinct : (states.map Prod.fst).Nodup) {name : String}
    {value : Json} (mem : (name, value) ∈ states) : Json.property states name = some value := by
  cases held : Json.property states name with
  | none =>
      have missing := List.lookup_eq_none_iff.mp held (name, value) (List.mem_reverse.mpr mem)
      simp at missing
  | some other =>
      have same := List.inj_on_of_nodup_map distinct (mem_of_property held) mem rfl
      rw [(Prod.mk.inj same).2]

/-! ## Unit conversions -/

def MATTER_LEVEL_MAX : Rat := 254

def BATTERY_REMAINING_MAX : Rat := 200

/-- `Math.min(max, Math.max(min, value))`. -/
def clamp (value : JsNumber) (low high : Rat) : Rat :=
  match value with
  | .finite value => min high (max low value)
  | .infinite true => min high low
  | .infinite false => high

/-- An operation that keeps the infinities. -/
def onFinite (operation : Rat → JsNumber) : JsNumber → JsNumber
  | .finite value => operation value
  | .infinite negative => .infinite negative

section Conversions

variable (toDouble : Rat → JsNumber)

/-- `Math.floor(value + 0.5)`. -/
def roundHalfUp (value : JsNumber) : JsNumber :=
  onFinite (fun sum => .finite sum.floor) (onFinite (fun number => toDouble (number + 1 / 2)) value)

def percentToMatter (percent : JsNumber) : Rat :=
  let scaled := onFinite (fun product => toDouble (product / 100))
    (toDouble (clamp percent 0 100 * MATTER_LEVEL_MAX))
  clamp (roundHalfUp toDouble scaled) 0 MATTER_LEVEL_MAX

def percentToCurrentLevel (percent : JsNumber) : Rat := max 1 (percentToMatter toDouble percent)

def percentToBatteryRemaining (percent : JsNumber) : Rat :=
  clamp (roundHalfUp toDouble (onFinite (fun number => toDouble (number * 2)) percent)) 0
    BATTERY_REMAINING_MAX

def clampMireds (mireds : JsNumber) : Rat :=
  clamp (roundHalfUp toDouble mireds) MIREDS_MIN MIREDS_MAX

end Conversions

theorem le_clamp {value : JsNumber} {low high : Rat} (ordered : low ≤ high) :
    low ≤ clamp value low high := by
  unfold clamp
  split
  · exact le_min ordered (le_max_left low _)
  · exact le_min ordered le_rfl
  · exact ordered

theorem clamp_le {value : JsNumber} {low high : Rat} : clamp value low high ≤ high := by
  unfold clamp
  split
  · exact min_le_left high _
  · exact min_le_left high low
  · exact le_rfl

theorem clampMireds_mem (toDouble : Rat → JsNumber) (mireds : JsNumber) :
    (MIREDS_MIN : Rat) ≤ clampMireds toDouble mireds ∧
      clampMireds toDouble mireds ≤ MIREDS_MAX :=
  ⟨le_clamp (by decide +kernel), clamp_le⟩

/-! ## The state of an endpoint -/

/-- The colour-temperature half of the `colorControl` cluster. -/
structure ColorControl where
  colorTempPhysicalMinMireds : Rat
  colorTempPhysicalMaxMireds : Rat
  coupleColorTempToLevelMinMireds : Rat
  colorTemperatureMireds : Rat
deriving DecidableEq

/-- The clusters of an endpoint; a role has a level or a colour temperature or not, and a
battery whose reading may be `null`. -/
structure EndpointState where
  onOff : Bool
  currentLevel : Option Rat
  colorControl : Option ColorControl
  batPercentRemaining : Option (Option Rat)
deriving DecidableEq

/-- The roles with a `levelControl` cluster. -/
def Role.bearsLevel : Role → Bool
  | .dimmableLight => true
  | .colorTemperatureLight => true
  | .extendedColorLight => true
  | _ => false

def isCtRole (role : Role) : Bool :=
  role = .colorTemperatureLight || role = .extendedColorLight

/-- `colorControlDefaults`, with the seed both roles add to it. -/
def colorControlDefaults : ColorControl where
  colorTempPhysicalMinMireds := MIREDS_MIN
  colorTempPhysicalMaxMireds := MIREDS_MAX
  coupleColorTempToLevelMinMireds := MIREDS_MIN
  colorTemperatureMireds := MIREDS_MIN

/-- `initialState`, and `BATTERY_INITIAL` for an endpoint with a battery. -/
def initialState (role : Role) (battery : Bool) : EndpointState where
  onOff := false
  currentLevel := if role.bearsLevel then some 1 else none
  colorControl := if isCtRole role then some colorControlDefaults else none
  batPercentRemaining := if battery then some none else none

/-! ## Converted patches -/

/-- A patch with the values it writes. -/
structure WrittenPatch where
  onOff : Option Bool
  currentLevel : Option Rat
  colorTemperatureMireds : Option Rat
  batPercentRemaining : Option Rat
  others : Patch

/-- The boolean a patch writes to an attribute. -/
def Patch.boolean? (patch : Patch) (target : Attribute) : Option Bool :=
  patch.findSome? fun write =>
    match write with
    | (written, .boolean value) => if written = target then some value else none
    | _ => none

/-- The number a patch converts for an attribute. -/
def Patch.number? (patch : Patch) (target : Attribute) : Option JsNumber :=
  patch.findSome? fun write =>
    match write with
    | (written, .number value) => if written = target then some value else none
    | _ => none

namespace WrittenPatch

/-- The patch of the role's converter. -/
def ofPatch (toDouble : Rat → JsNumber) (patch : Patch) : WrittenPatch where
  onOff := patch.boolean? .onOff
  currentLevel := (patch.number? .currentLevel).map (percentToCurrentLevel toDouble)
  colorTemperatureMireds :=
    (patch.number? .colorTemperatureMireds).map (clampMireds toDouble)
  batPercentRemaining := none
  others := patch.filter fun write =>
    write.1 ≠ .onOff ∧ write.1 ≠ .currentLevel ∧ write.1 ≠ .colorTemperatureMireds

/-- `retainLevelWhileOff`: a pushed level of zero writes no level. -/
def retainLevelWhileOff (rest : Struct) (patch : WrittenPatch) : WrittenPatch :=
  match Json.property rest "level" with
  | some (.number (.finite value)) =>
      if value = 0 then { patch with currentLevel := none } else patch
  | _ => patch

/-- The clamp into the bounds the endpoint advertises. -/
def clampToLiveBounds (state : EndpointState) (patch : WrittenPatch) : WrittenPatch :=
  let low : Rat := (state.colorControl.map (·.colorTempPhysicalMinMireds)).getD (MIREDS_MIN : Rat)
  let high : Rat := (state.colorControl.map (·.colorTempPhysicalMaxMireds)).getD (MIREDS_MAX : Rat)
  { patch with
    colorTemperatureMireds :=
      patch.colorTemperatureMireds.map fun mireds => clamp (.finite mireds) low high }

/-- `patch[POWER_SOURCE] = battery`. -/
def withBattery (battery : Option Rat) (patch : WrittenPatch) : WrittenPatch :=
  { patch with batPercentRemaining := battery }

/-- Whether nothing is left once `onOff` is taken out. -/
def residualIsEmpty (patch : WrittenPatch) : Bool :=
  patch.currentLevel.isNone && patch.colorTemperatureMireds.isNone &&
    patch.batPercentRemaining.isNone && patch.others.isEmpty

end WrittenPatch

namespace EndpointState

/-- The attributes a patch writes besides `onOff`. -/
def write (patch : WrittenPatch) (state : EndpointState) : EndpointState where
  onOff := state.onOff
  currentLevel := patch.currentLevel.or state.currentLevel
  colorControl := state.colorControl.map fun color =>
    { color with
      colorTemperatureMireds :=
        patch.colorTemperatureMireds.getD color.colorTemperatureMireds }
  batPercentRemaining := state.batPercentRemaining.map patch.batPercentRemaining.or

/-! ## Creation -/

/-- The merge `createEndpoint` makes last, when the spec carries usable bounds. -/
def ctBoundsOverride (bounds : CtBounds) (color : ColorControl) : ColorControl where
  colorTempPhysicalMinMireds := bounds.minMireds
  colorTempPhysicalMaxMireds := bounds.maxMireds
  coupleColorTempToLevelMinMireds := bounds.minMireds
  colorTemperatureMireds :=
    clamp (.finite color.colorTemperatureMireds) bounds.minMireds bounds.maxMireds

/-- `createEndpoint`: a level of zero is written like any other here. -/
def createEndpoint (toDouble : Rat → JsNumber) (spec : EndpointSpec) :
    Except ProtocolError EndpointState := do
  let patch ← acceptStates spec.role spec.states spec.battery spec.indigoDeviceId
  let battery := (splitBattery spec.states).1.map (percentToBatteryRemaining toDouble)
  let written := (WrittenPatch.ofPatch toDouble patch).withBattery battery
  let merged := (initialState spec.role spec.battery).write written
  let ctBounds :=
    if isCtRole spec.role then (extractCtBounds spec.options spec.indigoDeviceId).1 else none
  return { merged with
    onOff := written.onOff.getD merged.onOff
    colorControl :=
      match ctBounds with
      | none => merged.colorControl
      | some bounds => merged.colorControl.map (ctBoundsOverride bounds) }

/-! ## Updates -/

/-- What the Matter stack answers to the two halves of a push: a message when it fails. -/
structure PushFaults where
  onOffAct : Option String
  residualSet : Option String

/-- The act on the on/off cluster. -/
def applyIndigoOnOff (onOff : Option Bool) (fault : Option String) (state : EndpointState) :
    EndpointState :=
  match onOff, fault with
  | some value, none => { state with onOff := value }
  | _, _ => state

/-- The write of the rest of a patch. -/
def applyResidual (patch : WrittenPatch) (fault : Option String) (state : EndpointState) :
    EndpointState :=
  if patch.residualIsEmpty then state
  else
    match fault with
    | none => state.write patch
    | some _ => state

/-- What a push throws for the halves that failed. -/
def pushOutcome (patch : WrittenPatch) (faults : PushFaults) : Except Thrown Unit :=
  let onOffFailure := patch.onOff.bind fun _ => faults.onOffAct
  let residualFailure := if patch.residualIsEmpty then none else faults.residualSet
  match onOffFailure, residualFailure with
  | none, none => .ok ()
  | none, some message => .error (.matter message)
  | some _, some _ =>
      .error (.matter "set_state failed on both halves: the onOff act and the residual set")
  | some message, none =>
      if patch.residualIsEmpty then .error (.matter message)
      else .error (.matter ("set_state applied the residual attributes but the onOff half " ++
        "failed: " ++ message))

/-- The patch `applyStates` writes for a push that is not refused. -/
def pushedPatch (toDouble : Rat → JsNumber) (patch : Patch) (states : Struct)
    (state : EndpointState) : WrittenPatch :=
  let split := splitBattery states
  (((WrittenPatch.ofPatch toDouble patch).retainLevelWhileOff split.2).clampToLiveBounds
    state).withBattery (split.1.map (percentToBatteryRemaining toDouble))

/-- `applyStates`. -/
def applyStates (toDouble : Rat → JsNumber) (role : Role) (states : Struct) (hasBattery : Bool)
    (indigoDeviceId : Int) (faults : PushFaults) (state : EndpointState) :
    Except Thrown Unit × EndpointState :=
  match acceptStates role states hasBattery indigoDeviceId with
  | .error error => (.error (.protocol error), state)
  | .ok patch =>
      let written := pushedPatch toDouble patch states state
      (pushOutcome written faults,
        (state.applyIndigoOnOff written.onOff faults.onOffAct).applyResidual written
          faults.residualSet)

/-- What the Matter stack answers to the write of new bounds and to the bump after it. -/
structure BoundsFaults where
  set : Option String
  increaseConfigurationVersion : Option String

/-- The one write of new bounds, with the live colour temperature clamped into them. -/
def movedBounds (desired : CtBounds) (live : ColorControl) : ColorControl where
  colorTempPhysicalMinMireds := desired.minMireds
  colorTempPhysicalMaxMireds := desired.maxMireds
  colorTemperatureMireds :=
    clamp (.finite live.colorTemperatureMireds) desired.minMireds desired.maxMireds
  coupleColorTempToLevelMinMireds := desired.minMireds

/-- `applyCtBoundsUpdate`. -/
def applyCtBoundsUpdate (role : Role) (options : Struct) (indigoDeviceId : Int)
    (faults : BoundsFaults) (state : EndpointState) : Except Thrown Unit × EndpointState :=
  if isCtRole role then
    match (extractCtBounds options indigoDeviceId).1, state.colorControl with
    | some desired, some live =>
        if live.colorTempPhysicalMinMireds = desired.minMireds ∧
            live.colorTempPhysicalMaxMireds = desired.maxMireds then (.ok (), state)
        else
          match faults.set, faults.increaseConfigurationVersion with
          | some message, _ => (.error (.matter message), state)
          | none, some message =>
              (.error (.matter message),
                { state with colorControl := some (movedBounds desired live) })
          | none, none =>
              (.ok (), { state with colorControl := some (movedBounds desired live) })
    | _, _ => (.ok (), state)
  else (.ok (), state)

end EndpointState

/-! ## The physical range -/

/-- The bounds are apart and within the generic ones, and the colour temperature and the
coupling respect them. -/
structure ColorControl.InPhysicalRange (color : ColorControl) : Prop where
  above : 153 ≤ color.colorTempPhysicalMinMireds
  apart : color.colorTempPhysicalMinMireds < color.colorTempPhysicalMaxMireds
  below : color.colorTempPhysicalMaxMireds ≤ 500
  low : color.colorTempPhysicalMinMireds ≤ color.colorTemperatureMireds
  high : color.colorTemperatureMireds ≤ color.colorTempPhysicalMaxMireds
  coupled : color.coupleColorTempToLevelMinMireds = color.colorTempPhysicalMinMireds

/-- A validated pair lies in the generic range, its ends apart. -/
theorem extractCtBounds_spec {options : Struct} {indigoDeviceId : Int} {bounds : CtBounds}
    (usable : (extractCtBounds options indigoDeviceId).1 = some bounds) :
    MIREDS_MIN ≤ bounds.minMireds ∧ bounds.minMireds < bounds.maxMireds ∧
      bounds.maxMireds ≤ MIREDS_MAX := by
  unfold extractCtBounds at usable
  dsimp only at usable
  split at usable
  · cases usable
  · split at usable
    · split at usable
      · rename_i within
        obtain rfl := Option.some.inj usable
        exact within
      · cases usable
    · cases usable

namespace ColorControl

/-- Usable bounds with any value clamped into them are in the physical range. -/
theorem inPhysicalRange_of_clamped {options : Struct} {indigoDeviceId : Int} {bounds : CtBounds}
    (usable : (extractCtBounds options indigoDeviceId).1 = some bounds) (value : JsNumber) :
    InPhysicalRange ⟨bounds.minMireds, bounds.maxMireds, bounds.minMireds,
      clamp value bounds.minMireds bounds.maxMireds⟩ := by
  rcases extractCtBounds_spec usable with ⟨above, apart, below⟩
  change 153 ≤ bounds.minMireds at above
  change bounds.maxMireds ≤ 500 at below
  have above' : (153 : Rat) ≤ bounds.minMireds := by exact_mod_cast above
  have apart' : (bounds.minMireds : Rat) < bounds.maxMireds := by exact_mod_cast apart
  have below' : (bounds.maxMireds : Rat) ≤ 500 := by exact_mod_cast below
  exact ⟨above', apart', below', le_clamp apart'.le, clamp_le, rfl⟩

variable {color : ColorControl}

theorem inPhysicalRange_defaults : colorControlDefaults.InPhysicalRange := by
  constructor <;> decide +kernel

/-- A temperature inside the bounds may be written. -/
theorem InPhysicalRange.with_temperature (within : color.InPhysicalRange) {mireds : Rat}
    (low : color.colorTempPhysicalMinMireds ≤ mireds)
    (high : mireds ≤ color.colorTempPhysicalMaxMireds) :
    { color with colorTemperatureMireds := mireds }.InPhysicalRange :=
  { within with low := low, high := high }

end ColorControl

namespace EndpointState

/-- The colour temperature of an endpoint that has one is in the physical range. -/
def InPhysicalRange (state : EndpointState) : Prop :=
  ∃ color, state.colorControl = some color ∧ color.InPhysicalRange

variable {toDouble : Rat → JsNumber} {role : Role} {state : EndpointState}

theorem colorControl_initialState (ct : isCtRole role = true) (battery : Bool) :
    (initialState role battery).colorControl = some colorControlDefaults := by
  unfold initialState
  exact if_pos ct

/-- The temperature a new endpoint is seeded with. -/
theorem seeded_mem (toDouble : Rat → JsNumber) (patch : Patch) :
    (153 : Rat) ≤ (WrittenPatch.ofPatch toDouble patch).colorTemperatureMireds.getD 153 ∧
      (WrittenPatch.ofPatch toDouble patch).colorTemperatureMireds.getD 153 ≤ 500 := by
  unfold WrittenPatch.ofPatch
  cases patch.number? .colorTemperatureMireds with
  | none => constructor <;> norm_num
  | some mireds =>
      have within := clampMireds_mem toDouble mireds
      exact ⟨by exact_mod_cast within.1, by exact_mod_cast within.2⟩

/-- A new endpoint is in range: the pushed temperature is clamped to the generic bounds, and
usable bounds of its own clamp it again. -/
theorem inPhysicalRange_createEndpoint {spec : EndpointSpec} (ct : isCtRole spec.role = true)
    (created : createEndpoint toDouble spec = .ok state) : state.InPhysicalRange := by
  unfold createEndpoint at created
  cases accepted : acceptStates spec.role spec.states spec.battery spec.indigoDeviceId with
  | error error => simp [accepted, bind, Except.bind] at created
  | ok patch =>
      simp only [accepted, bind, Except.bind, pure, Except.pure, Except.ok.injEq] at created
      subst created
      rw [if_pos ct]
      unfold InPhysicalRange write
      rw [colorControl_initialState ct]
      dsimp only [Option.map_some]
      cases usable : (extractCtBounds spec.options spec.indigoDeviceId).1 with
      | some bounds =>
          exact ⟨_, rfl, ColorControl.inPhysicalRange_of_clamped usable _⟩
      | none =>
          refine ⟨_, rfl, ?_⟩
          apply ColorControl.inPhysicalRange_defaults.with_temperature
          · exact (seeded_mem toDouble patch).1
          · exact (seeded_mem toDouble patch).2

/-- A pushed temperature is clamped into the live bounds. -/
theorem pushedPatch_mem {color : ColorControl} (live : state.colorControl = some color)
    (ordered : color.colorTempPhysicalMinMireds ≤ color.colorTempPhysicalMaxMireds)
    {patch : Patch} {states : Struct} {mireds : Rat}
    (pushed : (pushedPatch toDouble patch states state).colorTemperatureMireds = some mireds) :
    color.colorTempPhysicalMinMireds ≤ mireds ∧ mireds ≤ color.colorTempPhysicalMaxMireds := by
  unfold pushedPatch WrittenPatch.withBattery WrittenPatch.clampToLiveBounds at pushed
  simp only [live, Option.map_some, Option.getD_some] at pushed
  rcases Option.map_eq_some_iff.mp pushed with ⟨_, _, rfl⟩
  exact ⟨le_clamp ordered, clamp_le⟩

theorem colorControl_applyIndigoOnOff (onOff : Option Bool) (fault : Option String) :
    (state.applyIndigoOnOff onOff fault).colorControl = state.colorControl := by
  unfold applyIndigoOnOff
  split <;> rfl

/-- Writing a temperature that respects the bounds. -/
theorem InPhysicalRange.applyResidual (within : state.InPhysicalRange) {patch : WrittenPatch}
    (respects : ∀ color mireds, state.colorControl = some color →
      patch.colorTemperatureMireds = some mireds →
      color.colorTempPhysicalMinMireds ≤ mireds ∧ mireds ≤ color.colorTempPhysicalMaxMireds)
    (fault : Option String) : (state.applyResidual patch fault).InPhysicalRange := by
  unfold EndpointState.applyResidual
  split
  · exact within
  · split
    · rcases within with ⟨color, live, range⟩
      have written : (state.write patch).colorControl = some { color with
          colorTemperatureMireds :=
            patch.colorTemperatureMireds.getD color.colorTemperatureMireds } := by
        unfold write
        rw [live]
        rfl
      refine ⟨_, written, ?_⟩
      cases pushed : patch.colorTemperatureMireds with
      | none => exact range
      | some mireds =>
          rcases respects color mireds live pushed with ⟨low, high⟩
          exact range.with_temperature low high
    · exact within

/-- A push clamps its temperature into the live bounds. -/
theorem InPhysicalRange.applyStates (within : state.InPhysicalRange) (states : Struct)
    (hasBattery : Bool) (indigoDeviceId : Int) (faults : PushFaults) :
    (state.applyStates toDouble role states hasBattery indigoDeviceId faults).2.InPhysicalRange := by
  unfold EndpointState.applyStates
  split
  · exact within
  · rename_i patch _
    rcases within with ⟨color, live, range⟩
    apply InPhysicalRange.applyResidual
    · exact ⟨color, (colorControl_applyIndigoOnOff _ _).trans live, range⟩
    · intro shown mireds found pushed
      rw [colorControl_applyIndigoOnOff, live] at found
      obtain rfl := Option.some.inj found
      exact pushedPatch_mem live range.apart.le pushed

/-- Moved bounds take the live temperature along. -/
theorem InPhysicalRange.applyCtBoundsUpdate (within : state.InPhysicalRange) (options : Struct)
    (indigoDeviceId : Int) (faults : BoundsFaults) :
    (state.applyCtBoundsUpdate role options indigoDeviceId faults).2.InPhysicalRange := by
  unfold EndpointState.applyCtBoundsUpdate
  by_cases ct : isCtRole role = true
  · rw [if_pos ct]
    split
    · rename_i desired live usable _
      split
      · exact within
      · have moved := ColorControl.inPhysicalRange_of_clamped usable
          (.finite live.colorTemperatureMireds)
        split
        · exact within
        · exact ⟨_, rfl, moved⟩
        · exact ⟨_, rfl, moved⟩
    · exact within
  · rw [if_neg ct]
    exact within

/-- A call on the endpoint of one published identity. -/
inductive ColorCall
  | createEndpoint (spec : EndpointSpec)
  | applyStates (states : Struct) (hasBattery : Bool) (indigoDeviceId : Int)
      (faults : PushFaults)
  | applyCtBoundsUpdate (options : Struct) (indigoDeviceId : Int) (faults : BoundsFaults)

/-- One call; a creation that is refused leaves the endpoint there was. -/
def step (toDouble : Rat → JsNumber) (role : Role) :
    LabelledStep (Option EndpointState) ColorCall :=
  fun endpoint call =>
    match call with
    | .createEndpoint spec =>
        if spec.role = role then
          match createEndpoint toDouble spec with
          | .ok created => some (some created)
          | .error _ => some endpoint
        else none
    | .applyStates states hasBattery indigoDeviceId faults =>
        endpoint.map fun live =>
          some (live.applyStates toDouble role states hasBattery indigoDeviceId faults).2
    | .applyCtBoundsUpdate options indigoDeviceId faults =>
        endpoint.map fun live =>
          some (live.applyCtBoundsUpdate role options indigoDeviceId faults).2

/-- The endpoint is in range, once there is one. -/
def LiveInRange (endpoint : Option EndpointState) : Prop :=
  ∀ live, endpoint = some live → live.InPhysicalRange

theorem inPhysicalRange_step (ct : isCtRole role = true) {endpoint next : Option EndpointState}
    {call : ColorCall} (within : LiveInRange endpoint)
    (taken : step toDouble role endpoint call = some next) : LiveInRange next := by
  unfold step at taken
  intro live reached
  subst reached
  cases call with
  | createEndpoint spec =>
      dsimp only at taken
      split at taken
      · rename_i same
        subst same
        split at taken
        · rename_i created accepted
          obtain rfl := Option.some.inj (Option.some.inj taken)
          exact inPhysicalRange_createEndpoint ct accepted
        · exact within live (Option.some.inj taken)
      · cases taken
  | applyStates states hasBattery indigoDeviceId faults =>
      rcases Option.map_eq_some_iff.mp taken with ⟨before, held, after⟩
      obtain rfl := Option.some.inj after
      exact (within before held).applyStates _ _ _ _
  | applyCtBoundsUpdate options indigoDeviceId faults =>
      rcases Option.map_eq_some_iff.mp taken with ⟨before, held, after⟩
      obtain rfl := Option.some.inj after
      exact (within before held).applyCtBoundsUpdate _ _ _

/-- Whatever calls have been made, the colour temperature of a colour-temperature endpoint
is in the physical range. -/
theorem inPhysicalRange_of_run (ct : isCtRole role = true) {calls : List ColorCall}
    {final : EndpointState} (run : Run (step toDouble role) none calls (some final)) :
    final.InPhysicalRange := by
  have within : LiveInRange (some final) := by
    apply run.invariant
    · intro live none_created
      cases none_created
    · intro endpoint call next holds _ taken
      exact inPhysicalRange_step ct holds taken
  exact within final rfl

/-- A colour light of Indigo device 1 with these states and options. -/
def colorLight (states options : Struct) : EndpointSpec where
  indigoDeviceId := 1
  role := .extendedColorLight
  label := "Strip"
  publishedAs := "indigo-1"
  reachable := true
  states := states
  options := options
  battery := false

/-- The options of a spec with these bounds. -/
def ctOptions (low high : Int) : Struct :=
  [("ctMinMireds", .number (.ofInt low)), ("ctMaxMireds", .number (.ofInt high))]

theorem inPhysicalRange_after_narrowing :
    ∃ calls final, Run (step .finite .extendedColorLight) none calls (some final) ∧
      calls.length = 3 ∧ final.InPhysicalRange := by
  have run : Run (step .finite .extendedColorLight) none
      [.createEndpoint (colorLight [("colorTempMireds", .number (.ofInt 200))] (ctOptions 250 300)),
        .applyStates [("colorTempMireds", .number (.ofInt 290))] false 1 ⟨none, none⟩,
        .applyCtBoundsUpdate (ctOptions 260 280) 1 ⟨none, none⟩]
      (some ⟨false, some 1, some ⟨260, 280, 260, 280⟩, none⟩) :=
    @runWhere_of_follow _ _ _ _ (fun _ _ => instDecidableTrue) _ _ _ (by decide +kernel)
  exact ⟨_, _, run, rfl, inPhysicalRange_of_run rfl run⟩

end EndpointState

end IndigoMatter.Bridge
