import IndigoMatter.Bridge.EndpointState

/-!
# What a push refuses

Every converter is a list of readers, one for each key it knows, and a reader looks at
its own key alone.  So a key that yields nothing on its own yields nothing beside other
keys, and a push is refused when none of its keys yields anything.

An object has each of its keys once.
-/

namespace IndigoMatter.Bridge

open IndigoMatter.Library

/-- A key a converter reads, and what it makes of the value. -/
structure Reader where
  key : String
  read : Json → Patch

/-- What a reader makes of its key. -/
def Reader.apply (reader : Reader) (states : Struct) : Patch :=
  ((Json.property states reader.key).map reader.read).getD []

def booleanReader (target : Attribute) (key : String) : Reader :=
  ⟨key, fun value =>
    match value with
    | .boolean value => [(target, .boolean value)]
    | _ => []⟩

def numberReader (target : Attribute) (key : String) : Reader :=
  ⟨key, fun value =>
    match value with
    | .number value => [(target, .number value)]
    | _ => []⟩

def measuredValueReader (target : Attribute) (key : String) : Reader :=
  ⟨key, fun value =>
    match value with
    | .number value => if value.isFinite then [(target, .number value)] else []
    | _ => []⟩

def systemModeReader : Reader :=
  ⟨"systemMode", fun value =>
    match value with
    | .string mode => if mode ∈ systemModes then [(.systemMode, .string mode)] else []
    | _ => []⟩

def levelReaders : List Reader :=
  [booleanReader .onOff "onOff", numberReader .currentLevel "level"]

def colorTempReader : Reader := numberReader .colorTemperatureMireds "colorTempMireds"

/-- The readers of a role, in the order in which its converter applies them. -/
def readers : Role → List Reader
  | .onOffPlugInUnit => [booleanReader .onOff "onOff"]
  | .onOffLight => [booleanReader .onOff "onOff"]
  | .dimmableLight => levelReaders
  | .colorTemperatureLight => levelReaders ++ [colorTempReader]
  | .extendedColorLight => levelReaders ++ [colorTempReader, numberReader .currentHue "hue",
      numberReader .currentSaturation "saturation"]
  | .occupancySensor => [booleanReader .occupancy "occupied"]
  | .contactSensor => [booleanReader .stateValue "contact"]
  | .waterLeakDetector => [booleanReader .stateValue "leak"]
  | .waterFreezeDetector => [booleanReader .stateValue "freeze"]
  | .rainSensor => [booleanReader .stateValue "rain"]
  | .smokeAlarm => [booleanReader .smokeState "smoke"]
  | .coAlarm => [booleanReader .coState "co"]
  | .temperatureSensor => [measuredValueReader .temperature "temperatureC"]
  | .humiditySensor => [measuredValueReader .humidity "humidityPct"]
  | .lightSensor => [measuredValueReader .illuminance "lux"]
  | .pressureSensor => [measuredValueReader .pressure "pressureKPa"]
  | .flowSensor => [measuredValueReader .flow "flowM3h"]
  | .thermostat => [numberReader .localTemperature "localTemperatureC",
      numberReader .occupiedHeatingSetpoint "heatingSetpointC",
      numberReader .occupiedCoolingSetpoint "coolingSetpointC", systemModeReader]
  | .doorLock => [booleanReader .lockState "locked"]
  | .windowCovering => [numberReader .positionLift "position"]

section Readers

variable (target : Attribute) (key : String) (states : Struct)

theorem booleanPatch_eq : booleanPatch target key states = (booleanReader target key).apply states := by
  unfold booleanPatch Reader.apply booleanReader
  cases Json.property states key with
  | none => rfl
  | some value => cases value <;> rfl

theorem numberPatch_eq : numberPatch target key states = (numberReader target key).apply states := by
  unfold numberPatch Reader.apply numberReader
  cases Json.property states key with
  | none => rfl
  | some value => cases value <;> rfl

theorem measuredValuePatch_eq :
    measuredValuePatch target key states = (measuredValueReader target key).apply states := by
  unfold measuredValuePatch Reader.apply measuredValueReader
  cases Json.property states key with
  | none => rfl
  | some value => cases value <;> rfl

theorem systemModePatch_eq : systemModePatch states = systemModeReader.apply states := by
  unfold systemModePatch Reader.apply systemModeReader
  cases Json.property states "systemMode" with
  | none => rfl
  | some value => cases value <;> rfl

end Readers

/-- A role's converter is its readers, one after the other. -/
theorem statePatch_eq_readers (role : Role) (states : Struct) :
    statePatch role states = (readers role).flatMap fun reader => reader.apply states := by
  cases role <;>
    simp [statePatch, readers, onOffPatch, levelPatch, colorPatch, thermostatPatch, doorLockPatch,
      windowCoveringPatch, levelReaders, colorTempReader, booleanPatch_eq, numberPatch_eq,
      measuredValuePatch_eq, systemModePatch_eq]

/-! ## Keys on their own and together -/

section Keys

variable {role : Role} {states : Struct}

theorem Reader.apply_single (reader : Reader) (field : String × Json) :
    reader.apply [field] = if reader.key = field.1 then reader.read field.2 else [] := by
  unfold Reader.apply Json.property
  rw [List.reverse_singleton, List.lookup_cons, List.lookup_nil]
  by_cases same : reader.key = field.1
  · rw [if_pos same, same, beq_self_eq_true]
    rfl
  · rw [if_neg same, beq_false_of_ne same]
    rfl

/-- A key yields nothing on its own when no reader of it makes anything of its value. -/
theorem statePatch_single_eq_nil_iff {field : String × Json} :
    statePatch role [field] = [] ↔
      ∀ reader ∈ readers role, reader.key = field.1 → reader.read field.2 = [] := by
  rw [statePatch_eq_readers, List.flatMap_eq_nil_iff]
  apply forall₂_congr
  intro reader _
  rw [Reader.apply_single]
  by_cases same : reader.key = field.1
  · simp [same]
  · simp [same]

theorem Reader.apply_eq_nil_iff {reader : Reader} :
    reader.apply states = [] ↔
      ∀ value, Json.property states reader.key = some value → reader.read value = [] := by
  unfold Reader.apply
  cases Json.property states reader.key with
  | none => simp
  | some value => simp

/-- An object yields nothing when each of its keys yields nothing on its own. -/
theorem statePatch_eq_nil_iff (distinct : (states.map Prod.fst).Nodup) :
    statePatch role states = [] ↔ ∀ field ∈ states, statePatch role [field] = [] := by
  rw [statePatch_eq_readers, List.flatMap_eq_nil_iff]
  constructor
  · intro empty field mem
    apply statePatch_single_eq_nil_iff.mpr
    intro reader known same
    apply Reader.apply_eq_nil_iff.mp (empty reader known)
    rw [same]
    exact property_of_mem distinct mem
  · intro empty reader known
    apply Reader.apply_eq_nil_iff.mpr
    intro value held
    exact statePatch_single_eq_nil_iff.mp (empty _ (mem_of_property held)) reader known rfl

/-- No role reads the battery. -/
theorem reader_key_ne {reader : Reader} (known : reader ∈ readers role) :
    reader.key ≠ "batteryLevel" := by
  revert reader
  cases role <;> decide

/-- The battery split leaves a sublist of the fields. -/
theorem splitBattery_sublist (states : Struct) : (splitBattery states).2.Sublist states := by
  unfold splitBattery
  split
  · split
    · exact List.filter_sublist
    · exact List.Sublist.refl states
  · exact List.Sublist.refl states

/-- It takes nothing but the battery. -/
theorem mem_splitBattery {field : String × Json} (given : field ∈ states) :
    field ∈ (splitBattery states).2 ∨ field.1 = "batteryLevel" := by
  unfold splitBattery
  split
  · split
    · by_cases battery : field.1 = "batteryLevel"
      · exact Or.inr battery
      · exact Or.inl (List.mem_filter.mpr ⟨given, decide_eq_true battery⟩)
    · exact Or.inl given
  · exact Or.inl given

theorem mem_rejectedStateKeys_iff {key : String} :
    key ∈ rejectedStateKeys role states ↔
      ∃ value, (key, value) ∈ (splitBattery states).2 ∧ statePatch role [(key, value)] = [] := by
  unfold rejectedStateKeys
  simp [List.mem_map, List.mem_filter]

/-- The fields whose keys are not among these. -/
def withoutKeys (keys : List String) (states : Struct) : Struct :=
  states.filter fun field => decide (field.1 ∉ keys)

/-- Taking rejected keys out of an object leaves its patch as it is. -/
theorem statePatch_withoutKeys (distinct : (states.map Prod.fst).Nodup) :
    statePatch role (withoutKeys (rejectedStateKeys role states) states) =
      statePatch role states := by
  rw [statePatch_eq_readers, statePatch_eq_readers]
  apply List.flatMap_congr
  intro reader known
  by_cases rejected : reader.key ∈ rejectedStateKeys role states
  · rcases mem_rejectedStateKeys_iff.mp rejected with ⟨value, rest, empty⟩
    have held := property_of_mem distinct ((splitBattery_sublist states).subset rest)
    have nothing := statePatch_single_eq_nil_iff.mp empty reader known rfl
    have removed : Json.property (withoutKeys (rejectedStateKeys role states) states)
        reader.key = none := by
      cases left : Json.property (withoutKeys (rejectedStateKeys role states) states)
          reader.key with
      | none => rfl
      | some other =>
          have mem := List.of_mem_filter (mem_of_property left)
          exact absurd rejected (of_decide_eq_true mem)
    unfold Reader.apply
    rw [held, removed]
    exact nothing.symm
  · have kept : Json.property (withoutKeys (rejectedStateKeys role states) states) reader.key =
        Json.property states reader.key :=
      property_filter (fun key => decide (key ∉ rejectedStateKeys role states)) states
        (decide_eq_true rejected)
    unfold Reader.apply
    rw [kept]

end Keys

/-! ## Refusals -/

theorem statePatchOrRefuse_error_iff {role : Role} {states : Struct} :
    (∃ error, statePatchOrRefuse role states = .error error) ↔
      states ≠ [] ∧ statePatch role states = [] := by
  unfold statePatchOrRefuse
  dsimp only
  constructor
  · rintro ⟨error, refused⟩
    split at refused
    · assumption
    · cases refused
  · intro nothing
    exact ⟨_, if_pos nothing⟩

/-- Nothing comes of an object whose other keys than a consumable battery are rejected. -/
theorem statePatch_eq_nil_iff_rejected {role : Role} {states : Struct}
    (distinct : (states.map Prod.fst).Nodup) :
    statePatch role states = [] ↔
      ∀ key ∈ (splitBattery states).2.map Prod.fst, key ∈ rejectedStateKeys role states := by
  rw [statePatch_eq_nil_iff distinct]
  constructor
  · intro empty key mem
    rcases List.mem_map.mp mem with ⟨⟨_, value⟩, rest, rfl⟩
    have given := (splitBattery_sublist states).subset rest
    exact mem_rejectedStateKeys_iff.mpr ⟨value, rest, empty _ given⟩
  · rintro rejected ⟨key, value⟩ given
    rcases mem_splitBattery given with rest | battery
    · have mem := rejected key (List.mem_map.mpr ⟨_, rest, rfl⟩)
      rcases mem_rejectedStateKeys_iff.mp mem with ⟨other, kept, empty⟩
      have same := List.inj_on_of_nodup_map distinct
        ((splitBattery_sublist states).subset kept) given rfl
      rwa [same] at empty
    · apply statePatch_single_eq_nil_iff.mpr
      intro reader known same
      exact absurd (same.trans battery) (reader_key_ne known)

namespace EndpointState

/-- A creation refuses what the decision about its states refuses. -/
theorem createEndpoint_error_iff {toDouble : Rat → JsNumber} {spec : EndpointSpec}
    {error : ProtocolError} :
    createEndpoint toDouble spec = .error error ↔
      acceptStates spec.role spec.states spec.battery spec.indigoDeviceId = .error error := by
  unfold createEndpoint
  cases acceptStates spec.role spec.states spec.battery spec.indigoDeviceId with
  | error refusal => simp [bind, Except.bind]
  | ok patch =>
      constructor
      · intro refused
        cases refused
      · intro refused
        cases refused

theorem pushOutcome_ne_protocol (patch : WrittenPatch) (faults : PushFaults)
    (error : ProtocolError) : pushOutcome patch faults ≠ .error (.protocol error) := by
  intro refused
  unfold pushOutcome at refused
  dsimp only at refused
  split at refused
  · cases refused
  · cases refused
  · cases refused
  · split at refused
    · cases refused
    · cases refused

/-- So does an update: what the Matter stack throws is no refusal. -/
theorem applyStates_error_iff {toDouble : Rat → JsNumber} {role : Role} {states : Struct}
    {hasBattery : Bool} {indigoDeviceId : Int} {faults : PushFaults} {state : EndpointState}
    {error : ProtocolError} :
    (state.applyStates toDouble role states hasBattery indigoDeviceId faults).1 =
        .error (.protocol error) ↔
      acceptStates role states hasBattery indigoDeviceId = .error error := by
  unfold applyStates
  cases acceptStates role states hasBattery indigoDeviceId with
  | error refusal => simp
  | ok patch =>
      constructor
      · intro refused
        exact absurd refused (pushOutcome_ne_protocol _ _ error)
      · intro refused
        cases refused

/-- A push is refused exactly when keys are given and all but a consumable battery are
rejected; the rejected keys never matter for the patch; and a creation and an update refuse
the same states in the same words. -/
theorem refusals_agree (role : Role) {states : Struct} (distinct : (states.map Prod.fst).Nodup) :
    ((∃ error, statePatchOrRefuse role states = .error error) ↔
      states ≠ [] ∧ ∀ key ∈ (splitBattery states).2.map Prod.fst,
        key ∈ rejectedStateKeys role states) ∧
    statePatch role (withoutKeys (rejectedStateKeys role states) states) =
      statePatch role states ∧
    ∀ (toDouble : Rat → JsNumber) (spec : EndpointSpec) (faults : PushFaults)
      (state : EndpointState) (error : ProtocolError), spec.role = role → spec.states = states →
      (createEndpoint toDouble spec = .error error ↔
        (state.applyStates toDouble role states spec.battery spec.indigoDeviceId faults).1 =
          .error (.protocol error)) := by
  refine ⟨?_, statePatch_withoutKeys distinct, ?_⟩
  · rw [statePatchOrRefuse_error_iff, statePatch_eq_nil_iff_rejected distinct]
  · rintro toDouble spec faults state error rfl rfl
    rw [createEndpoint_error_iff, applyStates_error_iff]

/-- A push of a switch state with a key the role does not know. -/
theorem refusals_agree_on_switch :
    statePatch .onOffLight (withoutKeys ["level"]
        [("onOff", .boolean true), ("level", .number (.ofInt 55))]) =
      statePatch .onOffLight [("onOff", .boolean true), ("level", .number (.ofInt 55))] := by
  have distinct : (([("onOff", .boolean true), ("level", .number (.ofInt 55))] : Struct).map
      Prod.fst).Nodup := by decide
  have rejected : rejectedStateKeys .onOffLight [("onOff", .boolean true),
      ("level", .number (.ofInt 55))] = ["level"] := by decide
  rw [← rejected]
  exact (refusals_agree .onOffLight distinct).2.1

/-- A battery level that reaches the converter is refused, though no key is rejected. -/
theorem battery_refused_without_rejected_key :
    ¬∀ (role : Role) (states : Struct), (states.map Prod.fst).Nodup →
      ((∃ error, statePatchOrRefuse role states = .error error) ↔
        ∀ key ∈ states.map Prod.fst, key ∈ rejectedStateKeys role states) := by
  intro always
  have decided := always .onOffLight [("batteryLevel", .number (.ofInt 48))] (by decide)
  have rejected := decided.mp ⟨_, rfl⟩ "batteryLevel" (by decide)
  exact absurd rejected (by decide)

end EndpointState

end IndigoMatter.Bridge
