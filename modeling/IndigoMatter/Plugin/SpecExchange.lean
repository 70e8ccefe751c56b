import IndigoMatter.Bridge.EndpointMapFile
import IndigoMatter.Bridge.Reconcile
import IndigoMatter.Library.JsonExchange
import IndigoMatter.Plugin.PublishedIdentity

/-!
# Endpoint specs on the wire

What the plugin writes of an export is what the node reads of it.  The two sides
agree on the role enum, on what a missing `battery` means and on the default of a
missing identity.  What the wire does not carry is an integer that is no double:
a device id beyond the doubles is read as its neighbour, or refused.
-/

namespace IndigoMatter.Plugin

open IndigoMatter.Library
open IndigoMatter.Bridge (Struct Role MAX_SAFE_INTEGER PUBLISHED_ID_MAX parsePublishedId
  parseDeviceId parseRole parseLabel parseFlag requireStruct parsePublishedAs
  parseEndpointSpec readIdentity_eq_some_iff keepsFirst_id Spelling Digits digits_toDigits
  parseSigned_append noDigitFirst_tailText optionalField markerField
  property_append property_cons property_optionalField property_markerField)

namespace EndpointSpec

/-- What the node finds in the frame: the digits of every integer, read as a double. -/
def received (spec : EndpointSpec) : Struct :=
  PyJson.fieldsToJson JsNumber.ofDigits spec.toWire

/-- An export whose role and identity the plugin accepts. -/
structure Lawful (spec : EndpointSpec) : Prop where
  role : spec.role ∈ ROLES
  identity : (parsePublished spec.identity).isSome

/-- What the node made of a spec is what the plugin meant by it. -/
structure Carries (spec : EndpointSpec) (parsed : Bridge.EndpointSpec) : Prop where
  indigoDeviceId : parsed.indigoDeviceId = spec.indigoDeviceId
  role : parsed.role.name = spec.role
  label : parsed.label = spec.label
  reachable : parsed.reachable = spec.reachable
  states : parsed.states = PyJson.fieldsToJson JsNumber.ofInt spec.states
  options : parsed.options = PyJson.fieldsToJson JsNumber.ofInt spec.options
  battery : parsed.battery = spec.battery
  publishedAs : parsed.publishedAs = spec.identity

/-- A spec survives the wire, and what it leaves out is exactly what has its default. -/
structure SurvivesWire (spec : EndpointSpec) : Prop where
  accepted : ∃ parsed, parseEndpointSpec (.object spec.received) = .ok parsed ∧
    spec.Carries parsed
  battery : Json.property spec.received "battery" = none ↔ spec.battery = false
  publishedAs : Json.property spec.received "publishedAs" = none ↔
    spec.identity = publishedIdFor spec.indigoDeviceId 1

/-- Every integer of a spec is a double. -/
structure OfDoubles (spec : EndpointSpec) : Prop where
  indigoDeviceId : IsDouble spec.indigoDeviceId
  states : ∀ integer ∈ PyJson.integersOfFields spec.states, IsDouble integer
  options : ∀ integer ∈ PyJson.integersOfFields spec.options, IsDouble integer

/-! ## The frame -/

/-- The identity the frame carries, when it carries one. -/
def sentIdentity (spec : EndpointSpec) : Option String :=
  if spec.publishedAs ≠ "" ∧ spec.publishedAs ≠ publishedIdFor spec.indigoDeviceId 1 then
    some spec.publishedAs
  else none

theorem sentIdentity_eq_none_iff {spec : EndpointSpec} :
    spec.sentIdentity = none ↔ spec.identity = publishedIdFor spec.indigoDeviceId 1 := by
  unfold sentIdentity identity
  by_cases empty : spec.publishedAs = ""
  · simp [empty]
  · simp [empty]

theorem sentIdentity_getD (spec : EndpointSpec) :
    spec.sentIdentity.getD (publishedIdFor spec.indigoDeviceId 1) = spec.identity := by
  unfold sentIdentity identity
  by_cases empty : spec.publishedAs = ""
  · simp [empty]
  · by_cases default : spec.publishedAs = publishedIdFor spec.indigoDeviceId 1
    · simp [default]
    · simp [empty, default]

theorem received_eq (spec : EndpointSpec) :
    spec.received =
      [("indigoDeviceId", .number (.ofDigits spec.indigoDeviceId)),
        ("role", .string spec.role),
        ("label", .string spec.label),
        ("reachable", .boolean spec.reachable),
        ("states", .object (PyJson.fieldsToJson JsNumber.ofDigits spec.states)),
        ("options", .object (PyJson.fieldsToJson JsNumber.ofDigits spec.options))] ++
      markerField "battery" spec.battery ++
      optionalField "publishedAs" (spec.sentIdentity.map Json.string) := by
  unfold received toWire sentIdentity
  by_cases sent : spec.publishedAs ≠ "" ∧ spec.publishedAs ≠ publishedIdFor spec.indigoDeviceId 1
  · rw [if_pos sent, if_pos sent]
    cases spec.battery <;> rfl
  · rw [if_neg sent, if_neg sent]
    cases spec.battery <;> rfl

/-- What the node's parser makes of a frame, field by field. -/
theorem parseEndpointSpec_received (spec : EndpointSpec) :
    parseEndpointSpec (.object spec.received) = (do
      let indigoDeviceId ← parseDeviceId (some (.number (.ofDigits spec.indigoDeviceId)))
      let role ← parseRole (some (.string spec.role))
      let publishedAs ← parsePublishedAs (spec.sentIdentity.map Json.string) indigoDeviceId
      return {
        indigoDeviceId, role, publishedAs
        label := spec.label
        reachable := spec.reachable
        states := PyJson.fieldsToJson JsNumber.ofDigits spec.states
        options := PyJson.fieldsToJson JsNumber.ofDigits spec.options
        battery := spec.battery }) := by
  simp only [parseEndpointSpec, received_eq, property_append, property_cons, property_markerField,
    property_optionalField]
  cases spec.battery <;>
    simp [parseLabel, parseFlag, requireStruct, Json.property, bind, Except.bind]

/-- The integers a node could read decide what it made of the frame. -/
theorem read_of_accepted {spec : EndpointSpec} {parsed : Bridge.EndpointSpec}
    (accepted : parseEndpointSpec (.object spec.received) = .ok parsed) :
    (JsNumber.ofDigits spec.indigoDeviceId).integer? = some parsed.indigoDeviceId ∧
      parsed.states = PyJson.fieldsToJson JsNumber.ofDigits spec.states ∧
      parsed.options = PyJson.fieldsToJson JsNumber.ofDigits spec.options := by
  rw [parseEndpointSpec_received] at accepted
  generalize JsNumber.ofDigits spec.indigoDeviceId = number at accepted ⊢
  cases read : number.integer? with
  | none =>
      simp only [parseDeviceId, read] at accepted
      cases accepted
  | some deviceId =>
      simp only [parseDeviceId, read, bind, Except.bind] at accepted
      split at accepted
      · cases accepted
      · split at accepted
        · cases accepted
        · obtain rfl := Except.ok.inj accepted
          exact ⟨rfl, rfl, rfl⟩

/-! ## The two sides -/

/-- Every role of the plugin is one of the node's. -/
theorem ofName?_of_mem_ROLES {name : String} (known : name ∈ ROLES) :
    ∃ role, Role.ofName? name = some role ∧ role.name = name := by
  have enums : ROLES = Role.all.map Role.name := rfl
  rw [enums] at known
  rcases List.mem_map.mp known with ⟨role, -, rfl⟩
  exact ⟨role, Role.ofName?_name role, rfl⟩

/-- Spellings of one text name one device. -/
theorem deviceId_eq_of_text {first second : Spelling} (firstDigits : Digits first.digits)
    (secondDigits : Digits second.digits) (same : first.text = second.text) :
    first.deviceId = second.deviceId := by
  have numbers := List.append_cancel_left same
  have firstRead := @parseSigned_append first.negative _ _ firstDigits
    (noDigitFirst_tailText first.later)
  have secondRead := @parseSigned_append second.negative _ _ secondDigits
    (noDigitFirst_tailText second.later)
  rw [numbers, secondRead] at firstRead
  exact (Prod.mk.inj (Option.some.inj firstRead)).1.symm

/-- A device whose default identity is lawful has a safe id. -/
theorem safe_of_default {deviceId : Int}
    (lawful : (parsePublished (publishedIdFor deviceId 1)).isSome) :
    deviceId.natAbs ≤ MAX_SAFE_INTEGER := by
  rcases Option.isSome_iff_exists.mp lawful with ⟨parsed, read⟩
  rw [parsePublished_eq, readIdentity_eq_some_iff keepsFirst_id] at read
  rcases read with ⟨-, spelling, spelled, text, -⟩
  have device : spelling.deviceId = deviceId := by
    rw [← Spelling.deviceId_plain deviceId 1]
    apply deviceId_eq_of_text spelled.digits (digits_toDigits _)
    rw [text, toList_publishedIdFor]
  rw [← device, spelling.natAbs_deviceId]
  exact spelled.safe

/-- On safe ids the two formatters write one default. -/
theorem default_eq_of_safe {deviceId : Int} (safe : deviceId.natAbs ≤ MAX_SAFE_INTEGER) :
    Bridge.publishedIdFor deviceId 1 = publishedIdFor deviceId 1 := by
  have small : deviceId.natAbs < 2 ^ 53 := Nat.lt_of_le_of_lt safe (by decide)
  rw [Bridge.publishedIdFor, if_pos rfl, integerText_of_lt small, publishedIdFor, if_pos rfl]

/-- Of a lawful spec, sent or left out, the identity arrives. -/
theorem Lawful.parsePublishedAs {spec : EndpointSpec} (lawful : spec.Lawful) :
    parsePublishedAs (spec.sentIdentity.map Json.string) spec.indigoDeviceId =
      .ok spec.identity := by
  have arrives : (spec.sentIdentity.map Json.string).getD
      (.string (Bridge.publishedIdFor spec.indigoDeviceId 1)) = .string spec.identity := by
    have meant := spec.sentIdentity_getD
    cases sent : spec.sentIdentity with
    | none =>
        rw [sent, Option.getD_none] at meant
        have safe := lawful.identity
        rw [← meant] at safe
        rw [Option.map_none, Option.getD_none, default_eq_of_safe (safe_of_default safe), meant]
    | some publishedAs =>
        rw [sent, Option.getD_some] at meant
        rw [Option.map_some, Option.getD_some, meant]
  have accepted : (parsePublishedId spec.identity).isSome := by
    rw [← isSome_parsePublished]
    exact lawful.identity
  rw [Bridge.parsePublishedAs, arrives]
  exact if_pos accepted

/-! ## What the wire carries -/

/-- A lawful spec whose integers are doubles is accepted and read as it was meant. -/
theorem Lawful.carries {spec : EndpointSpec} (lawful : spec.Lawful)
    (doubles : spec.OfDoubles) :
    ∃ parsed, parseEndpointSpec (.object spec.received) = .ok parsed ∧ spec.Carries parsed := by
  rcases ofName?_of_mem_ROLES lawful.role with ⟨role, named, name⟩
  have device : parseDeviceId (some (.number (.ofDigits spec.indigoDeviceId))) =
      .ok spec.indigoDeviceId := by
    rw [JsNumber.ofDigits_eq_ofInt_iff.mpr doubles.indigoDeviceId]
    simp [parseDeviceId]
  have known : parseRole (some (.string spec.role)) = .ok role := by
    simp [parseRole, named]
  have exactly {fields : List (String × PyJson)}
      (all : ∀ integer ∈ PyJson.integersOfFields fields, IsDouble integer) :
      PyJson.fieldsToJson JsNumber.ofDigits fields = PyJson.fieldsToJson JsNumber.ofInt fields :=
    (PyJson.fieldsToJson_eq_iff fields).mpr fun integer member =>
      JsNumber.ofDigits_eq_ofInt_iff.mpr (all integer member)
  rw [parseEndpointSpec_received, device, known]
  simp only [bind, Except.bind, lawful.parsePublishedAs]
  exact ⟨_, rfl, rfl, name, rfl, rfl, exactly doubles.states, exactly doubles.options, rfl, rfl⟩

theorem property_battery_received (spec : EndpointSpec) :
    Json.property spec.received "battery" = none ↔ spec.battery = false := by
  rw [received_eq]
  simp only [property_append, property_cons, property_markerField, property_optionalField]
  cases spec.battery <;> simp [Json.property]

theorem property_publishedAs_received (spec : EndpointSpec) :
    Json.property spec.received "publishedAs" = none ↔
      spec.identity = publishedIdFor spec.indigoDeviceId 1 := by
  rw [received_eq, ← sentIdentity_eq_none_iff]
  simp only [property_append, property_cons, property_markerField, property_optionalField]
  cases spec.sentIdentity <;> simp [Json.property]

/-- A lawful spec survives the wire just when every integer in it is a double. -/
theorem survivesWire_iff {spec : EndpointSpec} (lawful : spec.Lawful) :
    spec.SurvivesWire ↔ spec.OfDoubles := by
  constructor
  · rintro ⟨⟨parsed, accepted, carries⟩, -, -⟩
    rcases read_of_accepted accepted with ⟨device, states, options⟩
    rw [carries.indigoDeviceId] at device
    rw [carries.states] at states
    rw [carries.options] at options
    refine ⟨JsNumber.integer?_ofDigits_iff.mp device, ?_, ?_⟩
    · intro integer member
      have read := (PyJson.fieldsToJson_eq_iff spec.states).mp states.symm integer member
      exact JsNumber.ofDigits_eq_ofInt_iff.mp read
    · intro integer member
      have read := (PyJson.fieldsToJson_eq_iff spec.options).mp options.symm integer member
      exact JsNumber.ofDigits_eq_ofInt_iff.mp read
  · intro doubles
    exact ⟨lawful.carries doubles, property_battery_received spec,
      property_publishedAs_received spec⟩

/-- A blind that took over the accessory of another device. -/
def migratedBlind : EndpointSpec where
  indigoDeviceId := -42
  role := "windowCovering"
  label := "Blind"
  states := [("position", .int 30)]
  options := [("invert", .bool true)]
  battery := true
  publishedAs := "indigo-7~2"

theorem survivesWire_migratedBlind : migratedBlind.SurvivesWire := by
  refine (survivesWire_iff ⟨by decide, by decide +kernel⟩).mpr ⟨?_, ?_, ?_⟩
  · exact isDouble_of_lt (by decide)
  · intro integer member
    rw [List.mem_singleton.mp member]
    exact isDouble_of_lt (by decide)
  · intro integer member
    exact absurd member List.not_mem_nil

/-- A device one beyond the doubles arrives as its neighbour. -/
theorem not_survivesWire_beyond_doubles :
    ¬∀ spec : EndpointSpec, spec.Lawful → spec.SurvivesWire := by
  intro survive
  have lawful : Lawful ⟨2 ^ 53 + 1, "onOffLight", "Lamp", true, [], [], false, "indigo-7"⟩ :=
    ⟨by decide, by decide +kernel⟩
  rcases (survive _ lawful).accepted with ⟨parsed, accepted, carries⟩
  have device := (read_of_accepted accepted).1
  rw [carries.indigoDeviceId] at device
  have isDouble := (JsNumber.integer?_ofDigits_iff.mp device).1
  exact absurd isDouble (by decide +kernel)

end EndpointSpec

end IndigoMatter.Plugin
