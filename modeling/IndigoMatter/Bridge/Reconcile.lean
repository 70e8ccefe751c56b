import IndigoMatter.Bridge.Protocol
import IndigoMatter.Library.InsertionMap

/-!
# Parsing and planning a reconcile

`parseEndpointSpecs` reads the `endpoints` array of an `attach`, and
`planReconcile` sorts the desired specs into what has to happen to the live
set.  The plan is keyed on published identities while the live set is keyed on
device ids, so what keeps the two consistent are the two uniqueness checks of
the parser: no device id and no identity occurs twice in an accepted list.
-/

namespace IndigoMatter.Bridge

open IndigoMatter.Library

/-- A refusal with code `malformed_args`. -/
def malformed {α : Type} (details : String) : Except ProtocolError α :=
  .error ⟨.malformedArgs, details⟩

/-- `states` and `options`: absent means empty, anything but an object is refused. -/
def requireStruct (value : Option Json) (what : String) : Except ProtocolError Struct :=
  match value with
  | none => .ok []
  | some (.object fields) => .ok fields
  | some _ => malformed (what ++ " must be an object")

/-- A device id is any integer number. -/
def parseDeviceId (value : Option Json) : Except ProtocolError Int :=
  match value with
  | some (.number number) =>
      match number.integer? with
      | some deviceId => .ok deviceId
      | none => malformed "indigoDeviceId must be an integer"
  | _ => malformed "indigoDeviceId must be an integer"

/-- An optional flag with its default. -/
def parseFlag (value : Option Json) (default : Bool) (what : String) :
    Except ProtocolError Bool :=
  match value with
  | none => .ok default
  | some (.boolean flag) => .ok flag
  | some _ => malformed (what ++ " must be a boolean")

/-- `endpoint.role`: a string of the role enum. -/
def parseRole (value : Option Json) : Except ProtocolError Role :=
  match value with
  | some (.string text) =>
      match Role.ofName? text with
      | some role => .ok role
      | none => .error ⟨.unknownRole, "role " ++ text ++ " is not in the v1 role enum (§4.2)"⟩
  | _ => malformed "endpoint.role must be a string"

/-- `endpoint.label`: a string. -/
def parseLabel (value : Option Json) : Except ProtocolError String :=
  match value with
  | some (.string label) => .ok label
  | _ => malformed "endpoint.label must be a string"

/-- `endpoint.publishedAs`: a lawful identity, by default generation 1 of the device. -/
def parsePublishedAs (value : Option Json) (indigoDeviceId : Int) :
    Except ProtocolError String :=
  match value.getD (.string (publishedIdFor indigoDeviceId 1)) with
  | .string publishedAs =>
      if (parsePublishedId publishedAs).isSome then .ok publishedAs
      else malformed ("endpoint.publishedAs \"" ++ publishedAs ++
        "\" must be indigo-<deviceId> or indigo-<deviceId>~<generation ≥ 2>, at most " ++
        toString PUBLISHED_ID_MAX ++ " characters (§1.1)")
  | _ => malformed "endpoint.publishedAs must be a string"

/-- One element of the `endpoints` array. -/
def parseEndpointSpec (value : Json) : Except ProtocolError EndpointSpec :=
  match value with
  | .object fields => do
      let indigoDeviceId ← parseDeviceId (Json.property fields "indigoDeviceId")
      let role ← parseRole (Json.property fields "role")
      let label ← parseLabel (Json.property fields "label")
      let reachable ← parseFlag (Json.property fields "reachable") true "endpoint.reachable"
      let battery ← parseFlag (Json.property fields "battery") false "endpoint.battery"
      let publishedAs ← parsePublishedAs (Json.property fields "publishedAs") indigoDeviceId
      let states ← requireStruct (Json.property fields "states") "endpoint.states"
      let options ← requireStruct (Json.property fields "options") "endpoint.options"
      return { indigoDeviceId, role, label, publishedAs, reachable, states, options, battery }
  | _ => malformed "endpoint must be an object"

/-- The two uniqueness checks over an `endpoints` array. -/
def refuseDuplicates (seen : List Int) (seenPublishedAs : List String) :
    List EndpointSpec → Except ProtocolError Unit
  | [] => .ok ()
  | spec :: rest =>
      if spec.indigoDeviceId ∈ seen then
        malformed ("endpoints contains indigoDeviceId " ++ integerText spec.indigoDeviceId ++
          " twice")
      else if spec.publishedAs ∈ seenPublishedAs then
        malformed ("endpoints contains publishedAs " ++ spec.publishedAs ++ " twice")
      else
        refuseDuplicates (spec.indigoDeviceId :: seen) (spec.publishedAs :: seenPublishedAs) rest

/-- Parse the `endpoints` array of an `attach`. -/
def parseEndpointSpecs (value : Option Json) : Except ProtocolError (List EndpointSpec) :=
  match value with
  | none => .ok []
  | some (.array items) => do
      let specs ← items.mapM parseEndpointSpec
      refuseDuplicates [] [] specs
      return specs
  | some _ => malformed "endpoints must be an array"

/-! ## What the parser promises -/

/-- A list in which no device id and no identity occurs twice. -/
structure Distinct (specs : List EndpointSpec) : Prop where
  deviceIds : (specs.map EndpointSpec.indigoDeviceId).Nodup
  identities : (specs.map EndpointSpec.publishedAs).Nodup

private theorem refuseDuplicates_ok {seen : List Int} {seenPublishedAs : List String}
    {specs : List EndpointSpec} (accepted : refuseDuplicates seen seenPublishedAs specs = .ok ()) :
    Distinct specs ∧ ∀ spec ∈ specs,
      spec.indigoDeviceId ∉ seen ∧ spec.publishedAs ∉ seenPublishedAs := by
  induction specs generalizing seen seenPublishedAs with
  | nil => exact ⟨⟨List.nodup_nil, List.nodup_nil⟩, by simp⟩
  | cons spec rest ih =>
      rw [refuseDuplicates] at accepted
      split at accepted
      · contradiction
      · rename_i freshDevice
        split at accepted
        · contradiction
        · rename_i freshIdentity
          obtain ⟨distinct, fresh⟩ := ih accepted
          simp only [List.mem_cons, not_or] at fresh
          refine ⟨⟨?_, ?_⟩, ?_⟩
          · rw [List.map_cons, List.nodup_cons]
            refine ⟨fun repeated => ?_, distinct.deviceIds⟩
            obtain ⟨other, member, same⟩ := List.mem_map.mp repeated
            exact (fresh other member).1.1 same
          · rw [List.map_cons, List.nodup_cons]
            refine ⟨fun repeated => ?_, distinct.identities⟩
            obtain ⟨other, member, same⟩ := List.mem_map.mp repeated
            exact (fresh other member).2.1 same
          · intro other member
            rcases List.mem_cons.mp member with rfl | member
            · exact ⟨freshDevice, freshIdentity⟩
            · exact ⟨(fresh other member).1.2, (fresh other member).2.2⟩

/-- An accepted list is distinct in both keys. -/
theorem distinct_of_parseEndpointSpecs {value : Option Json} {specs : List EndpointSpec}
    (accepted : parseEndpointSpecs value = .ok specs) : Distinct specs := by
  unfold parseEndpointSpecs at accepted
  split at accepted
  · obtain rfl : [] = specs := Except.ok.inj accepted
    exact ⟨List.nodup_nil, List.nodup_nil⟩
  · rename_i items
    cases parsed : items.mapM parseEndpointSpec with
    | error error => simp [parsed, bind, Except.bind] at accepted
    | ok found =>
        cases checked : refuseDuplicates [] [] found with
        | error error => simp [parsed, checked, bind, Except.bind] at accepted
        | ok _ =>
            simp only [parsed, checked, bind, Except.bind, pure, Except.pure,
              Except.ok.injEq] at accepted
            subst accepted
            exact (refuseDuplicates_ok checked).1
  · contradiction

theorem Distinct.eq_of_deviceId {specs : List EndpointSpec} (distinct : Distinct specs)
    {first second : EndpointSpec} (firstMem : first ∈ specs) (secondMem : second ∈ specs)
    (same : first.indigoDeviceId = second.indigoDeviceId) : first = second :=
  List.inj_on_of_nodup_map distinct.deviceIds firstMem secondMem same

theorem Distinct.eq_of_publishedAs {specs : List EndpointSpec} (distinct : Distinct specs)
    {first second : EndpointSpec} (firstMem : first ∈ specs) (secondMem : second ∈ specs)
    (same : first.publishedAs = second.publishedAs) : first = second :=
  List.inj_on_of_nodup_map distinct.identities firstMem secondMem same

/-! ## The plan -/

/-- What the planner needs to know about one live identity. -/
structure LiveComposition where
  indigoDeviceId : Int
  role : Role
  battery : Bool
deriving DecidableEq

/-- A driving-device change under a stable identity. -/
structure Rekey where
  spec : EndpointSpec
  fromDeviceId : Int

/-- What a reconcile has to do to the live endpoint set. -/
structure ReconcilePlan where
  create : List EndpointSpec
  update : List EndpointSpec
  recreate : List EndpointSpec
  rekey : List Rekey
  remove : List String

/-- The bucket of a desired spec. -/
inductive Bucket
  | create
  | update
  | recreate
  | rekey (fromDeviceId : Int)
deriving DecidableEq

/-- The branch the planner's loop takes for one desired spec. -/
def bucketOf (live : InsertionMap String LiveComposition) (spec : EndpointSpec) : Bucket :=
  match live.get? spec.publishedAs with
  | none => .create
  | some liveEndpoint =>
      if liveEndpoint.role = spec.role ∧ ¬(spec.battery ∧ ¬liveEndpoint.battery) then
        if liveEndpoint.indigoDeviceId ≠ spec.indigoDeviceId then
          .rekey liveEndpoint.indigoDeviceId
        else .update
      else .recreate

/-- The rekey of a spec, when that is its bucket. -/
def rekeyOf (live : InsertionMap String LiveComposition) (spec : EndpointSpec) : Option Rekey :=
  match bucketOf live spec with
  | .rekey fromDeviceId => some ⟨spec, fromDeviceId⟩
  | _ => none

/-- The plan, before the mass-removal guard has looked at it. -/
def sortDesired (live : InsertionMap String LiveComposition) (desired : List EndpointSpec) :
    ReconcilePlan where
  create := desired.filter fun spec => bucketOf live spec = .create
  update := desired.filter fun spec => bucketOf live spec = .update
  recreate := desired.filter fun spec => bucketOf live spec = .recreate
  rekey := desired.filterMap (rekeyOf live)
  remove := live.keys.filter fun publishedAs => publishedAs ∉ desired.map EndpointSpec.publishedAs

/-- How many removed identities leave a device that is created again. -/
def stillExportedCount (live : InsertionMap String LiveComposition) (plan : ReconcilePlan) : Nat :=
  (plan.remove.filter fun publishedAs =>
    match live.get? publishedAs with
    | none => false
    | some removed => removed.indigoDeviceId ∈ plan.create.map EndpointSpec.indigoDeviceId).length

/-- Diff the desired set against the live one, enforcing the mass-removal guard. -/
def planReconcile (live : InsertionMap String LiveComposition) (desired : List EndpointSpec)
    (replaceAll : Bool) : Except ProtocolError ReconcilePlan :=
  let plan := sortDesired live desired
  let survivors : Int := live.size - plan.remove.length + stillExportedCount live plan
  if 0 < live.size ∧ survivors = 0 ∧ ¬replaceAll then
    .error ⟨.massRemovalRefused, "attach would remove all " ++ toString live.size ++
      " live endpoints without intent: " ++ INTENT_REPLACE_ALL⟩
  else .ok plan

/-- A plan the guard let through is the sorted one. -/
theorem eq_sortDesired_of_planReconcile {live : InsertionMap String LiveComposition}
    {desired : List EndpointSpec} {replaceAll : Bool} {plan : ReconcilePlan}
    (planned : planReconcile live desired replaceAll = .ok plan) :
    plan = sortDesired live desired := by
  unfold planReconcile at planned
  dsimp only at planned
  split at planned
  · contradiction
  · exact (Except.ok.inj planned).symm

theorem bucketOf_eq_create_iff {live : InsertionMap String LiveComposition}
    {spec : EndpointSpec} :
    bucketOf live spec = .create ↔ live.get? spec.publishedAs = none := by
  unfold bucketOf
  split <;> grind

theorem bucketOf_eq_update_iff {live : InsertionMap String LiveComposition}
    {spec : EndpointSpec} :
    bucketOf live spec = .update ↔ ∃ liveEndpoint,
      live.get? spec.publishedAs = some liveEndpoint ∧ liveEndpoint.role = spec.role ∧
        (spec.battery → liveEndpoint.battery) ∧
        liveEndpoint.indigoDeviceId = spec.indigoDeviceId := by
  unfold bucketOf
  split <;> grind

theorem bucketOf_eq_rekey_iff {live : InsertionMap String LiveComposition}
    {spec : EndpointSpec} {fromDeviceId : Int} :
    bucketOf live spec = .rekey fromDeviceId ↔ ∃ liveEndpoint,
      live.get? spec.publishedAs = some liveEndpoint ∧ liveEndpoint.role = spec.role ∧
        (spec.battery → liveEndpoint.battery) ∧
        liveEndpoint.indigoDeviceId = fromDeviceId ∧ fromDeviceId ≠ spec.indigoDeviceId := by
  unfold bucketOf
  split <;> grind

theorem bucketOf_eq_recreate_iff {live : InsertionMap String LiveComposition}
    {spec : EndpointSpec} :
    bucketOf live spec = .recreate ↔ ∃ liveEndpoint,
      live.get? spec.publishedAs = some liveEndpoint ∧
        (liveEndpoint.role ≠ spec.role ∨ (spec.battery = true ∧ liveEndpoint.battery = false)) := by
  unfold bucketOf
  split <;> grind

section Buckets

variable {live : InsertionMap String LiveComposition} {desired : List EndpointSpec}
  {spec : EndpointSpec}

theorem mem_create_iff :
    spec ∈ (sortDesired live desired).create ↔ spec ∈ desired ∧ bucketOf live spec = .create := by
  simp [sortDesired]

theorem mem_update_iff :
    spec ∈ (sortDesired live desired).update ↔ spec ∈ desired ∧ bucketOf live spec = .update := by
  simp [sortDesired]

theorem mem_recreate_iff :
    spec ∈ (sortDesired live desired).recreate ↔
      spec ∈ desired ∧ bucketOf live spec = .recreate := by
  simp [sortDesired]

end Buckets

theorem rekeyOf_spec {live : InsertionMap String LiveComposition} {spec : EndpointSpec}
    {rekey : Rekey} (found : rekeyOf live spec = some rekey) : rekey.spec = spec := by
  unfold rekeyOf at found
  split at found
  · exact (Option.some.inj found) ▸ rfl
  · contradiction

theorem mem_rekey_iff {live : InsertionMap String LiveComposition}
    {desired : List EndpointSpec} {rekey : Rekey} :
    rekey ∈ (sortDesired live desired).rekey ↔
      rekey.spec ∈ desired ∧ bucketOf live rekey.spec = .rekey rekey.fromDeviceId := by
  simp only [sortDesired, List.mem_filterMap, rekeyOf]
  constructor
  · rintro ⟨spec, member, found⟩
    split at found
    · rename_i fromDeviceId bucket
      obtain rfl := Option.some.inj found
      exact ⟨member, bucket⟩
    · contradiction
  · rintro ⟨member, bucket⟩
    exact ⟨rekey.spec, member, by rw [bucket]⟩

end IndigoMatter.Bridge
