import IndigoMatter.Bridge.Endpoints
import IndigoMatter.Bridge.Reconcile
import IndigoMatter.Library.Fallible

/-!
# The endpoint registry

`registry.ts` keeps the live set, keyed on device ids, over the children of the
aggregator.  There is no transaction across several matter.js calls, so every
operation below is a computation that may throw and keeps what it has done.

`Matter` is everything the operations ask of matter.js: which call throws and
which number an endpoint gets.  A call is named by what it does to which
endpoint; no operation makes the same call twice, so a choice of failing calls
is any pattern of failures.  `aggregator.add` and `Endpoint.close` take effect
wholly or not at all, a write of attributes likewise.  Mutations are serialised
by the registry, so one operation runs with the whole state to itself.
-/

namespace IndigoMatter.Bridge

open IndigoMatter.Library

/-- A child of the aggregator; its `id` is fixed when it is built. -/
structure Endpoint where
  id : String
  number : Nat
  nodeLabel : String
  productLabel : String
deriving DecidableEq

/-- What the registry holds for one live device.  `endpoint` is the reference
of the endpoint object, and `watching` says whether the stored teardown still
has anything to undo. -/
structure LiveEndpoint where
  endpoint : Nat
  role : Role
  label : String
  battery : Bool
  publishedAs : String
  watching : Bool
deriving DecidableEq

/-- The registry, the aggregator's children by reference, and the command sinks
by endpoint id. -/
structure Registry where
  live : InsertionMap Int LiveEndpoint
  children : InsertionMap Nat Endpoint
  sinks : InsertionMap String Int
  nextEndpoint : Nat
  configurationChanges : Nat
deriving DecidableEq

/-- The registry of a node that has just been constructed. -/
def Registry.fresh : Registry := ⟨∅, ∅, ∅, 0, 0⟩

/-- The matter.js calls an operation can make, each at most once. -/
inductive MatterCall
  | construct (id : String)
  | add (id : String)
  | close (id : String)
  | watchCommands (id : String) (indigoDeviceId : Int)
  | applyLabel (id : String)
  | applyReachable (id : String)
  | applyStates (id : String)
deriving DecidableEq

/-- How matter.js answers during one operation: the message of a call that
throws, and the number of an endpoint that is added. -/
structure Matter where
  fault : MatterCall → Option String
  number : String → Nat

/-- An operation on the registry. -/
abbrev Operation := EStateM Thrown Registry

variable (matter : Matter)

/-- Make a matter.js call. -/
def call (request : MatterCall) : Operation PUnit :=
  match matter.fault request with
  | none => pure ⟨⟩
  | some message => throw (.matter message)

/-- Throw a refusal, or go on with the value. -/
def orRefuse {α : Type} : Except ProtocolError α → Operation α
  | .ok value => pure value
  | .error error => throw (.protocol error)

/-! ## Endpoints -/

/-- Register the sink of an endpoint; when subscribing throws, it is undone. -/
def watchCommands (id : String) (indigoDeviceId : Int) : Operation PUnit := do
  modify fun registry => { registry with sinks := registry.sinks.set id indigoDeviceId }
  tryCatch (call matter (.watchCommands id indigoDeviceId)) fun error => do
    modify fun registry => { registry with sinks := registry.sinks.delete id }
    throw error

/-- Run the stored teardown; a second run does nothing. -/
def unwatch (live : LiveEndpoint) : Operation PUnit :=
  if live.watching then
    modify fun registry => { registry with sinks := registry.sinks.delete live.publishedAs }
  else pure ⟨⟩

/-- Build the endpoint of a spec; it has no parent yet. -/
def createEndpoint (spec : EndpointSpec) : Operation Endpoint := do
  let _ ← orRefuse (acceptStates spec.role spec.states spec.battery spec.indigoDeviceId)
  call matter (.construct spec.publishedAs)
  return { id := spec.publishedAs
           number := matter.number spec.publishedAs
           nodeLabel := spec.label
           productLabel := spec.label }

/-- Put an endpoint in the tree under a new reference. -/
def Registry.addChild (registry : Registry) (endpoint : Endpoint) : Registry :=
  { registry with
    children := registry.children.set registry.nextEndpoint endpoint
    nextEndpoint := registry.nextEndpoint + 1 }

/-- Take an endpoint out of the tree. -/
def Registry.removeChild (registry : Registry) (endpoint : Nat) : Registry :=
  { registry with children := registry.children.delete endpoint }

/-- `#live.set`. -/
def Registry.setLive (registry : Registry) (indigoDeviceId : Int) (live : LiveEndpoint) :
    Registry :=
  { registry with live := registry.live.set indigoDeviceId live }

/-- `#live.delete`. -/
def Registry.deleteLive (registry : Registry) (indigoDeviceId : Int) : Registry :=
  { registry with live := registry.live.delete indigoDeviceId }

/-- What `create` stores for the endpoint it has added. -/
def LiveEndpoint.ofSpec (spec : EndpointSpec) (endpoint : Nat) : LiveEndpoint :=
  { endpoint
    role := spec.role
    label := spec.label
    battery := spec.battery
    publishedAs := spec.publishedAs
    watching := true }

/-- Add a new endpoint; one whose commands cannot be watched is closed again. -/
def create (spec : EndpointSpec) : Operation Nat := do
  let endpoint ← createEndpoint matter spec
  call matter (.add spec.publishedAs)
  let reference := (← get).nextEndpoint
  modify fun registry => registry.addChild endpoint
  tryCatch (watchCommands matter spec.publishedAs spec.indigoDeviceId) fun error => do
    modify fun registry => registry.removeChild reference
    throw error
  modify fun registry =>
    registry.setLive spec.indigoDeviceId (LiveEndpoint.ofSpec spec reference)
  return endpoint.number

/-- The live entry of a device, or `unknown_device`. -/
def require (indigoDeviceId : Int) : Operation LiveEndpoint := do
  match (← get).live.get? indigoDeviceId with
  | some live => return live
  | none =>
      throw (.protocol ⟨.unknownDevice,
        "no live endpoint for indigoDeviceId " ++ integerText indigoDeviceId⟩)

/-- Whether either label of an endpoint differs from the wanted one. -/
def labelIsStale (registry : Registry) (live : LiveEndpoint) (label : String) : Bool :=
  match registry.children.get? live.endpoint with
  | none => true
  | some info => info.nodeLabel ≠ label || info.productLabel ≠ label

/-- Write both labels of an endpoint. -/
def applyLabel (live : LiveEndpoint) (label : String) : Operation PUnit := do
  call matter (.applyLabel live.publishedAs)
  modify fun registry =>
    match registry.children.get? live.endpoint with
    | none => registry
    | some info =>
        { registry with
          children := registry.children.set live.endpoint
            { info with nodeLabel := label, productLabel := label } }

/-- Write the labels only where one of them differs. -/
def refreshLabel (live : LiveEndpoint) (label : String) : Operation PUnit := do
  if labelIsStale (← get) live label then applyLabel matter live label

/-- Everything an existing endpoint can change: label, reachability and state.
A failing write of colour-temperature bounds is caught and logged, so it is not
one of the calls that can stop an update. -/
def update (spec : EndpointSpec) : Operation PUnit := do
  let live ← require spec.indigoDeviceId
  refreshLabel matter live spec.label
  modify fun registry =>
    registry.setLive spec.indigoDeviceId { live with label := spec.label }
  call matter (.applyReachable live.publishedAs)
  let _ ← orRefuse (acceptStates live.role spec.states live.battery spec.indigoDeviceId)
  call matter (.applyStates live.publishedAs)

/-- Close one endpoint and, only if that worked, forget it. -/
def closeOne (indigoDeviceId : Int) (live : LiveEndpoint) : Operation PUnit := do
  unwatch live
  modify fun registry => registry.setLive indigoDeviceId { live with watching := false }
  tryCatch (call matter (.close live.publishedAs)) fun error => do
    watchCommands matter live.publishedAs indigoDeviceId
    modify fun registry => registry.setLive indigoDeviceId { live with watching := true }
    throw (.protocol ⟨.internal, "endpoint " ++ integerText indigoDeviceId ++
      " failed to close: " ++ describeError error⟩)
  modify fun registry => (registry.removeChild live.endpoint).deleteLive indigoDeviceId

/-- Bump `ConfigurationVersion`; a failure of the bump is caught and logged. -/
def noteConfigurationChange : Operation PUnit :=
  modify fun registry =>
    { registry with configurationChanges := registry.configurationChanges + 1 }

/-! ## Reconcile -/

/-- The live role and battery of every published identity. -/
def Registry.liveComposition (registry : Registry) : InsertionMap String LiveComposition :=
  .ofList <| registry.live.entries.map fun entry =>
    (entry.2.publishedAs, ⟨entry.1, entry.2.role, entry.2.battery⟩)

/-- The device driving a published identity, by a scan of the live set. -/
def Registry.deviceIdFor (registry : Registry) (publishedAs : String) : Option Int :=
  (registry.live.entries.find? fun entry => entry.2.publishedAs = publishedAs).map Prod.fst

/-- A rekey whose endpoint has been taken out of the live set. -/
structure HeldRekey where
  spec : EndpointSpec
  fromDeviceId : Int
  live : LiveEndpoint

/-- Phase 1 of the rekeys: free the key of every one of them. -/
def vacate : List Rekey → Operation (List HeldRekey)
  | [] => return []
  | rekey :: rest => do
      match (← get).live.get? rekey.fromDeviceId with
      | none =>
          throw (.protocol ⟨.internal,
            "cannot rekey accessory identity " ++ rekey.spec.publishedAs ++ " to device " ++
            integerText rekey.spec.indigoDeviceId ++
            ": no live endpoint is publishing it under device " ++
            integerText rekey.fromDeviceId ++
            " — the live set and the plan disagree about who currently drives it"⟩)
      | some live =>
          modify fun registry => registry.deleteLive rekey.fromDeviceId
          let others ← vacate rest
          return ⟨rekey.spec, rekey.fromDeviceId, live⟩ :: others

/-- Phase 2 of one rekey: retarget a held endpoint and update it.  When
re-watching throws, the old watcher is restored under the old device. -/
def rekeyOne (held : HeldRekey) : Operation PUnit := do
  let spec := held.spec
  if (← get).live.has spec.indigoDeviceId then
    throw (.protocol ⟨.internal,
      "cannot rekey accessory identity " ++ spec.publishedAs ++ " from device " ++
      integerText held.fromDeviceId ++ " to device " ++ integerText spec.indigoDeviceId ++
      ": device " ++ integerText spec.indigoDeviceId ++
      " already has a live endpoint — the plan and the live set disagree about who is " ++
      "free to take this identity"⟩)
  unwatch held.live
  tryCatch (watchCommands matter spec.publishedAs spec.indigoDeviceId) fun error => do
    watchCommands matter held.live.publishedAs held.fromDeviceId
    modify fun registry =>
      registry.setLive held.fromDeviceId { held.live with watching := true }
    throw (.protocol ⟨.internal, "endpoint " ++ integerText held.fromDeviceId ++
      " failed to re-key to device " ++ integerText spec.indigoDeviceId ++ ": " ++
      describeError error⟩)
  modify fun registry =>
    registry.setLive spec.indigoDeviceId { held.live with watching := true }
  update matter spec

/-- A part of `reconcileNow` that also keeps its local `mutated`. -/
abbrev Batch := EStateM Thrown (Registry × Bool)

/-- `mutated = true`. -/
def markMutated : Batch PUnit := modify fun state => (state.1, true)

/-- Close the listed devices one by one, marking every close that worked. -/
def removeMany (indigoDeviceIds : List Int) : Batch PUnit :=
  forM indigoDeviceIds fun indigoDeviceId => do
    match (← get).1.live.get? indigoDeviceId with
    | none => pure ⟨⟩
    | some live =>
        onFirst (closeOne matter indigoDeviceId live)
        markMutated

/-- The devices a plan closes: those it removes, then those it recreates. -/
def Registry.removals (registry : Registry) (plan : ReconcilePlan) : List Int :=
  plan.remove.filterMap registry.deviceIdFor ++
    plan.recreate.filterMap fun spec => registry.deviceIdFor spec.publishedAs

/-- The mutating part of a reconcile, in its load-bearing order. -/
def applyPlan (plan : ReconcilePlan) (removals : List Int) : Batch PUnit := do
  removeMany matter removals
  let rekeys ← onFirst (vacate plan.rekey)
  forM rekeys fun held => onFirst (rekeyOne matter held)
  forM (plan.create ++ plan.recreate) fun spec => do
    let _ ← onFirst (create matter spec)
    markMutated
  forM plan.update fun spec => onFirst (update matter spec)

/-- A part-applied reconcile still nudges the controllers before it rethrows. -/
def nudgeOnAbort (body : Batch PUnit) : Batch PUnit :=
  tryCatch body fun error => do
    if (← get).2 then onFirst noteConfigurationChange
    throw error

/-- Full reconcile against the desired set.  Every role of the enum has a
definition, so the role gate in front of the plan refuses nothing. -/
def reconcileNow (desired : List EndpointSpec) (replaceAll : Bool) : Operation PUnit := do
  let registry ← get
  let plan ← orRefuse (planReconcile registry.liveComposition desired replaceAll)
  withLocal false (nudgeOnAbort (applyPlan matter plan (registry.removals plan)))
  if plan.create ≠ [] ∨ plan.recreate ≠ [] ∨ plan.remove ≠ [] then
    noteConfigurationChange

/-! ## The other entry points -/

/-- Create or update one endpoint; returns its number. -/
def upsert (spec : EndpointSpec) : Operation Nat := do
  match (← get).live.get? spec.indigoDeviceId with
  | none =>
      match (← get).deviceIdFor spec.publishedAs with
      | some claimedBy =>
          throw (.protocol ⟨.roleChange,
            "accessory identity " ++ spec.publishedAs ++ " is live on device " ++
            integerText claimedBy ++ "; upsert_endpoint cannot move it to device " ++
            integerText spec.indigoDeviceId ++ " — a driving-device change must go through a " ++
            "full attach reconcile (the plugin's migrate flow), not upsert_endpoint"⟩)
      | none =>
          let number ← create matter spec
          noteConfigurationChange
          return number
  | some existing =>
      if existing.publishedAs ≠ spec.publishedAs then
        throw (.protocol ⟨.roleChange,
          "endpoint " ++ integerText spec.indigoDeviceId ++ " is published as " ++
          existing.publishedAs ++ "; upsert_endpoint cannot move it to " ++ spec.publishedAs ++
          " — that is a supersession (issue #240); remove the old identity and create the " ++
          "new one instead"⟩)
      else if existing.role ≠ spec.role then
        throw (.protocol ⟨.roleChange,
          "endpoint " ++ integerText spec.indigoDeviceId ++ " is " ++ existing.role.name ++
          "; remove and re-add to change role"⟩)
      else if spec.battery ∧ ¬existing.battery then
        closeOne matter spec.indigoDeviceId existing
        let number ← tryCatch (create matter spec) fun error => do
          noteConfigurationChange
          throw error
        noteConfigurationChange
        return number
      else
        update matter spec
        match (← get).children.get? existing.endpoint with
        | some endpoint => return endpoint.number
        | none => return 0

/-- Idempotent removal; says whether there was anything to remove. -/
def remove (indigoDeviceId : Int) : Operation Bool := do
  match (← get).live.get? indigoDeviceId with
  | none => return false
  | some live =>
      closeOne matter indigoDeviceId live
      noteConfigurationChange
      return true

/-- Rebuild the endpoints of the persisted map; one that fails is skipped. -/
def restore (specs : List EndpointSpec) : Operation PUnit :=
  forM specs fun spec =>
    tryCatch (do let _ ← create matter spec) fun _ => pure ⟨⟩

/-- A mutating command of the wire protocol, with its arguments unparsed. -/
inductive Command
  | reconcile (endpoints : Option Json) (replaceAll : Bool)
  | upsert (endpoint : Json)
  | remove (indigoDeviceId : Int)

/-- Parse the arguments of a command and run it. -/
def Command.run : Command → Operation PUnit
  | .reconcile endpoints replaceAll => do
      let desired ← orRefuse (parseEndpointSpecs endpoints)
      reconcileNow matter desired replaceAll
  | .upsert endpoint => do
      let spec ← orRefuse (parseEndpointSpec endpoint)
      let _ ← Bridge.upsert matter spec
  | .remove indigoDeviceId => do
      let _ ← Bridge.remove matter indigoDeviceId

end IndigoMatter.Bridge
