import IndigoMatter.Bridge.EndpointMapFile
import IndigoMatter.Bridge.ReconcilePhases
import Mathlib.Data.List.Sort

/-!
# The bridge node

`node.ts` puts the registry and the endpoint map together.  A command takes a
snapshot of the published identities when it is called, waits for its turn at
the registry, and afterwards, whether the registry part worked or threw, tells
the map which identities went and compares the numbers of those that are there.

The three parts of a command are separate definitions, so that they can be run
back to back or interleaved with those of other commands.  `Disk` says which of
the writes of the map land.  Logs, events and the status report are left out.
-/

namespace IndigoMatter.Bridge

open IndigoMatter.Library

/-- Whether the n-th write of the endpoint map lands. -/
abbrev Disk := Nat → Bool

/-- Whether the next write of a store lands. -/
def Disk.next (disk : Disk) (store : EndpointMapStore) : Bool := disk store.writes.length

/-- What the registry says about one live endpoint. -/
structure EndpointIdentity where
  indigoDeviceId : Int
  endpointNumber : Nat
  role : Role
  label : String
  battery : Bool
  publishedAs : String
deriving DecidableEq

/-- Everything the map records about the live set, in device order. -/
def Registry.identities (registry : Registry) : List EndpointIdentity :=
  (registry.live.entries.map fun entry =>
      { indigoDeviceId := entry.1
        endpointNumber :=
          ((registry.children.get? entry.2.endpoint).map Endpoint.number).getD 0
        role := entry.2.role
        label := entry.2.label
        battery := entry.2.battery
        publishedAs := entry.2.publishedAs : EndpointIdentity }).insertionSort
    fun first second => first.indigoDeviceId ≤ second.indigoDeviceId

/-- The state of a node that the endpoint map depends on.  `lastRemoved` says
under which identity a device was last softly removed. -/
structure Node where
  registry : Registry
  endpointMap : EndpointMapStore
  lastRemoved : InsertionMap Int String
  drift : List DriftEntry

/-- A node that has not served anything yet, over a store. -/
def Node.fresh (store : EndpointMapStore) : Node := ⟨Registry.fresh, store, ∅, []⟩

/-- An identity as the map sees it live. -/
def EndpointIdentity.live (identity : EndpointIdentity) : LiveEndpointNumber :=
  { uniqueId := identity.publishedAs
    endpointNumber := identity.endpointNumber
    role := some identity.role.name
    label := some identity.label
    battery := identity.battery
    deviceId := some identity.indigoDeviceId }

/-- The live set as the map records it. -/
def Registry.liveIdentities (registry : Registry) : List LiveEndpointNumber :=
  registry.identities.map EndpointIdentity.live

/-- The live set as the map keys it, with the device driving each. -/
def Registry.livePublishedIdentities (registry : Registry) : InsertionMap String Int :=
  .ofList (registry.identities.map fun identity =>
    (identity.publishedAs, identity.indigoDeviceId))

namespace Node

/-- The state of the loop of `forgetRemoved`. -/
structure Departures where
  endpointMap : EndpointMapStore
  lastRemoved : InsertionMap Int String
  ordinary : List String

/-- The later generation of a departed identity that has appeared on its device,
which retires it; a hard removal retires nothing. -/
def successor (hard : Bool) (createdDeviceIds : InsertionMap Int String)
    (departed : String × Int) : Option String :=
  (createdDeviceIds.get? departed.2).filter fun newer => !hard && supersedes departed.1 newer

/-- One departed identity: superseded, or an ordinary departure, which is
remembered when no identity has appeared on its device. -/
def depart (disk : Disk) (hard : Bool) (createdDeviceIds : InsertionMap Int String)
    (state : Departures) (departed : String × Int) : Departures :=
  match successor hard createdDeviceIds departed with
  | some newer =>
      { state with
        endpointMap := (state.endpointMap.forget [departed.1] (some newer)
          (disk.next state.endpointMap)).2 }
  | none =>
      { state with
        ordinary := state.ordinary ++ [departed.1]
        lastRemoved :=
          if !hard && (createdDeviceIds.get? departed.2).isNone then
            state.lastRemoved.set departed.2 departed.1
          else state.lastRemoved }

/-- The identities that have gone since a snapshot, with the devices that drove
them. -/
def departedSince (before after : InsertionMap String Int) : List (String × Int) :=
  before.entries.filter fun entry => !after.has entry.1

/-- The devices that drive an identity the snapshot does not have. -/
def createdSince (before after : InsertionMap String Int) : InsertionMap Int String :=
  .ofList ((after.entries.filter fun entry => !before.has entry.1).map fun entry =>
    (entry.2, entry.1))

/-- Tell the map which identities of the snapshot are no longer live.  A hard
removal destroys their records, the others are kept as orphans. -/
def forgetRemoved (disk : Disk) (before : InsertionMap String Int) (hard : Bool)
    (node : Node) : Node :=
  let after := node.registry.livePublishedIdentities
  let removed := departedSince before after
  if removed = [] then node
  else
    let state := removed.foldl (depart disk hard (createdSince before after))
      ⟨node.endpointMap, node.lastRemoved, []⟩
    let lands := disk.next state.endpointMap
    { node with
      lastRemoved := state.lastRemoved
      endpointMap :=
        if hard then (state.endpointMap.destroy state.ordinary lands).2
        else (state.endpointMap.forget state.ordinary none lands).2 }

/-- The other half of a supersession across two commands; the remembered
removal is consumed, matched or not. -/
def noteSupersessionIfPaired (disk : Disk) (spec : EndpointSpec) (node : Node) : Node :=
  let old := node.lastRemoved.get? spec.indigoDeviceId
  let consumed := { node with lastRemoved := node.lastRemoved.delete spec.indigoDeviceId }
  match old.filter fun oldPublishedAs => supersedes oldPublishedAs spec.publishedAs with
  | none => consumed
  | some oldPublishedAs =>
      { consumed with
        endpointMap := (node.endpointMap.forget [oldPublishedAs] (some spec.publishedAs)
          (disk.next node.endpointMap)).2 }

/-- Compare the live endpoint numbers against the map. -/
def checkDrift (disk : Disk) (node : Node) : Node :=
  let checked :=
    node.endpointMap.check node.registry.liveIdentities (disk.next node.endpointMap)
  { node with drift := checked.1, endpointMap := checked.2 }

end Node

/-! ## Commands -/

/-- The commands that change the endpoint set. -/
inductive NodeCommand
  | reconcile (endpoints : List EndpointSpec) (replaceAll : Bool)
  | upsertEndpoint (spec : EndpointSpec)
  | removeEndpoint (indigoDeviceId : Int)

/-- The registry part of a command. -/
def NodeCommand.run (matter : Matter) : NodeCommand → Operation PUnit
  | .reconcile endpoints replaceAll => reconcileNow matter endpoints replaceAll
  | .upsertEndpoint spec => do let _ ← upsert matter spec
  | .removeEndpoint indigoDeviceId => do let _ ← remove matter indigoDeviceId

/-- Whether a computation returned. -/
def returned {α : Type} : EStateM.Result Thrown Registry α → Bool
  | .ok _ _ => true
  | .error _ _ => false

/-- The part of a command that comes after its registry part, which worked or
threw. -/
def Node.cleanUp (disk : Disk) (before : InsertionMap String Int) (succeeded : Bool) :
    NodeCommand → Node → Node
  | .reconcile _ _, node => (node.forgetRemoved disk before false).checkDrift disk
  | .upsertEndpoint spec, node =>
      let checked := node.checkDrift disk
      if succeeded then checked.noteSupersessionIfPaired disk spec else checked
  | .removeEndpoint _, node => (node.forgetRemoved disk before true).checkDrift disk

/-- The node after the registry part of a command. -/
def Node.afterRun (matter : Matter) (command : NodeCommand) (node : Node) : Node :=
  { node with registry := finalState (command.run matter node.registry) }

/-- A whole command with nothing else in flight. -/
def Node.execute (disk : Disk) (matter : Matter) (command : NodeCommand) (node : Node) : Node :=
  (node.afterRun matter command).cleanUp disk node.registry.livePublishedIdentities
    (returned (command.run matter node.registry)) command

/-! ## Restart -/

/-- The spec a restorable entry is rebuilt from, if this build knows its role. -/
def RestorableEndpoint.spec (entry : RestorableEndpoint) : Option EndpointSpec :=
  (Role.ofName? entry.role).map fun role =>
    { indigoDeviceId := entry.indigoDeviceId
      role
      label := entry.label
      publishedAs := entry.uniqueId
      reachable := false
      states := []
      options := []
      battery := entry.battery }

/-- The specs a store is restored from; an unusable map restores nothing. -/
def EndpointMapStore.restoreSpecs (store : EndpointMapStore) : List EndpointSpec :=
  if store.problem.isSome then [] else store.restorable.filterMap RestorableEndpoint.spec

/-- A restart that serves: the map is read again and its endpoints are rebuilt.
Everything that was only in memory is gone. -/
def Node.restart (matter : Matter) (node : Node) : Node :=
  let store := node.endpointMap.load
  { Node.fresh store with
    registry := finalState (restore matter store.restoreSpecs Registry.fresh) }

/-- What can happen to a node that runs one command at a time. -/
inductive NodeEvent
  | execute (matter : Matter) (command : NodeCommand)
  | restart (matter : Matter)

/-- One event; every event can happen in every state. -/
def Node.step (disk : Disk) : LabelledStep Node NodeEvent
  | node, .execute matter command => some (node.execute disk matter command)
  | node, .restart matter => some (node.restart matter)

end IndigoMatter.Bridge
