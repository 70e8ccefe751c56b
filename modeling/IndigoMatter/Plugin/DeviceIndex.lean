import Mathlib.Data.List.Induction
import IndigoMatter.Plugin.HandlerRegistry

/-!
# The device index

The plugin finds its devices by node, endpoint and device type.  The index is
rebuilt from the devices Indigo has, whose properties say where each belongs; on
an endpoint the device types stand in the order they were indexed.
-/

namespace IndigoMatter.Plugin

open IndigoMatter.Library

/-- The id Indigo gives a device. -/
abbrev DeviceId := Nat

/-- A device of the plugin in Indigo: its type and its properties.  The two ids
that locate it are read apart, as numbers, where the properties hold them. -/
structure IndigoDevice where
  typeId : TypeId
  nodeId : Option NodeId
  endpointId : Option EndpointId
  otherProps : InsertionMap String String
deriving DecidableEq

/-- `indigo.devices.iter("self")`. -/
abbrev IndigoDevices := InsertionMap DeviceId IndigoDevice

/-- The node and endpoint of a device whose properties name both. -/
def IndigoDevice.location? (device : IndigoDevice) : Option (NodeId × EndpointId) :=
  match device.nodeId, device.endpointId with
  | some nodeId, some endpointId => some (nodeId, endpointId)
  | _, _ => none

/-- `_index`: the devices of each endpoint by type. -/
abbrev DeviceIndex := InsertionMap (NodeId × EndpointId) (InsertionMap TypeId DeviceId)

namespace DeviceIndex

/-- The devices indexed for an endpoint. -/
def typeMap (index : DeviceIndex) (nodeId : NodeId) (endpointId : EndpointId) :
    InsertionMap TypeId DeviceId :=
  (index.get? (nodeId, endpointId)).getD ∅

/-- `lookup` without a type: the first device of the endpoint. -/
def firstDevice? (index : DeviceIndex) (nodeId : NodeId) (endpointId : EndpointId) :
    Option DeviceId :=
  (index.typeMap nodeId endpointId).values.head?

/-- `note_device`. -/
def noteDevice (index : DeviceIndex) (id : DeviceId) (device : IndigoDevice) : DeviceIndex :=
  match device.location? with
  | some (nodeId, endpointId) =>
      index.set (nodeId, endpointId) ((index.typeMap nodeId endpointId).set device.typeId id)
  | none => index

end DeviceIndex

/-- `rebuild_index`. -/
def rebuildIndex (devices : IndigoDevices) : DeviceIndex :=
  devices.entries.foldl (fun index entry => index.noteDevice entry.1 entry.2) ∅

theorem DeviceIndex.typeMap_noteDevice {index : DeviceIndex} {id : DeviceId} {device : IndigoDevice}
    {nodeId : NodeId} {endpointId : EndpointId}
    (place : device.location? = some (nodeId, endpointId)) (otherNode : NodeId)
    (otherEndpoint : EndpointId) :
    (index.noteDevice id device).typeMap otherNode otherEndpoint =
      if otherNode = nodeId ∧ otherEndpoint = endpointId then
        (index.typeMap nodeId endpointId).set device.typeId id
      else index.typeMap otherNode otherEndpoint := by
  simp only [noteDevice, place, typeMap, InsertionMap.get?_set, Prod.mk.injEq]
  split <;> rfl

/-- Whether a device of Indigo belongs in a slot of the index. -/
def isAt (nodeId : NodeId) (endpointId : EndpointId) (typeId : TypeId)
    (entry : DeviceId × IndigoDevice) : Bool :=
  entry.2.location? = some (nodeId, endpointId) && entry.2.typeId = typeId

/-- A rebuilt index holds in each slot the last device that belongs there. -/
theorem get?_rebuildIndex (devices : IndigoDevices) (nodeId : NodeId) (endpointId : EndpointId)
    (typeId : TypeId) :
    ((rebuildIndex devices).typeMap nodeId endpointId).get? typeId =
      (devices.entries.filter (isAt nodeId endpointId typeId)).getLast?.map Prod.fst := by
  have fold (entries : List (DeviceId × IndigoDevice)) :
      ((entries.foldl (fun index entry => index.noteDevice entry.1 entry.2) ∅ :
          DeviceIndex).typeMap nodeId endpointId).get? typeId =
        (entries.filter (isAt nodeId endpointId typeId)).getLast?.map Prod.fst := by
    induction entries using List.reverseRecOn with
    | nil => rfl
    | append_singleton earlier entry ih =>
        rw [List.foldl_append, List.filter_append]
        simp only [List.foldl_cons, List.foldl_nil, List.filter_cons, List.filter_nil]
        cases place : entry.2.location? with
        | none => simpa [isAt, DeviceIndex.noteDevice, place] using ih
        | some key =>
            rcases key with ⟨ownNode, ownEndpoint⟩
            rw [DeviceIndex.typeMap_noteDevice place]
            by_cases here : nodeId = ownNode ∧ endpointId = ownEndpoint
            · rcases here with ⟨rfl, rfl⟩
              by_cases own : typeId = entry.2.typeId
              · simp [isAt, place, own]
              · simpa [isAt, place, own, Ne.symm own] using ih
            · have elsewhere : ¬(ownNode = nodeId ∧ ownEndpoint = endpointId) := by
                rintro ⟨rfl, rfl⟩
                exact here ⟨rfl, rfl⟩
              simpa [isAt, place, here, elsewhere] using ih
  exact fold devices.entries

/-- Deleting devices leaves the slots of the others as they were. -/
theorem get?_rebuildIndex_filterKeys {devices : IndigoDevices} {remains : DeviceId → Bool}
    {nodeId : NodeId} {endpointId : EndpointId} {typeId : TypeId} {device : DeviceId}
    (stored : ((rebuildIndex devices).typeMap nodeId endpointId).get? typeId = some device)
    (remaining : remains device = true) :
    ((rebuildIndex (devices.filterKeys remains)).typeMap nodeId endpointId).get? typeId =
      some device := by
  rw [get?_rebuildIndex, Option.map_eq_some_iff] at stored ⊢
  rcases stored with ⟨entry, last, rfl⟩
  refine ⟨entry, ?_, rfl⟩
  rcases List.getLast?_eq_some_iff.mp last with ⟨earlier, split⟩
  have swapped : (devices.filterKeys remains).entries.filter (isAt nodeId endpointId typeId) =
      (devices.entries.filter (isAt nodeId endpointId typeId)).filter fun other => remains other.1 := by
    simp only [InsertionMap.filterKeys, List.filter_filter, Bool.and_comm]
  rw [swapped, split, List.filter_append]
  simp [remaining]

/-! ## Where an indexed device belongs -/

/-- Every indexed device exists and says itself where it is indexed. -/
def Located (devices : IndigoDevices) (index : DeviceIndex) : Prop :=
  ∀ nodeId endpointId typeId id, (index.typeMap nodeId endpointId).get? typeId = some id →
    ∃ device, devices.get? id = some device ∧
      device.location? = some (nodeId, endpointId) ∧ device.typeId = typeId

theorem Located.noteDevice {devices : IndigoDevices} {index : DeviceIndex}
    (located : Located devices index) {id : DeviceId} {device : IndigoDevice}
    (present : devices.get? id = some device) : Located devices (index.noteDevice id device) := by
  intro nodeId endpointId typeId other stored
  cases place : device.location? with
  | none =>
      rw [DeviceIndex.noteDevice, place] at stored
      exact located nodeId endpointId typeId other stored
  | some key =>
      rcases key with ⟨ownNode, ownEndpoint⟩
      rw [DeviceIndex.typeMap_noteDevice place] at stored
      split at stored
      · rename_i here
        rcases here with ⟨rfl, rfl⟩
        rw [InsertionMap.get?_set] at stored
        split at stored
        · rename_i own
          obtain rfl := Option.some.inj stored
          exact ⟨device, present, place, own.symm⟩
        · exact located _ _ typeId other stored
      · exact located nodeId endpointId typeId other stored

theorem located_rebuildIndex (devices : IndigoDevices) : Located devices (rebuildIndex devices) := by
  have fold (entries : List (DeviceId × IndigoDevice)) (index : DeviceIndex)
      (located : Located devices index)
      (listed : ∀ entry ∈ entries, devices.get? entry.1 = some entry.2) :
      Located devices (entries.foldl (fun index entry => index.noteDevice entry.1 entry.2) index) := by
    induction entries generalizing index with
    | nil => exact located
    | cons entry rest ih =>
        apply ih
        · exact located.noteDevice (listed entry List.mem_cons_self)
        · intro other member
          exact listed other (List.mem_cons_of_mem _ member)
  apply fold
  · intro nodeId endpointId typeId id stored
    simp [DeviceIndex.typeMap] at stored
  · intro entry member
    exact InsertionMap.mem_entries_iff.mp member

namespace Located

variable {devices : IndigoDevices} {index : DeviceIndex}

/-- A device is indexed at one place and under one type. -/
theorem unique (located : Located devices index) {nodeId otherNode : NodeId}
    {endpointId otherEndpoint : EndpointId} {typeId otherType : TypeId} {id : DeviceId}
    (first : (index.typeMap nodeId endpointId).get? typeId = some id)
    (second : (index.typeMap otherNode otherEndpoint).get? otherType = some id) :
    nodeId = otherNode ∧ endpointId = otherEndpoint ∧ typeId = otherType := by
  rcases located _ _ _ _ first with ⟨device, stored, place, kind⟩
  rcases located _ _ _ _ second with ⟨other, otherStored, otherPlace, otherKind⟩
  obtain rfl := Option.some.inj (stored.symm.trans otherStored)
  have samePlace := Option.some.inj (place.symm.trans otherPlace)
  exact ⟨congrArg Prod.fst samePlace, congrArg Prod.snd samePlace, kind.symm.trans otherKind⟩

end Located

end IndigoMatter.Plugin
