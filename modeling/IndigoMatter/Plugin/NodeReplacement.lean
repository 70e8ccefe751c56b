import IndigoMatter.Plugin.DeviceDeletion

/-!
# Replacing a node

A device that is reset and paired again comes back as a new node with a set of
devices of its own.  A replacement pairs the devices of the old node with those of
the new one, deletes the new ones and moves the old ones over.

The operation is kept in its steps: other passes run between them.
-/

namespace IndigoMatter.Plugin

open IndigoMatter.Library

/-! ## Planning -/

/-- `DeviceRef`: a device as the planner sees it. -/
structure DeviceRef where
  devId : DeviceId
  endpointId : EndpointId
  typeId : TypeId
  name : String
deriving DecidableEq

/-- `_key`. -/
def DeviceRef.key (ref : DeviceRef) : EndpointId × TypeId := (ref.endpointId, ref.typeId)

/-- The order refs are sorted in: by endpoint, then type, then device. -/
def DeviceRef.le (first second : DeviceRef) : Prop :=
  first.endpointId < second.endpointId ∨ (first.endpointId = second.endpointId ∧
    (first.typeId < second.typeId ∨ (first.typeId = second.typeId ∧ first.devId ≤ second.devId)))

instance : DecidableRel DeviceRef.le := fun first second => by
  unfold DeviceRef.le
  infer_instance

/-- `ReplacementPlan`. -/
structure ReplacementPlan where
  oldNode : NodeId
  newNode : NodeId
  pairs : List (DeviceRef × DeviceRef)
  unmatchedOld : List DeviceRef
  unmatchedNew : List DeviceRef
  extraDeletes : List DeviceRef

/-- `shape_matches`. -/
def ReplacementPlan.shapeMatches (plan : ReplacementPlan) : Bool :=
  plan.unmatchedOld.isEmpty && plan.unmatchedNew.isEmpty

/-- Pair each old device with the first new one of its key that is left; the old and
the new devices without a partner follow. -/
def pairUp : List DeviceRef → List DeviceRef →
    List (DeviceRef × DeviceRef) × List DeviceRef × List DeviceRef
  | [], rest => ([], [], rest)
  | old :: olds, rest =>
      match rest.find? (·.key = old.key) with
      | some new =>
          let paired := pairUp olds (rest.erase new)
          ((old, new) :: paired.1, paired.2)
      | none =>
          let paired := pairUp olds rest
          (paired.1, old :: paired.2.1, paired.2.2)

/-- Whether a ref is a node's own device. -/
def DeviceRef.isNodeDevice (ref : DeviceRef) : Bool :=
  ref.endpointId = 0 && ref.typeId = "matterNode"

/-- `plan_replacement`. -/
def planReplacement (oldNode : NodeId) (oldRefs : List DeviceRef) (newNode : NodeId)
    (newRefs : List DeviceRef) (dropNewNodeDevice : Bool) : ReplacementPlan :=
  let paired := pairUp (oldRefs.insertionSort DeviceRef.le) (newRefs.insertionSort DeviceRef.le)
  let unmatchedNew := paired.2.2.insertionSort DeviceRef.le
  { oldNode
    newNode
    pairs := paired.1
    unmatchedOld := paired.2.1
    unmatchedNew :=
      if dropNewNodeDevice then unmatchedNew.filter (!·.isNodeDevice) else unmatchedNew
    extraDeletes := if dropNewNodeDevice then unmatchedNew.filter (·.isNodeDevice) else [] }

/-- The devices a replacement would delete. -/
def ReplacementPlan.newDevices (plan : ReplacementPlan) : List DeviceRef :=
  plan.pairs.map Prod.snd ++ plan.extraDeletes

/-- `refusal_reasons`; no reason means go. -/
def refusalReasons (plan : ReplacementPlan) (allowMismatch : Bool) (exportedIds : List DeviceId)
    (references : DeviceId → List String) (referenceErrors : DeviceId → Option String) :
    List String :=
  let oldIds := (plan.pairs.map Prod.fst ++ plan.unmatchedOld).map (·.devId)
  let newIds := (plan.pairs.map Prod.snd ++ plan.unmatchedNew ++ plan.extraDeletes).map (·.devId)
  (if plan.oldNode = plan.newNode then
    ["The old and new node are the same; pick a different node to sync from."] else []) ++
  (if plan.pairs.isEmpty then
    ["No device on the new node matches a device on the old node (by endpoint and type)."]
    else []) ++
  (if oldIds.any (· ∈ newIds) then
    ["An Indigo device appears on both nodes (a stale lookup); " ++
      "restart the plugin or run a resync, then try again."] else []) ++
  (if !plan.shapeMatches && !allowMismatch then
    ["The two nodes have different device shapes; tick 'Matching only' to rebind only " ++
      "the devices that match."] else []) ++
  (plan.newDevices.filter (·.devId ∈ exportedIds)).map (fun new =>
    "\"" ++ new.name ++ "\" is exported as a Matter accessory and would be deleted. " ++
      "Move its accessory with \"Migrate an exported accessory…\" first.") ++
  (plan.newDevices.filter (fun new => !(references new.devId).isEmpty)).map (fun new =>
    "\"" ++ new.name ++ "\" is referenced by: " ++ ", ".intercalate (references new.devId) ++ ". " ++
      "Resolve those references first, or delete the device by hand.") ++
  plan.newDevices.filterMap (fun new => (referenceErrors new.devId).map fun error =>
    "Could not check whether \"" ++ new.name ++ "\" is referenced (" ++ error ++ "); " ++
      "refusing rather than guessing.")

theorem ne_of_refusalReasons_eq_nil {plan : ReplacementPlan} {allowMismatch : Bool}
    {exportedIds : List DeviceId} {references : DeviceId → List String}
    {referenceErrors : DeviceId → Option String}
    (unrefused : refusalReasons plan allowMismatch exportedIds references referenceErrors = []) :
    plan.oldNode ≠ plan.newNode := by
  intro same
  simp only [refusalReasons, List.append_assoc] at unrefused
  have first := (List.append_eq_nil_iff.mp unrefused).1
  rw [if_pos same] at first
  cases first

/-- `node_device_refs`: the devices indexed for a node that Indigo still has on it. -/
def PluginWorld.nodeDeviceRefs (world : PluginWorld) (names : DeviceId → String) (nodeId : NodeId) :
    List DeviceRef :=
  let entries := (world.sync.index.entries.filter (·.1.1 = nodeId)).flatMap fun entry =>
    entry.2.entries.map fun slot =>
      ({ devId := slot.2, endpointId := entry.1.2, typeId := slot.1, name := names slot.2 } : DeviceRef)
  (entries.insertionSort DeviceRef.le).filter fun ref =>
    (world.indigo.get? ref.devId).any (·.nodeId = some nodeId)

/-- `_plan_only`. -/
def PluginWorld.planOnly (world : PluginWorld) (names : DeviceId → String) (oldNode newNode : NodeId) :
    ReplacementPlan :=
  planReplacement oldNode (world.nodeDeviceRefs names oldNode) newNode
    (world.nodeDeviceRefs names newNode) (oldNode ∈ world.nodeTombstones)

/-- What the menu has when a replacement is asked for: the two nodes, the names of the
devices, and what Indigo says of exports and references. -/
structure ReplaceRequest where
  oldNode : NodeId
  newNode : NodeId
  names : DeviceId → String
  allowMismatch : Bool
  exportedIds : List DeviceId
  references : DeviceId → List String
  referenceErrors : DeviceId → Option String

/-- The plan of `_replacement_plan`. -/
def ReplaceRequest.plan (request : ReplaceRequest) (world : PluginWorld) : ReplacementPlan :=
  world.planOnly request.names request.oldNode request.newNode

/-- Its refusals. -/
def ReplaceRequest.refusals (request : ReplaceRequest) (world : PluginWorld) : List String :=
  refusalReasons (request.plan world) request.allowMismatch request.exportedIds request.references
    request.referenceErrors

/-! ## Carrying a plan out -/

/-- `rebound_props`. -/
def reboundProps (record : IndigoDevice) (newNode : NodeId) (softwareVersion : Option String) :
    IndigoDevice :=
  let otherProps := record.otherProps.set "address" (nodeIdToStr newNode)
  { record with
    nodeId := some newNode
    otherProps :=
      match softwareVersion with
      | some version => otherProps.set "softwareVersion" version
      | none => otherProps }

/-- A replacement under way. -/
structure Replacement where
  plan : ReplacementPlan
  nodeDevice : Option DeviceId
  softwareVersion : Option String
  deleted : List Deletion
  remaining : List (DeviceRef × DeviceRef)
  rebound : List DeviceId
  skipped : List (DeviceId × String)

namespace PluginWorld

/-- Enter `creation_suspended`. -/
def suspendCreation (world : PluginWorld) (nodeId : NodeId) : PluginWorld :=
  { world with creationSuspended := nodeId :: world.creationSuspended }

/-- Leave `creation_suspended`. -/
def resumeCreation (world : PluginWorld) (nodeId : NodeId) : PluginWorld :=
  { world with creationSuspended := world.creationSuspended.erase nodeId }

/-- `replace_node` up to its deletions: creation on the new node is suspended and the
new node's device captured. -/
def beginReplacement (world : PluginWorld) (plan : ReplacementPlan) : PluginWorld × Replacement :=
  let nodeDevice := (world.sync.index.typeMap plan.newNode 0).get? "matterNode"
  (world.suspendCreation plan.newNode,
    { plan
      nodeDevice
      softwareVersion := do (← world.indigo.get? (← nodeDevice)).otherProps.get? "softwareVersion"
      deleted := []
      remaining := plan.pairs
      rebound := []
      skipped := [] })

end PluginWorld

/-- The ids a replacement deletes. -/
def ReplacementPlan.duplicates (plan : ReplacementPlan) : List DeviceId :=
  plan.extraDeletes.foldl
    (fun ids ref => if ref.devId ∈ ids then ids else ids ++ [ref.devId])
    (plan.pairs.map (·.2.devId))

namespace Replacement

/-- Whether a device is among those the replacement deleted. -/
def hasDeleted (replacement : Replacement) (device : DeviceId) : Bool :=
  replacement.deleted.any (·.1 = device)

/-- The deletions of `replace_node`. -/
def deleteDuplicates (accepts : DeviceId → Bool) (world : PluginWorld) (replacement : Replacement) :
    PluginWorld × Replacement :=
  let result := world.deleteDevices accepts replacement.plan.duplicates replacement.nodeDevice
  (result.1, { replacement with deleted := result.2 })

/-- One pair of `replace_node`: the old device moves if its duplicate was deleted and
Indigo writes its properties. -/
def rebindPair (writeError? : DeviceId → Option String) (world : PluginWorld)
    (replacement : Replacement) (old new : DeviceRef) : PluginWorld × Replacement :=
  if !replacement.hasDeleted new.devId then
    (world, { replacement with skipped := replacement.skipped ++ [(old.devId,
      "its duplicate \"" ++ new.name ++ "\" (id " ++ toString new.devId ++ ") could not be deleted")] })
  else
    match world.indigo.get? old.devId, writeError? old.devId with
    | some record, none =>
        let version := if old.typeId = "matterNode" then replacement.softwareVersion else none
        ({ world with
            indigo := world.indigo.set old.devId (reboundProps record replacement.plan.newNode version) },
          { replacement with rebound := replacement.rebound ++ [old.devId] })
    | some _, some error =>
        (world, { replacement with skipped := replacement.skipped ++ [(old.devId,
          "Indigo refused the props write: " ++ error)] })
    | none, _ =>
        (world, { replacement with skipped := replacement.skipped ++ [(old.devId,
          "Indigo refused the props write: " ++ toString old.devId)] })

/-- Take the next pair. -/
def rebindNext (writeError? : DeviceId → Option String) (world : PluginWorld)
    (replacement : Replacement) : PluginWorld × Replacement :=
  match replacement.remaining with
  | [] => (world, replacement)
  | (old, new) :: rest => rebindPair writeError? world { replacement with remaining := rest } old new

/-- Whether a node device was deleted in the old node's place. -/
def carries (replacement : Replacement) : Bool :=
  replacement.plan.extraDeletes.any fun ref =>
    ref.typeId = "matterNode" && replacement.hasDeleted ref.devId

/-- The marks `replace_node` leaves: the tombstone carried over, and the retirement. -/
def leaveMarks (world : PluginWorld) (replacement : Replacement) : PluginWorld :=
  let tombstoned :=
    if replacement.carries then
      { world with nodeTombstones := PluginWorld.addMark world.nodeTombstones replacement.plan.newNode }
    else world
  if !replacement.rebound.isEmpty then
    { tombstoned with
      retiredNodes := PluginWorld.addMark tombstoned.retiredNodes replacement.plan.oldNode }
  else tombstoned

/-- The end of `replace_node`. -/
def finish (world : PluginWorld) (replacement : Replacement) : PluginWorld :=
  world.rebuild.resumeCreation replacement.plan.newNode

end Replacement

/-- `replace_node` with nothing in between. -/
def PluginWorld.replaceNode (accepts : DeviceId → Bool) (writeError? : DeviceId → Option String)
    (plan : ReplacementPlan) (world : PluginWorld) : PluginWorld × Replacement :=
  let begun := world.beginReplacement plan
  let deleted := Replacement.deleteDuplicates accepts begun.1 begun.2
  let moved := plan.pairs.foldl
    (fun state pair => Replacement.rebindPair writeError? state.1 state.2 pair.1 pair.2)
    (deleted.1, { deleted.2 with remaining := [] })
  (Replacement.finish (Replacement.leaveMarks moved.1 moved.2) moved.2, moved.2)

/-! ## What a plan is made of -/

section Planning

theorem pairUp_spec {olds news : List DeviceRef} :
    (∀ pair ∈ (pairUp olds news).1, pair.1 ∈ olds ∧ pair.2 ∈ news ∧ pair.1.key = pair.2.key) ∧
      (∀ ref ∈ (pairUp olds news).2.1, ref ∈ olds) ∧
      ((pairUp olds news).1.map Prod.snd ++ (pairUp olds news).2.2).Perm news ∧
      ((pairUp olds news).1.map Prod.fst ++ (pairUp olds news).2.1).Perm olds := by
  induction olds generalizing news with
  | nil => simp [pairUp]
  | cons old olds ih =>
      unfold pairUp
      cases found : news.find? (·.key = old.key) with
      | none =>
          rcases @ih news with ⟨pairs, unmatched, newPerm, oldPerm⟩
          refine ⟨?_, ?_, newPerm, ?_⟩
          · intro pair member
            rcases pairs pair member with ⟨listed, others⟩
            exact ⟨List.mem_cons_of_mem _ listed, others⟩
          · intro ref member
            rcases List.mem_cons.mp member with rfl | later
            · exact List.mem_cons_self
            · exact List.mem_cons_of_mem _ (unmatched ref later)
          · exact List.perm_middle.trans (oldPerm.cons old)
      | some new =>
          have listed := List.mem_of_find?_eq_some found
          have sameKey : new.key = old.key := by simpa using List.find?_some found
          rcases @ih (news.erase new) with ⟨pairs, unmatched, newPerm, oldPerm⟩
          refine ⟨?_, ?_, ?_, oldPerm.cons old⟩
          · intro pair member
            rcases List.mem_cons.mp member with rfl | later
            · exact ⟨List.mem_cons_self, listed, sameKey.symm⟩
            · rcases pairs pair later with ⟨oldListed, newListed, same⟩
              exact ⟨List.mem_cons_of_mem _ oldListed, List.mem_of_mem_erase newListed, same⟩
          · intro ref member
            exact List.mem_cons_of_mem _ (unmatched ref member)
          · exact (newPerm.cons new).trans (List.perm_cons_erase listed).symm

variable {oldNode newNode : NodeId} {oldRefs newRefs : List DeviceRef} {dropNewNodeDevice : Bool}

/-- The planner gives every new device one part. -/
theorem planReplacement_new :
    let plan := planReplacement oldNode oldRefs newNode newRefs dropNewNodeDevice
    (plan.newDevices ++ plan.unmatchedNew).Perm newRefs := by
  rcases @pairUp_spec (oldRefs.insertionSort DeviceRef.le) (newRefs.insertionSort DeviceRef.le) with
    ⟨_, _, newPerm, _⟩
  have sorted := newPerm.trans (List.perm_insertionSort DeviceRef.le newRefs)
  simp only [planReplacement, ReplacementPlan.newDevices]
  generalize pairUp (oldRefs.insertionSort DeviceRef.le) (newRefs.insertionSort DeviceRef.le) =
    paired at sorted ⊢
  have resorted := List.perm_insertionSort DeviceRef.le paired.2.2
  rw [List.append_assoc]
  cases dropNewNodeDevice with
  | false => exact (resorted.append_left _).trans sorted
  | true =>
      have halves := List.filter_append_perm (fun ref : DeviceRef => ref.isNodeDevice)
        (paired.2.2.insertionSort DeviceRef.le)
      exact ((halves.trans resorted).append_left _).trans sorted

/-- And every old device one. -/
theorem planReplacement_old :
    let plan := planReplacement oldNode oldRefs newNode newRefs dropNewNodeDevice
    (plan.pairs.map Prod.fst ++ plan.unmatchedOld).Perm oldRefs := by
  rcases @pairUp_spec (oldRefs.insertionSort DeviceRef.le) (newRefs.insertionSort DeviceRef.le) with
    ⟨_, _, _, oldPerm⟩
  exact oldPerm.trans (List.perm_insertionSort DeviceRef.le oldRefs)

/-- A pair has one key. -/
theorem key_eq_of_mem_pairs {pair : DeviceRef × DeviceRef}
    (member : pair ∈ (planReplacement oldNode oldRefs newNode newRefs dropNewNodeDevice).pairs) :
    pair.1.key = pair.2.key := by
  rcases @pairUp_spec (oldRefs.insertionSort DeviceRef.le) (newRefs.insertionSort DeviceRef.le) with
    ⟨pairs, _⟩
  exact (pairs pair member).2.2

theorem mem_nodeDeviceRefs {world : PluginWorld} {names : DeviceId → String} {nodeId : NodeId}
    {ref : DeviceRef} :
    ref ∈ world.nodeDeviceRefs names nodeId ↔
      (world.sync.index.typeMap nodeId ref.endpointId).get? ref.typeId = some ref.devId ∧
        ref.name = names ref.devId ∧
        ∃ record, world.indigo.get? ref.devId = some record ∧ record.nodeId = some nodeId := by
  simp only [PluginWorld.nodeDeviceRefs, List.mem_filter, List.mem_insertionSort, List.mem_flatMap,
    List.mem_map, Prod.exists, decide_eq_true_eq, Option.any_eq_true]
  constructor
  · rintro ⟨⟨ownNode, endpointId, slots, ⟨listed, rfl⟩, typeId, device, slot, rfl⟩, there⟩
    refine ⟨?_, rfl, there⟩
    rw [DeviceIndex.typeMap, InsertionMap.mem_entries_iff.mp listed]
    exact InsertionMap.mem_entries_iff.mp slot
  · rintro ⟨stored, named, there⟩
    cases found : world.sync.index.get? (nodeId, ref.endpointId) with
    | none => simp [DeviceIndex.typeMap, found] at stored
    | some slots =>
        rw [DeviceIndex.typeMap, found] at stored
        refine ⟨⟨nodeId, ref.endpointId, slots, ⟨InsertionMap.mem_entries_iff.mpr found, rfl⟩,
          ref.typeId, ref.devId, InsertionMap.mem_entries_iff.mpr stored, ?_⟩, there⟩
        rw [← named]

end Planning

/-- What is indexed and exists is in place. -/
def PluginWorld.Placed (world : PluginWorld) : Prop :=
  ∀ nodeId endpointId typeId device record,
    (world.sync.index.typeMap nodeId endpointId).get? typeId = some device →
      world.indigo.get? device = some record →
        record.location? = some (nodeId, endpointId) ∧ record.typeId = typeId

/-- The refs of a node have a slot each. -/
theorem nodeDeviceRefs_keys_nodup (world : PluginWorld) (names : DeviceId → String) (nodeId : NodeId) :
    ((world.nodeDeviceRefs names nodeId).map DeviceRef.key).Nodup := by
  have entries : (((world.sync.index.entries.filter (·.1.1 = nodeId)).flatMap fun entry =>
      entry.2.entries.map fun slot =>
        ({ devId := slot.2, endpointId := entry.1.2, typeId := slot.1, name := names slot.2 } :
          DeviceRef)).map DeviceRef.key).Nodup := by
    rw [List.map_flatMap, List.nodup_flatMap]
    constructor
    · rintro ⟨place, slots⟩ _
      simp only [List.map_map]
      refine List.Nodup.of_map Prod.snd ?_
      rw [List.map_map]
      exact slots.nodupKeys
    · have distinct : (world.sync.index.entries.filter (·.1.1 = nodeId)).Pairwise
          fun first second => first.1 ≠ second.1 :=
        (List.pairwise_map.mp world.sync.index.nodupKeys).sublist List.filter_sublist
      refine distinct.imp_of_mem ?_
      rintro ⟨⟨firstNode, firstEndpoint⟩, firstSlots⟩ ⟨⟨secondNode, secondEndpoint⟩, secondSlots⟩
        firstListed secondListed apart
      have firstHere := (List.mem_filter.mp firstListed).2
      have secondHere := (List.mem_filter.mp secondListed).2
      simp only [decide_eq_true_eq] at firstHere secondHere
      subst firstHere secondHere
      intro key inFirst inSecond
      simp only [List.map_map, List.mem_map, Function.comp_apply, DeviceRef.key] at inFirst inSecond
      rcases inFirst with ⟨_, _, rfl⟩
      rcases inSecond with ⟨_, _, same⟩
      exact apart (by rw [(Prod.mk.inj same).1])
  have sorted := (List.perm_insertionSort DeviceRef.le ((world.sync.index.entries.filter
    (·.1.1 = nodeId)).flatMap fun entry => entry.2.entries.map fun slot =>
      ({ devId := slot.2, endpointId := entry.1.2, typeId := slot.1, name := names slot.2 } :
        DeviceRef))).map DeviceRef.key
  exact ((sorted.nodup_iff).mpr entries).sublist (List.filter_sublist.map DeviceRef.key)

/-- Where every device is in place, a node's refs are of different devices. -/
theorem nodeDeviceRefs_devIds_nodup {world : PluginWorld} (placed : world.Placed)
    (names : DeviceId → String) (nodeId : NodeId) :
    ((world.nodeDeviceRefs names nodeId).map (·.devId)).Nodup := by
  have distinct := nodeDeviceRefs_keys_nodup world names nodeId
  refine List.Nodup.map_on ?_ distinct.of_map
  intro first firstListed second secondListed same
  apply List.inj_on_of_nodup_map distinct firstListed secondListed
  rcases mem_nodeDeviceRefs.mp firstListed with ⟨firstStored, _, record, there, _⟩
  rcases mem_nodeDeviceRefs.mp secondListed with ⟨secondStored, _, _⟩
  rw [← same] at secondStored
  rcases placed _ _ _ _ _ firstStored there with ⟨firstPlace, firstType⟩
  rcases placed _ _ _ _ _ secondStored there with ⟨secondPlace, secondType⟩
  have samePlace := Option.some.inj (firstPlace.symm.trans secondPlace)
  exact Prod.ext (congrArg Prod.snd samePlace) (firstType.symm.trans secondType)

theorem mem_duplicates {plan : ReplacementPlan} {device : DeviceId} :
    device ∈ plan.duplicates ↔ ∃ ref ∈ plan.newDevices, ref.devId = device := by
  have fold (refs : List DeviceRef) (ids : List DeviceId) :
      device ∈ refs.foldl (fun ids ref => if ref.devId ∈ ids then ids else ids ++ [ref.devId]) ids ↔
        device ∈ ids ∨ ∃ ref ∈ refs, ref.devId = device := by
    induction refs generalizing ids with
    | nil => simp
    | cons ref rest ih =>
        rw [List.foldl_cons, ih]
        simp only [List.mem_cons, exists_eq_or_imp]
        split
        · rename_i listed
          constructor
          · rintro (earlier | later)
            · exact .inl earlier
            · exact .inr (.inr later)
          · rintro (earlier | rfl | later)
            · exact .inl earlier
            · exact .inl listed
            · exact .inr later
        · simp only [List.mem_append, List.mem_singleton, or_assoc, eq_comm]
  rw [ReplacementPlan.duplicates, fold]
  simp only [ReplacementPlan.newDevices, List.mem_append, List.mem_map, or_and_right, exists_or]
  constructor
  · rintro (⟨pair, listed, rfl⟩ | later)
    · exact .inl ⟨pair.2, ⟨pair, listed, rfl⟩, rfl⟩
    · exact .inr later
  · rintro (⟨ref, ⟨pair, listed, rfl⟩, rfl⟩ | later)
    · exact .inl ⟨pair, listed, rfl⟩
    · exact .inr later

theorem duplicates_nodup {plan : ReplacementPlan}
    (distinct : (plan.newDevices.map (·.devId)).Nodup) : plan.duplicates.Nodup := by
  have fold (refs : List DeviceRef) (ids : List DeviceId) (nodup : ids.Nodup) :
      (refs.foldl (fun ids ref => if ref.devId ∈ ids then ids else ids ++ [ref.devId]) ids).Nodup := by
    induction refs generalizing ids with
    | nil => exact nodup
    | cons ref rest ih =>
        by_cases listed : ref.devId ∈ ids
        · simp only [List.foldl_cons, if_pos listed]
          exact ih ids nodup
        · have longer : (ids ++ [ref.devId]).Nodup := by
            rw [List.nodup_append]
            refine ⟨nodup, List.nodup_singleton _, ?_⟩
            rintro other member _ same rfl
            exact listed (List.mem_singleton.mp same ▸ member)
          simp only [List.foldl_cons, if_neg listed]
          exact ih _ longer
  apply fold
  rw [ReplacementPlan.newDevices, List.map_append, List.map_map] at distinct
  exact (List.nodup_append.mp distinct).1

/-- The devices a plan deletes are refs of the new node, each taken once. -/
theorem newDevices_planOnly {world : PluginWorld} (placed : world.Placed)
    (names : DeviceId → String) (oldNode newNode : NodeId) :
    (∀ ref ∈ (world.planOnly names oldNode newNode).newDevices,
        ref ∈ world.nodeDeviceRefs names newNode) ∧
      ((world.planOnly names oldNode newNode).newDevices.map (·.devId)).Nodup := by
  have parts := @planReplacement_new oldNode newNode (world.nodeDeviceRefs names oldNode)
    (world.nodeDeviceRefs names newNode) (oldNode ∈ world.nodeTombstones)
  constructor
  · intro ref listed
    exact parts.mem_iff.mp (List.mem_append_left _ listed)
  · have distinct := ((parts.map (·.devId)).nodup_iff).mpr (nodeDeviceRefs_devIds_nodup placed names newNode)
    rw [List.map_append] at distinct
    exact (List.nodup_append.mp distinct).1

/-! ## What a replacement leaves as it was -/

/-- From one plugin state to another only the devices changed, and none in its type or
endpoint. -/
structure Rebinds (before after : PluginWorld) : Prop where
  frame : after = { before with indigo := after.indigo }
  kinds : ∀ device, (after.indigo.get? device).map (fun record => (record.typeId, record.endpointId)) =
    (before.indigo.get? device).map fun record => (record.typeId, record.endpointId)

namespace Rebinds

variable {before middle after : PluginWorld}

protected theorem refl (world : PluginWorld) : Rebinds world world := ⟨rfl, fun _ => rfl⟩

protected theorem trans (first : Rebinds before middle) (second : Rebinds middle after) :
    Rebinds before after where
  frame := by
    rw [second.frame, first.frame]
  kinds := fun device => (second.kinds device).trans (first.kinds device)

theorem mem_keys (rebinds : Rebinds before after) {device : DeviceId} :
    device ∈ after.indigo.keys ↔ device ∈ before.indigo.keys := by
  have same := congrArg Option.isSome (rebinds.kinds device)
  simp only [Option.isSome_map] at same
  rw [← InsertionMap.has_iff, ← InsertionMap.has_iff, InsertionMap.has, InsertionMap.has, same]

end Rebinds

theorem rebinds_rebindPair (writeError? : DeviceId → Option String) (world : PluginWorld)
    (replacement : Replacement) (old new : DeviceRef) :
    Rebinds world (Replacement.rebindPair writeError? world replacement old new).1 := by
  unfold Replacement.rebindPair
  split
  · exact .refl world
  · split
    · rename_i record _ stored _
      refine ⟨rfl, fun device => ?_⟩
      rw [InsertionMap.get?_set]
      split
      · rename_i same
        rw [same, stored]
        rfl
      · rfl
    · exact .refl world
    · exact .refl world

theorem rebindPair_plan (writeError? : DeviceId → Option String) (world : PluginWorld)
    (replacement : Replacement) (old new : DeviceRef) :
    (Replacement.rebindPair writeError? world replacement old new).2.plan = replacement.plan ∧
      (Replacement.rebindPair writeError? world replacement old new).2.deleted = replacement.deleted := by
  unfold Replacement.rebindPair
  split
  · exact ⟨rfl, rfl⟩
  · split <;> exact ⟨rfl, rfl⟩

/-- What an uninterrupted replacement leads to: the devices it deletes are gone, others
may have moved, the index is rebuilt, and it may have left its marks. -/
structure Replaces (plan : ReplacementPlan) (accepts : DeviceId → Bool) (before : PluginWorld)
    (after : PluginWorld × Replacement) : Prop where
  deletions : ∃ deleted,
    before.deleteDevices accepts plan.duplicates
      ((before.sync.index.typeMap plan.newNode 0).get? "matterNode") = (deleted, after.2.deleted) ∧
    Rebinds deleted { deleted with indigo := after.1.indigo } ∧
    after.1.selfDeletedIds = deleted.selfDeletedIds
  index : after.1.sync.index = rebuildIndex after.1.indigo
  nextId : after.1.nextId = before.nextId
  resumed : after.1.creationSuspended = before.creationSuspended
  tombstones : ∀ nodeId, nodeId ∈ after.1.nodeTombstones ↔
    nodeId ∈ before.nodeTombstones ∨ (after.2.carries = true ∧ nodeId = plan.newNode)
  carries : after.2.carries = true → ∃ ref ∈ plan.extraDeletes, accepts ref.devId = true

/-- Suspending creation does not touch a round of deletions. -/
theorem deleteDevices_suspendCreation (accepts : DeviceId → Bool) (candidates : List DeviceId)
    (nodeDevice : Option DeviceId) (world : PluginWorld) (nodeId : NodeId) :
    (world.suspendCreation nodeId).deleteDevices accepts candidates nodeDevice =
      ((world.deleteDevices accepts candidates nodeDevice).1.suspendCreation nodeId,
        (world.deleteDevices accepts candidates nodeDevice).2) := by
  let suspended (state : PluginWorld × List Deletion) : PluginWorld × List Deletion :=
    (state.1.suspendCreation nodeId, state.2)
  have one (own : Option DeviceId) (state : PluginWorld × List Deletion) (device : DeviceId) :
      PluginWorld.deleteOne accepts own (suspended state) device =
        suspended (PluginWorld.deleteOne accepts own state device) := by
    simp only [PluginWorld.deleteOne, suspended, PluginWorld.suspendCreation]
    cases state.1.indigo.get? device with
    | none =>
        by_cases same : own = some device
        · simp only [same, if_true]
          rfl
        · simp only [same, if_false]
    | some record =>
        cases accepts device with
        | true => rfl
        | false =>
            by_cases same : own = some device
            · simp only [same, Bool.false_eq_true, if_false, if_true]
              rfl
            · simp only [same, Bool.false_eq_true, if_false]
  unfold PluginWorld.deleteDevices
  cases nodeDevice.filter (· ∈ candidates) with
  | none => exact @List.foldl_hom _ _ _ suspended _ _ candidates (world, []) (one none)
  | some device =>
      exact @List.foldl_hom _ _ _ suspended _ _ candidates (world.markSelfDeleted device, [])
        (one (some device))

theorem rebinds_pairs (writeError? : DeviceId → Option String)
    (pairs : List (DeviceRef × DeviceRef)) (state : PluginWorld × Replacement) :
    let after := pairs.foldl
      (fun state pair => Replacement.rebindPair writeError? state.1 state.2 pair.1 pair.2) state
    Rebinds state.1 after.1 ∧ after.2.plan = state.2.plan ∧ after.2.deleted = state.2.deleted := by
  induction pairs generalizing state with
  | nil => exact ⟨.refl state.1, rfl, rfl⟩
  | cons pair rest ih =>
      have first := rebinds_rebindPair writeError? state.1 state.2 pair.1 pair.2
      rcases rebindPair_plan writeError? state.1 state.2 pair.1 pair.2 with ⟨samePlan, sameDeleted⟩
      rcases ih (Replacement.rebindPair writeError? state.1 state.2 pair.1 pair.2) with
        ⟨others, othersPlan, othersDeleted⟩
      exact ⟨first.trans others, othersPlan.trans samePlan, othersDeleted.trans sameDeleted⟩

theorem replaces_replaceNode (accepts : DeviceId → Bool) (writeError? : DeviceId → Option String)
    (plan : ReplacementPlan) (world : PluginWorld) :
    Replaces plan accepts world (world.replaceNode accepts writeError? plan) := by
  have moved := rebinds_pairs writeError? plan.pairs
    ((Replacement.deleteDuplicates accepts (world.beginReplacement plan).1
        (world.beginReplacement plan).2).1,
      { (Replacement.deleteDuplicates accepts (world.beginReplacement plan).1
          (world.beginReplacement plan).2).2 with remaining := [] })
  unfold PluginWorld.replaceNode
  simp only [Replacement.deleteDuplicates, PluginWorld.beginReplacement,
    deleteDevices_suspendCreation] at moved ⊢
  generalize plan.pairs.foldl _ _ = final at moved ⊢
  rcases moved with ⟨rebinds, samePlan, sameDeleted⟩
  have deletes := PluginWorld.deletes_deleteDevices accepts plan.duplicates
    ((world.sync.index.typeMap plan.newNode 0).get? "matterNode") world
  generalize resultEq : world.deleteDevices accepts plan.duplicates
    ((world.sync.index.typeMap plan.newNode 0).get? "matterNode") = result at *
  have marks : (Replacement.finish (Replacement.leaveMarks final.1 final.2) final.2) =
      { final.1 with
        sync := { final.1.sync with index := rebuildIndex final.1.indigo }
        nodeTombstones := if final.2.carries then
          PluginWorld.addMark final.1.nodeTombstones plan.newNode else final.1.nodeTombstones
        retiredNodes := if !final.2.rebound.isEmpty then
          PluginWorld.addMark final.1.retiredNodes plan.oldNode else final.1.retiredNodes
        creationSuspended := final.1.creationSuspended.erase plan.newNode } := by
    simp only [Replacement.finish, Replacement.leaveMarks, samePlan, PluginWorld.rebuild,
      PluginWorld.resumeCreation]
    cases final.2.carries with
    | true => cases final.2.rebound.isEmpty <;> rfl
    | false => cases final.2.rebound.isEmpty <;> rfl
  rw [marks]
  have frame := rebinds.frame
  rw [deletes.frame] at frame
  simp only [PluginWorld.suspendCreation] at frame
  refine ⟨⟨result.1, ?_, ⟨rfl, rebinds.kinds⟩, ?_⟩, rfl, ?_, ?_, ?_, ?_⟩
  · rw [resultEq, sameDeleted]
  · rw [frame]
  · rw [frame]
  · rw [frame]
    simp
  · intro nodeId
    have same : final.1.nodeTombstones = world.nodeTombstones := by rw [frame]
    simp only [same]
    cases carried : final.2.carries with
    | true =>
        simp only [if_true, PluginWorld.mem_addMark]
        tauto
    | false => simp
  · intro carried
    simp only [Replacement.carries, samePlan, List.any_eq_true, Bool.and_eq_true,
      Replacement.hasDeleted, sameDeleted, decide_eq_true_eq] at carried
    rcases carried with ⟨ref, listed, _, ⟨device, record⟩, deleted, rfl⟩
    exact ⟨ref, listed, ((deletes.deleted _ _).mp deleted).2.1⟩

end IndigoMatter.Plugin
