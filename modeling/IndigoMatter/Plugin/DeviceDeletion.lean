import IndigoMatter.Plugin.LiveRefresh

/-!
# Deleting devices, and the marks a deletion leaves

Indigo tells the plugin of every deletion, the plugin's own included.  The node's
own device is the one a user can delete for good: its deletion leaves a tombstone
on the node, unless the plugin marked the device before deleting it itself.

A second mark, the retirement, is left on a node whose devices a replacement moved
away.  Both are forgotten when the controller reports the node removed.
-/

namespace IndigoMatter.Plugin

open IndigoMatter.Library

/-! ## Index entries -/

namespace DeviceIndex

/-- The index with a device dropped wherever it is indexed. -/
def prune (index : DeviceIndex) (device : DeviceId) : DeviceIndex :=
  index.mapValues fun _ slots => slots.filterKeys fun typeId => slots.get? typeId != some device

/-- `_forget_device`: drop a device, and the endpoints this leaves empty. -/
def forgetDevice (index : DeviceIndex) (device : DeviceId) : DeviceIndex :=
  (index.prune device).filterKeys fun place =>
    !((index.prune device).typeMap place.1 place.2).entries.isEmpty

/-- The index part of `note_node_device_deleted`. -/
def dropNodeDevice (index : DeviceIndex) (nodeId : NodeId) : DeviceIndex :=
  match index.get? (nodeId, 0) with
  | none => index
  | some typeMap =>
      let remaining := typeMap.delete "matterNode"
      if remaining.entries.isEmpty then index.delete (nodeId, 0)
      else index.set (nodeId, 0) remaining

theorem typeMap_prune (index : DeviceIndex) (device : DeviceId) (nodeId : NodeId)
    (endpointId : EndpointId) :
    (index.prune device).typeMap nodeId endpointId =
      (index.typeMap nodeId endpointId).filterKeys fun typeId =>
        (index.typeMap nodeId endpointId).get? typeId != some device := by
  simp only [prune, typeMap, InsertionMap.get?_mapValues]
  cases index.get? (nodeId, endpointId) with
  | none => rfl
  | some slots => rfl

private theorem get?_isEmpty {typeMap : InsertionMap TypeId DeviceId}
    (isEmpty : typeMap.entries.isEmpty = true) (typeId : TypeId) : typeMap.get? typeId = none := by
  rw [InsertionMap.get?, List.isEmpty_iff.mp isEmpty]
  rfl

/-- Forgetting a device empties its slots and no others. -/
theorem get?_forgetDevice (index : DeviceIndex) (device : DeviceId) (nodeId : NodeId)
    (endpointId : EndpointId) (typeId : TypeId) :
    ((index.forgetDevice device).typeMap nodeId endpointId).get? typeId =
      if (index.typeMap nodeId endpointId).get? typeId = some device then none
      else (index.typeMap nodeId endpointId).get? typeId := by
  have pruned : ((index.prune device).typeMap nodeId endpointId).get? typeId =
      if (index.typeMap nodeId endpointId).get? typeId = some device then none
      else (index.typeMap nodeId endpointId).get? typeId := by
    rw [typeMap_prune, InsertionMap.get?_filterKeys]
    simp only [bne_iff_ne, ne_eq, ite_not]
  rw [← pruned]
  by_cases isEmpty : ((index.prune device).typeMap nodeId endpointId).entries.isEmpty = true
  · rw [get?_isEmpty isEmpty]
    simp [forgetDevice, typeMap, InsertionMap.get?_filterKeys] at isEmpty ⊢
    simp [isEmpty]
  · simp only [forgetDevice, typeMap, InsertionMap.get?_filterKeys] at isEmpty ⊢
    simp [isEmpty]

theorem get?_dropNodeDevice (index : DeviceIndex) (nodeId otherNode : NodeId)
    (endpointId : EndpointId) (typeId : TypeId) :
    ((index.dropNodeDevice nodeId).typeMap otherNode endpointId).get? typeId =
      if otherNode = nodeId ∧ endpointId = 0 ∧ typeId = "matterNode" then none
      else (index.typeMap otherNode endpointId).get? typeId := by
  cases stored : index.get? (nodeId, 0) with
  | none =>
      simp only [dropNodeDevice, stored]
      split
      · rename_i here
        rcases here with ⟨rfl, rfl, rfl⟩
        simp [typeMap, stored]
      · rfl
  | some slots =>
      by_cases isEmpty : (slots.delete "matterNode").entries.isEmpty
      · simp only [dropNodeDevice, stored, isEmpty, if_true, typeMap, InsertionMap.get?_delete,
          Prod.mk.injEq]
        by_cases here : otherNode = nodeId ∧ endpointId = 0
        · rcases here with ⟨rfl, rfl⟩
          have gone := get?_isEmpty isEmpty typeId
          rw [InsertionMap.get?_delete] at gone
          simpa [stored, eq_comm] using gone
        · rw [if_neg here, if_neg fun both => here ⟨both.1, both.2.1⟩]
      · simp only [dropNodeDevice, stored, isEmpty, Bool.false_eq_true, if_false, typeMap,
          InsertionMap.get?_set, Prod.mk.injEq]
        by_cases here : otherNode = nodeId ∧ endpointId = 0
        · rcases here with ⟨rfl, rfl⟩
          simp [stored, InsertionMap.get?_delete]
        · rw [if_neg here, if_neg fun both => here ⟨both.1, both.2.1⟩]

end DeviceIndex

/-! ## Deletions -/

/-- The node whose own device a record is. -/
def IndigoDevice.ownNode? (record : IndigoDevice) : Option NodeId :=
  if record.typeId = "matterNode" then record.nodeId else none

/-- A deletion Indigo carried out and will report, with the device as it was. -/
abbrev Deletion := DeviceId × IndigoDevice

namespace PluginWorld

/-- `_self_deleted_ids.add`. -/
def markSelfDeleted (world : PluginWorld) (device : DeviceId) : PluginWorld :=
  { world with selfDeletedIds :=
      if device ∈ world.selfDeletedIds then world.selfDeletedIds
      else world.selfDeletedIds ++ [device] }

/-- `_self_deleted_ids.discard`. -/
def unmarkSelfDeleted (world : PluginWorld) (device : DeviceId) : PluginWorld :=
  { world with selfDeletedIds := world.selfDeletedIds.filter (· ≠ device) }

/-- Delete a device in Indigo and forget it. -/
def remove (world : PluginWorld) (device : DeviceId) : PluginWorld :=
  { world with
    indigo := world.indigo.delete device
    sync := { world.sync with index := world.sync.index.forgetDevice device } }

/-- The loop body of `_delete_devices`: a device that is gone, or that Indigo refuses
to delete, is left out and its mark taken back. -/
def deleteOne (accepts : DeviceId → Bool) (nodeDevice : Option DeviceId)
    (state : PluginWorld × List Deletion) (device : DeviceId) : PluginWorld × List Deletion :=
  match state.1.indigo.get? device with
  | some record =>
      if accepts device then (state.1.remove device, state.2 ++ [(device, record)])
      else if nodeDevice = some device then (state.1.unmarkSelfDeleted device, state.2)
      else state
  | none =>
      if nodeDevice = some device then (state.1.unmarkSelfDeleted device, state.2) else state

/-- `_delete_devices`, with the deletions Indigo will report. -/
def deleteDevices (accepts : DeviceId → Bool) (candidates : List DeviceId)
    (nodeDevice : Option DeviceId) (world : PluginWorld) : PluginWorld × List Deletion :=
  let nodeDevice := nodeDevice.filter (· ∈ candidates)
  let marked :=
    match nodeDevice with
    | some device => world.markSelfDeleted device
    | none => world
  candidates.foldl (deleteOne accepts nodeDevice) (marked, [])

/-- The devices indexed for a node, but for its own. -/
def endpointCandidates (world : PluginWorld) (nodeId : NodeId) : List DeviceId :=
  (world.sync.index.entries.filter (·.1.1 = nodeId)).flatMap fun entry =>
    (entry.2.entries.filter fun slot => !(entry.1.2 = 0 && slot.1 = "matterNode")).map Prod.snd

/-- The devices `delete_node` collects: the node's own device comes last. -/
def nodeCandidates (world : PluginWorld) (nodeId : NodeId) : List DeviceId :=
  world.endpointCandidates nodeId ++ ((world.sync.index.typeMap nodeId 0).get? "matterNode").toList

/-- Take a node off the retired ones. -/
def unretire (world : PluginWorld) (nodeId : NodeId) : PluginWorld :=
  { world with retiredNodes := world.retiredNodes.filter (· ≠ nodeId) }

/-- `delete_node`. -/
def deleteNode (accepts : DeviceId → Bool) (nodeId : NodeId) (forget : Bool)
    (world : PluginWorld) : PluginWorld × List Deletion :=
  let result := world.deleteDevices accepts (world.nodeCandidates nodeId)
    ((world.sync.index.typeMap nodeId 0).get? "matterNode")
  if forget then (result.1.unretire nodeId, result.2) else result

/-- `NodeDeviceTombstones.add`, for either of the two sets. -/
def addMark (nodes : List NodeId) (nodeId : NodeId) : List NodeId :=
  if nodeId ∈ nodes then nodes else nodes ++ [nodeId]

/-- `note_node_device_deleted`. -/
def noteNodeDeviceDeleted (nodeId : NodeId) (device : DeviceId) (world : PluginWorld) :
    PluginWorld :=
  if device ∈ world.selfDeletedIds then world.unmarkSelfDeleted device
  else
    { world with
      sync := { world.sync with index := world.sync.index.dropNodeDevice nodeId }
      nodeTombstones := addMark world.nodeTombstones nodeId }

/-- `plugin.deviceDeleted`, as far as the node marks go. -/
def deviceDeleted (deletion : Deletion) (world : PluginWorld) : PluginWorld :=
  match deletion.2.nodeId with
  | some nodeId =>
      if deletion.2.typeId = "matterNode" then world.noteNodeDeviceDeleted nodeId deletion.1 else world
  | none => world

/-- `_forget_node_capabilities`: the links of the node and both marks. -/
def forgetNodeCapabilities (nodeId : NodeId) (world : PluginWorld) : PluginWorld :=
  { world with
    sync := { world.sync with
      forwardLinks := world.sync.forwardLinks.filterKeys (·.1 ≠ nodeId)
      reverseLinks := world.sync.reverseLinks.filterKeys (·.1 ≠ nodeId) }
    nodeTombstones := world.nodeTombstones.filter (· ≠ nodeId)
    retiredNodes := world.retiredNodes.filter (· ≠ nodeId) }

/-- `create_from_raw`, once the node is parsed. -/
def createFromRaw (accepts : Accepts?) (node : NodeInfo) (world : PluginWorld) : PluginWorld :=
  (world.unretire node.nodeId).createDevices accepts node

theorem mem_addMark {nodes : List NodeId} {nodeId other : NodeId} :
    other ∈ addMark nodes nodeId ↔ other = nodeId ∨ other ∈ nodes := by
  unfold addMark
  split
  · rename_i marked
    constructor
    · exact .inr
    · rintro (rfl | earlier)
      · exact marked
      · exact earlier
  · simp [or_comm]

theorem mem_endpointCandidates {world : PluginWorld} {nodeId : NodeId} {device : DeviceId} :
    device ∈ world.endpointCandidates nodeId ↔ ∃ endpointId typeId,
      ¬(endpointId = 0 ∧ typeId = "matterNode") ∧
        (world.sync.index.typeMap nodeId endpointId).get? typeId = some device := by
  simp only [endpointCandidates, List.mem_flatMap, List.mem_filter, List.mem_map, Prod.exists,
    decide_eq_true_eq, Bool.not_eq_true', Bool.and_eq_false_iff, decide_eq_false_iff_not,
    exists_eq_right, not_and_or, DeviceIndex.typeMap]
  constructor
  · rintro ⟨ownNode, endpointId, slots, ⟨listed, rfl⟩, typeId, slot, apart⟩
    refine ⟨endpointId, typeId, apart, ?_⟩
    rw [InsertionMap.mem_entries_iff.mp listed]
    exact InsertionMap.mem_entries_iff.mp slot
  · rintro ⟨endpointId, typeId, apart, stored⟩
    cases found : world.sync.index.get? (nodeId, endpointId) with
    | none => simp [found] at stored
    | some slots =>
        rw [found] at stored
        exact ⟨nodeId, endpointId, slots, ⟨InsertionMap.mem_entries_iff.mpr found, rfl⟩, typeId,
          InsertionMap.mem_entries_iff.mpr stored, apart⟩

/-- The candidates of `delete_node` are the devices indexed for the node. -/
theorem mem_nodeCandidates {world : PluginWorld} {nodeId : NodeId} {device : DeviceId} :
    device ∈ world.nodeCandidates nodeId ↔ ∃ endpointId typeId,
      (world.sync.index.typeMap nodeId endpointId).get? typeId = some device := by
  simp only [nodeCandidates, List.mem_append, Option.mem_toList]
  rw [mem_endpointCandidates]
  constructor
  · rintro (⟨endpointId, typeId, _, stored⟩ | stored)
    · exact ⟨endpointId, typeId, stored⟩
    · exact ⟨0, "matterNode", stored⟩
  · rintro ⟨endpointId, typeId, stored⟩
    by_cases own : endpointId = 0 ∧ typeId = "matterNode"
    · rcases own with ⟨rfl, rfl⟩
      exact .inr stored
    · exact .inl ⟨endpointId, typeId, own, stored⟩

/-! ## What a round of deletions does -/

/-- From one plugin state a round of deletions over some candidates leads to another:
the candidates that exist and that Indigo agrees to delete are gone from Indigo and
from the index, each reported once, and nothing else changes but the self-deleted
ids. -/
structure Deletes (accepts : DeviceId → Bool) (candidates : List DeviceId)
    (before after : PluginWorld) (log : List Deletion) : Prop where
  frame : after = { before with
    indigo := after.indigo
    sync := { before.sync with index := after.sync.index }
    selfDeletedIds := after.selfDeletedIds }
  deleted : ∀ device record, (device, record) ∈ log ↔
    device ∈ candidates ∧ accepts device = true ∧ before.indigo.get? device = some record
  indigo : ∀ device, after.indigo.get? device =
    if device ∈ log.map Prod.fst then none else before.indigo.get? device
  indexed : ∀ nodeId endpointId typeId device,
    (after.sync.index.typeMap nodeId endpointId).get? typeId = some device ↔
      (before.sync.index.typeMap nodeId endpointId).get? typeId = some device ∧
        device ∉ log.map Prod.fst
  once : (log.map Prod.fst).Nodup

namespace Deletes

variable {accepts : DeviceId → Bool} {candidates : List DeviceId} {before after : PluginWorld}
  {log : List Deletion}

protected theorem nil (world : PluginWorld) : Deletes accepts [] world world [] where
  frame := rfl
  deleted := by simp
  indigo := by simp
  indexed := by simp
  once := List.nodup_nil

/-- A candidate that stays changes at most the self-deleted ids. -/
theorem skip (deletes : Deletes accepts candidates before after log) {device : DeviceId}
    (stays : after.indigo.get? device = none ∨ accepts device = false) (selfDeletedIds : List DeviceId) :
    Deletes accepts (candidates ++ [device]) before { after with selfDeletedIds } log where
  frame := by
    rw [deletes.frame]
  deleted := by
    intro other record
    rw [deletes.deleted, List.mem_append, List.mem_singleton]
    constructor
    · rintro ⟨listed, agreed⟩
      exact ⟨.inl listed, agreed⟩
    · rintro ⟨listed | rfl, agreed, stored⟩
      · exact ⟨listed, agreed, stored⟩
      · rcases stays with gone | refused
        · rw [deletes.indigo] at gone
          split at gone
          · rename_i reported
            rcases List.mem_map.mp reported with ⟨⟨_, _⟩, listed, rfl⟩
            exact ⟨((deletes.deleted _ _).mp listed).1, agreed, stored⟩
          · rw [gone] at stored
            cases stored
        · rw [refused] at agreed
          cases agreed
  indigo := deletes.indigo
  indexed := deletes.indexed
  once := deletes.once

theorem delete (deletes : Deletes accepts candidates before after log) {device : DeviceId}
    {record : IndigoDevice} (stored : after.indigo.get? device = some record)
    (agreed : accepts device = true) :
    Deletes accepts (candidates ++ [device]) before (after.remove device)
      (log ++ [(device, record)]) := by
  have unreported : device ∉ log.map Prod.fst := by
    intro reported
    rw [deletes.indigo, if_pos reported] at stored
    cases stored
  have original : before.indigo.get? device = some record := by
    rwa [deletes.indigo, if_neg unreported] at stored
  refine ⟨?_, ?_, ?_, ?_, ?_⟩
  · rw [remove, deletes.frame]
  · intro other otherRecord
    simp only [List.mem_append, List.mem_singleton, deletes.deleted, Prod.mk.injEq]
    constructor
    · rintro (⟨listed, agreed⟩ | ⟨rfl, rfl⟩)
      · exact ⟨.inl listed, agreed⟩
      · exact ⟨.inr rfl, agreed, original⟩
    · rintro ⟨listed | rfl, agreed, found⟩
      · exact .inl ⟨listed, agreed, found⟩
      · exact .inr ⟨rfl, Option.some.inj (found.symm.trans original)⟩
  · intro other
    simp only [remove, InsertionMap.get?_delete, List.map_append, List.map_cons, List.map_nil,
      List.mem_append, List.mem_singleton, deletes.indigo]
    by_cases same : other = device
    · simp [same]
    · simp only [same, or_false, if_false]
  · intro nodeId endpointId typeId other
    simp only [remove, DeviceIndex.get?_forgetDevice, List.map_append, List.map_cons, List.map_nil,
      List.mem_append, List.mem_singleton, not_or]
    rw [← and_assoc, ← deletes.indexed]
    by_cases here : (after.sync.index.typeMap nodeId endpointId).get? typeId = some device
    · rw [if_pos here, here]
      simp [eq_comm]
    · rw [if_neg here]
      constructor
      · intro found
        refine ⟨found, ?_⟩
        rintro rfl
        exact here found
      · exact And.left
  · rw [List.map_append, List.nodup_append]
    refine ⟨deletes.once, List.nodup_singleton _, ?_⟩
    intro other reported last same rfl
    simp only [List.map_cons, List.map_nil, List.mem_singleton] at same
    exact unreported (same ▸ reported)

end Deletes

/-- The loop of `_delete_devices` is a round of deletions. -/
theorem deletes_foldl (accepts : DeviceId → Bool) (nodeDevice : Option DeviceId)
    (candidates : List DeviceId) (world : PluginWorld) :
    Deletes accepts candidates world
      (candidates.foldl (deleteOne accepts nodeDevice) (world, [])).1
      (candidates.foldl (deleteOne accepts nodeDevice) (world, [])).2 := by
  induction candidates using List.reverseRecOn with
  | nil => exact .nil world
  | append_singleton earlier device ih =>
      rw [List.foldl_append]
      simp only [List.foldl_cons, List.foldl_nil]
      generalize earlier.foldl (deleteOne accepts nodeDevice) (world, []) = state at ih ⊢
      unfold deleteOne
      cases stored : state.1.indigo.get? device with
      | none =>
          have skipped := ih.skip (.inl stored)
          by_cases own : nodeDevice = some device
          · simp only [own, if_true]
            exact skipped _
          · simp only [own, if_false]
            exact skipped state.1.selfDeletedIds
      | some record =>
          cases agreed : accepts device with
          | true =>
              simp only [if_true]
              exact ih.delete stored agreed
          | false =>
              have skipped := ih.skip (.inr agreed)
              by_cases own : nodeDevice = some device
              · simp only [own, Bool.false_eq_true, if_false, if_true]
                exact skipped _
              · simp only [own, Bool.false_eq_true, if_false]
                exact skipped state.1.selfDeletedIds

/-- So is `_delete_devices`. -/
theorem deletes_deleteDevices (accepts : DeviceId → Bool) (candidates : List DeviceId)
    (nodeDevice : Option DeviceId) (world : PluginWorld) :
    Deletes accepts candidates world (world.deleteDevices accepts candidates nodeDevice).1
      (world.deleteDevices accepts candidates nodeDevice).2 := by
  have unmarked (selfDeletedIds : List DeviceId) {after : PluginWorld} {log : List Deletion}
      (deletes : Deletes accepts candidates { world with selfDeletedIds } after log) :
      Deletes accepts candidates world after log :=
    ⟨deletes.frame, deletes.deleted, deletes.indigo, deletes.indexed, deletes.once⟩
  unfold deleteDevices
  cases nodeDevice.filter (· ∈ candidates) with
  | none => exact deletes_foldl accepts none candidates world
  | some device => exact unmarked _ (deletes_foldl accepts _ candidates (world.markSelfDeleted device))

/-! ## Which deletions are marked as the plugin's own -/

section Marks

variable {accepts : DeviceId → Bool} {nodeDevice : Option DeviceId} {candidates : List DeviceId}
  {world : PluginWorld}

/-- One deletion only ever takes the node device's mark back. -/
theorem mem_selfDeletedIds_deleteOne {state : PluginWorld × List Deletion} {device other : DeviceId}
    (unmarked : nodeDevice = some device → other ≠ device) :
    other ∈ (deleteOne accepts nodeDevice state device).1.selfDeletedIds ↔
      other ∈ state.1.selfDeletedIds := by
  unfold deleteOne
  by_cases own : nodeDevice = some device
  · have apart := unmarked own
    split
    · split
      · rfl
      · simp [unmarkSelfDeleted, apart]
    · rw [if_pos own]
      simp [unmarkSelfDeleted, apart]
  · split
    · split <;> rfl
    · rw [if_neg own]

theorem mem_reported_deleteOne {state : PluginWorld × List Deletion} {device other : DeviceId}
    (apart : other ≠ device) :
    other ∈ (deleteOne accepts nodeDevice state device).2.map Prod.fst ↔
      other ∈ state.2.map Prod.fst := by
  unfold deleteOne
  split
  · split
    · rw [List.map_append, List.mem_append]
      simp [apart]
    · split <;> rfl
  · split <;> rfl

theorem mem_selfDeletedIds_foldl {other : DeviceId} (unmarked : nodeDevice ≠ some other) :
    other ∈ (candidates.foldl (deleteOne accepts nodeDevice) (world, [])).1.selfDeletedIds ↔
      other ∈ world.selfDeletedIds := by
  induction candidates using List.reverseRecOn with
  | nil => rfl
  | append_singleton earlier device ih =>
      rw [List.foldl_append, List.foldl_cons, List.foldl_nil, mem_selfDeletedIds_deleteOne, ih]
      rintro own rfl
      exact unmarked own

/-- The node device keeps its mark only if it was deleted. -/
theorem deleted_of_marked {device : DeviceId} (listed : device ∈ candidates)
    (marked : device ∈
      (candidates.foldl (deleteOne accepts (some device)) (world, [])).1.selfDeletedIds) :
    device ∈ (candidates.foldl (deleteOne accepts (some device)) (world, [])).2.map Prod.fst := by
  induction candidates using List.reverseRecOn with
  | nil => cases listed
  | append_singleton earlier other ih =>
      rw [List.foldl_append, List.foldl_cons, List.foldl_nil] at marked ⊢
      generalize earlier.foldl (deleteOne accepts (some device)) (world, []) = state at ih marked ⊢
      by_cases own : other = device
      · subst own
        unfold deleteOne at marked ⊢
        split at marked
        · split at marked
          · rename_i agreed
            simp [agreed]
          · simp [unmarkSelfDeleted] at marked
        · simp [unmarkSelfDeleted] at marked
      · rw [mem_selfDeletedIds_deleteOne fun same => by simpa [eq_comm] using own] at marked
        have earlierListed : device ∈ earlier := by
          rcases List.mem_append.mp listed with listed | last
          · exact listed
          · exact absurd (List.mem_singleton.mp last).symm own
        rw [mem_reported_deleteOne (Ne.symm own)]
        exact ih earlierListed marked

/-- A node device that is listed once and deleted keeps its mark. -/
theorem marked_of_deleted {device : DeviceId} (once : candidates.count device ≤ 1)
    (marked : device ∈ world.selfDeletedIds)
    (deleted : device ∈
      (candidates.foldl (deleteOne accepts (some device)) (world, [])).2.map Prod.fst) :
    device ∈ (candidates.foldl (deleteOne accepts (some device)) (world, [])).1.selfDeletedIds := by
  suffices kept : ∀ earlier : List DeviceId, earlier.count device ≤ 1 →
      (device ∈ earlier → device ∈
        (earlier.foldl (deleteOne accepts (some device)) (world, [])).2.map Prod.fst) →
      device ∈ (earlier.foldl (deleteOne accepts (some device)) (world, [])).1.selfDeletedIds by
    exact kept candidates once fun _ => deleted
  intro earlier once
  induction earlier using List.reverseRecOn with
  | nil => exact fun _ => marked
  | append_singleton earlier other ih =>
      intro reported
      have deletes := deletes_foldl accepts (some device) earlier world
      rw [List.foldl_append, List.foldl_cons, List.foldl_nil] at reported ⊢
      rw [List.count_append] at once
      by_cases own : other = device
      · subst own
        have absent : other ∉ earlier := by
          intro listed
          have positive := List.count_pos_iff.mpr listed
          simp at once
          omega
        have before := ih (by omega) fun listed => absurd listed absent
        have unreported : other ∉
            (earlier.foldl (deleteOne accepts (some other)) (world, [])).2.map Prod.fst := by
          intro listed
          rcases List.mem_map.mp listed with ⟨⟨_, _⟩, stored, rfl⟩
          exact absent ((deletes.deleted _ _).mp stored).1
        have now := reported (by simp)
        generalize earlier.foldl (deleteOne accepts (some other)) (world, []) = state at *
        unfold deleteOne at now ⊢
        split at now
        · split at now
          · rename_i agreed
            simp only [agreed, if_true]
            exact before
          · simp only [if_true] at now
            exact absurd now unreported
        · simp only [if_true] at now
          exact absurd now unreported
      · rw [mem_selfDeletedIds_deleteOne fun same => by simpa [eq_comm] using own]
        apply ih (by omega)
        intro listed
        rw [← mem_reported_deleteOne (Ne.symm own)]
        exact reported (List.mem_append_left _ listed)

theorem mem_markSelfDeleted {device other : DeviceId} :
    other ∈ (world.markSelfDeleted device).selfDeletedIds ↔
      other = device ∨ other ∈ world.selfDeletedIds := by
  simp only [markSelfDeleted]
  split
  · rename_i already
    constructor
    · exact .inr
    · rintro (rfl | earlier)
      · exact already
      · exact earlier
  · simp [or_comm]

/-- After a round of deletions a device is marked only if it was before or was deleted. -/
theorem marked_or_deleted {device : DeviceId}
    (marked : device ∈ (world.deleteDevices accepts candidates nodeDevice).1.selfDeletedIds) :
    device ∈ world.selfDeletedIds ∨
      device ∈ (world.deleteDevices accepts candidates nodeDevice).2.map Prod.fst := by
  unfold deleteDevices at marked ⊢
  cases own : nodeDevice.filter (· ∈ candidates) with
  | none =>
      simp only [own] at marked
      rw [mem_selfDeletedIds_foldl (Option.some_ne_none device).symm] at marked
      exact .inl marked
  | some node =>
      simp only [own] at marked ⊢
      by_cases same : node = device
      · subst same
        right
        apply deleted_of_marked _ marked
        simpa using (Option.filter_eq_some_iff.mp own).2
      · left
        rw [mem_selfDeletedIds_foldl fun eq => same (Option.some.inj eq), mem_markSelfDeleted] at marked
        rcases marked with rfl | earlier
        · exact absurd rfl same
        · exact earlier

/-- A round of deletions unmarks no other device than the node's own. -/
theorem marked_deleteDevices {device : DeviceId} (other : nodeDevice ≠ some device)
    (marked : device ∈ world.selfDeletedIds) :
    device ∈ (world.deleteDevices accepts candidates nodeDevice).1.selfDeletedIds := by
  unfold deleteDevices
  cases own : nodeDevice.filter (· ∈ candidates) with
  | none => exact (mem_selfDeletedIds_foldl (Option.some_ne_none device).symm).mpr marked
  | some node =>
      have named := (Option.filter_eq_some_iff.mp own).1
      rw [mem_selfDeletedIds_foldl, mem_markSelfDeleted]
      · exact .inr marked
      · rintro same
        exact other (named.trans same)

/-- A node device that is listed once and deleted is marked. -/
theorem marked_deleteDevices_of_deleted {device : DeviceId} (listed : device ∈ candidates)
    (once : candidates.count device ≤ 1)
    (deleted : device ∈ (world.deleteDevices accepts candidates (some device)).2.map Prod.fst) :
    device ∈ (world.deleteDevices accepts candidates (some device)).1.selfDeletedIds := by
  have own : (some device).filter (fun other => decide (other ∈ candidates)) = some device := by
    simp [Option.filter, listed]
  unfold deleteDevices at deleted ⊢
  simp only [own] at deleted ⊢
  exact marked_of_deleted once (mem_markSelfDeleted.mpr (.inl rfl)) deleted

end Marks

end PluginWorld

end IndigoMatter.Plugin
