import IndigoMatter.Plugin.DeletionIsolation

/-!
# A reconcile pass and its nodes

A reconcile pass starts from an index it has just rebuilt, so every indexed device
exists and no refresh of the pass can fail.  What it does for one node is followed
through the whole pass: the other nodes only touch their own devices, and the sweep
at the end only devices no node model has an endpoint for.
-/

namespace IndigoMatter.Plugin

open IndigoMatter.Library

/-- Every indexed device exists at its place, and Indigo does not reuse an id. -/
structure PluginWorld.Consistent (world : PluginWorld) : Prop where
  located : Located world.indigo world.sync.index
  existing_lt : ∀ device ∈ world.indigo.keys, device < world.nextId

namespace PluginWorld.Consistent

variable {world : PluginWorld}

theorem present (consistent : world.Consistent) {nodeId : NodeId} {endpointId : EndpointId}
    {device : DeviceId} (stored : device ∈ world.sync.index.devicesOn nodeId endpointId) :
    device ∈ world.indigo.keys := by
  rcases mem_devicesOn.mp stored with ⟨typeId, found⟩
  rcases consistent.located _ _ _ _ found with ⟨record, there, _⟩
  exact InsertionMap.mem_keys_iff.mpr ⟨record, there⟩

theorem unique (consistent : world.Consistent) {nodeId otherNode : NodeId}
    {endpointId otherEndpoint : EndpointId} {device : DeviceId}
    (first : device ∈ world.sync.index.devicesOn nodeId endpointId)
    (second : device ∈ world.sync.index.devicesOn otherNode otherEndpoint) :
    nodeId = otherNode ∧ endpointId = otherEndpoint := by
  rcases mem_devicesOn.mp first with ⟨typeId, found⟩
  rcases mem_devicesOn.mp second with ⟨otherType, otherFound⟩
  have same := consistent.located.unique found otherFound
  exact ⟨same.1, same.2.1⟩

theorem rebuild (existing : ∀ device ∈ world.indigo.keys, device < world.nextId) :
    world.rebuild.Consistent where
  located := located_rebuildIndex world.indigo
  existing_lt := existing

theorem append (consistent : world.Consistent) (log : List (DeviceId × DeviceEffect)) :
    (world.append log).Consistent :=
  ⟨consistent.located, consistent.existing_lt⟩

theorem create (consistent : world.Consistent) (node : NodeInfo) (endpointId : EndpointId)
    (typeId : TypeId) (pass : PrimePass) :
    ((world.create node.nodeId endpointId typeId).prime node pass).Consistent := by
  have fresh : world.indigo.get? world.nextId = none := by
    apply InsertionMap.get?_eq_none_iff.mpr
    intro there
    exact lt_irrefl _ (consistent.existing_lt _ there)
  have grown : Located (world.indigo.set world.nextId ⟨typeId, some node.nodeId, some endpointId, ∅⟩)
      world.sync.index := by
    intro nodeId otherEndpoint otherType device stored
    rcases consistent.located _ _ _ _ stored with ⟨record, there, placed⟩
    refine ⟨record, ?_, placed⟩
    rw [InsertionMap.get?_set, if_neg]
    · exact there
    · rintro rfl
      rw [fresh] at there
      cases there
  constructor
  · exact grown.noteDevice (by simp)
  · intro device there
    rcases InsertionMap.mem_keys_set.mp there with rfl | earlier
    · exact Nat.lt_succ_self _
    · exact (consistent.existing_lt _ earlier).trans (Nat.lt_succ_self _)

theorem ensureDevice (consistent : world.Consistent) {accepts : Accepts?} {node : NodeInfo}
    {siblings : List TypeId} {endpointId : EndpointId} {typeId : TypeId} :
    (world.ensureDevice accepts node siblings endpointId typeId).Consistent := by
  unfold PluginWorld.ensureDevice
  split
  · exact consistent
  · split
    · exact consistent
    · exact consistent.create node endpointId typeId _

theorem createDevices (consistent : world.Consistent) (accepts : Accepts?) (node : NodeInfo) :
    (world.createDevices accepts node).Consistent := by
  have fold (entries plan : List (EndpointId × TypeId)) (start : PluginWorld)
      (ready : start.Consistent) :
      (entries.foldl (fun world entry => world.ensureDevice accepts node
        (PluginWorld.plannedOn plan entry.1) entry.1 entry.2) start).Consistent := by
    induction entries generalizing start with
    | nil => exact ready
    | cons entry rest ih => exact ih _ ready.ensureDevice
  unfold PluginWorld.createDevices
  split
  · exact consistent
  · split
    · exact consistent
    · apply fold
      unfold PluginWorld.ensureNodeDevice
      have recorded : PluginWorld.Consistent { world with sync := world.sync.recordNode node } :=
        ⟨by simpa using consistent.located, consistent.existing_lt⟩
      split
      · exact recorded
      · exact recorded.ensureDevice

end PluginWorld.Consistent

/-! ## One node of a pass -/

theorem DeviceIndex.mem_filter_values {index : DeviceIndex} {selected : NodeId × EndpointId → Bool}
    {device : DeviceId} :
    device ∈ (index.entries.filter fun entry => selected entry.1).flatMap (·.2.values) ↔
      ∃ nodeId endpointId, selected (nodeId, endpointId) = true ∧
        device ∈ index.devicesOn nodeId endpointId := by
  simp only [List.mem_flatMap, List.mem_filter, Prod.exists, DeviceIndex.devicesOn,
    DeviceIndex.typeMap]
  constructor
  · rintro ⟨nodeId, endpointId, typeMap, ⟨listed, chosen⟩, member⟩
    refine ⟨nodeId, endpointId, chosen, ?_⟩
    rw [InsertionMap.mem_entries_iff.mp listed]
    exact member
  · rintro ⟨nodeId, endpointId, chosen, member⟩
    cases stored : index.get? (nodeId, endpointId) with
    | none =>
        rw [stored] at member
        cases member
    | some typeMap =>
        rw [stored] at member
        exact ⟨nodeId, endpointId, typeMap, ⟨InsertionMap.mem_entries_iff.mpr stored, chosen⟩, member⟩

theorem DeviceIndex.mem_devicesOf {index : DeviceIndex} {nodeId : NodeId} {device : DeviceId} :
    device ∈ index.devicesOf nodeId ↔ ∃ endpointId, device ∈ index.devicesOn nodeId endpointId := by
  have listed := @mem_filter_values index (fun place => place.1 = nodeId) device
  simp only [decide_eq_true_eq] at listed
  rw [devicesOf, listed]
  constructor
  · rintro ⟨_, endpointId, rfl, member⟩
    exact ⟨endpointId, member⟩
  · rintro ⟨endpointId, member⟩
    exact ⟨nodeId, endpointId, rfl, member⟩

/-- Passing over some nodes keeps what is indexed, adds only new devices, and records
effects on new devices and on those of these nodes. -/
structure PassesOver (nodeIds : List NodeId) (before after : PluginWorld)
    (log : List (DeviceId × DeviceEffect)) : Prop where
  effects : after.effects = before.effects ++ log
  nextId_le : before.nextId ≤ after.nextId
  consistent : after.Consistent
  kept : ∀ nodeId endpointId typeId device,
    (before.sync.index.typeMap nodeId endpointId).get? typeId = some device →
      (after.sync.index.typeMap nodeId endpointId).get? typeId = some device
  added : ∀ nodeId endpointId device, device ∈ after.sync.index.devicesOn nodeId endpointId →
    device ∈ before.sync.index.devicesOn nodeId endpointId ∨ before.nextId ≤ device
  about : ∀ entry ∈ log, before.nextId ≤ entry.1 ∨
    ∃ nodeId ∈ nodeIds, ∃ endpointId, entry.1 ∈ after.sync.index.devicesOn nodeId endpointId

namespace PassesOver

variable {nodeIds otherIds : List NodeId} {before middle after : PluginWorld}
  {log otherLog : List (DeviceId × DeviceEffect)}

theorem kept_devicesOn (pass : PassesOver nodeIds before after log) {nodeId : NodeId}
    {endpointId : EndpointId} {device : DeviceId}
    (stored : device ∈ before.sync.index.devicesOn nodeId endpointId) :
    device ∈ after.sync.index.devicesOn nodeId endpointId := by
  rcases mem_devicesOn.mp stored with ⟨typeId, found⟩
  exact mem_devicesOn.mpr ⟨typeId, pass.kept _ _ _ _ found⟩

protected theorem refl (consistent : before.Consistent) : PassesOver [] before before [] where
  effects := by simp
  nextId_le := le_rfl
  consistent := consistent
  kept := fun _ _ _ _ stored => stored
  added := fun _ _ _ stored => .inl stored
  about := by simp

protected theorem trans (first : PassesOver nodeIds before middle log)
    (second : PassesOver otherIds middle after otherLog) :
    PassesOver (nodeIds ++ otherIds) before after (log ++ otherLog) where
  effects := by
    rw [second.effects, first.effects, List.append_assoc]
  nextId_le := first.nextId_le.trans second.nextId_le
  consistent := second.consistent
  kept := fun _ _ _ _ stored => second.kept _ _ _ _ (first.kept _ _ _ _ stored)
  added := by
    intro nodeId endpointId device stored
    rcases second.added _ _ _ stored with earlier | new
    · exact first.added _ _ _ earlier
    · exact .inr (first.nextId_le.trans new)
  about := by
    intro entry member
    rcases List.mem_append.mp member with earlier | later
    · rcases first.about entry earlier with new | ⟨nodeId, listed, endpointId, stored⟩
      · exact .inl new
      · exact .inr ⟨nodeId, List.mem_append_left _ listed, endpointId, second.kept_devicesOn stored⟩
    · rcases second.about entry later with new | ⟨nodeId, listed, endpointId, stored⟩
      · exact .inl (first.nextId_le.trans new)
      · exact .inr ⟨nodeId, List.mem_append_right _ listed, endpointId, stored⟩

/-- A device of another node is left alone. -/
theorem leaves (pass : PassesOver nodeIds before after log) {nodeId : NodeId}
    (other : nodeId ∉ nodeIds) {endpointId : EndpointId} {device : DeviceId}
    (old : device < before.nextId)
    (stored : device ∈ before.sync.index.devicesOn nodeId endpointId) (effect : DeviceEffect) :
    (device, effect) ∉ log := by
  intro member
  rcases pass.about _ member with new | ⟨otherNode, listed, otherEndpoint, found⟩
  · exact absurd old (not_lt.mpr new)
  · have same := pass.consistent.unique (pass.kept_devicesOn stored) found
    exact other (same.1 ▸ listed)

theorem weaken (pass : PassesOver nodeIds before after log) (wider : nodeIds ⊆ otherIds) :
    PassesOver otherIds before after log where
  effects := pass.effects
  nextId_le := pass.nextId_le
  consistent := pass.consistent
  kept := pass.kept
  added := pass.added
  about := by
    intro entry member
    rcases pass.about entry member with new | ⟨nodeId, listed, place⟩
    · exact .inl new
    · exact .inr ⟨nodeId, wider listed, place⟩

/-- Recording effects on the devices of some nodes is a pass over them. -/
theorem ofAppend {world : PluginWorld} (consistent : world.Consistent)
    (about : ∀ entry ∈ log, ∃ nodeId ∈ nodeIds, ∃ endpointId,
      entry.1 ∈ world.sync.index.devicesOn nodeId endpointId) :
    PassesOver nodeIds world (world.append log) log where
  effects := rfl
  nextId_le := le_rfl
  consistent := consistent.append log
  kept := fun _ _ _ _ stored => stored
  added := fun _ _ _ stored => .inl stored
  about := fun entry member => .inr (about entry member)

/-- A create pass is a pass over its node. -/
theorem createDevices {world : PluginWorld} {node : NodeInfo} (derived : node.Derived)
    (consistent : world.Consistent) (accepts : Accepts?) :
    ∃ log, (∀ entry ∈ log, world.nextId ≤ entry.1) ∧
      PassesOver [node.nodeId] world (world.createDevices accepts node) log := by
  have grows := @PluginWorld.grows_createDevices accepts node derived world
  rcases grows.effects with ⟨log, recorded, fresh⟩
  rw [PluginWorld.recorded_effects] at recorded
  rw [PluginWorld.recorded_nextId] at fresh
  refine ⟨log, fresh, recorded, ?_, consistent.createDevices accepts node, ?_, ?_, ?_⟩
  · simpa using grows.nextId_le
  · intro nodeId endpointId typeId device stored
    apply grows.kept
    rwa [PluginWorld.recorded_index]
  · intro nodeId endpointId device stored
    rcases mem_devicesOn_createDevices derived stored with earlier | ⟨new, _⟩
    · exact .inl earlier
    · exact .inr new
  · intro entry member
    exact .inl (fresh entry member)

end PassesOver

/-- The effects of marking the devices of a node unreachable. -/
def unreachableLog (world : PluginWorld) (devices : List DeviceId) :
    List (DeviceId × DeviceEffect) :=
  devices.flatMap fun device => effectOn world device .markedUnreachable

theorem mem_effectOn {world : PluginWorld} {device : DeviceId} {effect : DeviceEffect}
    {entry : DeviceId × DeviceEffect} :
    entry ∈ effectOn world device effect ↔ device ∈ world.indigo.keys ∧ entry = (device, effect) := by
  unfold effectOn
  split
  · rename_i there
    simp [InsertionMap.has_iff.mp there]
  · rename_i gone
    simp [mt InsertionMap.has_iff.mpr gone]

theorem mem_unreachableLog {world : PluginWorld} {devices : List DeviceId}
    {entry : DeviceId × DeviceEffect} (member : entry ∈ unreachableLog world devices) :
    entry.1 ∈ devices := by
  rcases List.mem_flatMap.mp member with ⟨device, listed, recorded⟩
  rw [(mem_effectOn.mp recorded).2]
  exact listed

theorem run_markAll (devices : List DeviceId) (world : PluginWorld) :
    (forM devices fun device => guardedEffect device .markedUnreachable : Refresh Unit) world =
      .ok () (world.append (unreachableLog world devices)) := by
  have loop := @run_forM_append _ devices (fun device => guardedEffect device .markedUnreachable)
    (fun device => effectOn world device .markedUnreachable) world
    (fun device _ prior => by simp [run_guardedEffect, effectOn]) []
  simpa [unreachableLog] using loop

theorem run_markUnreachable (nodeId : NodeId) (world : PluginWorld) :
    markUnreachable nodeId world =
      .ok () (world.append (unreachableLog world (world.sync.index.devicesOf nodeId) ++
        reachableLog world nodeId false)) := by
  simp only [markUnreachable, bind, EStateM.bind, get, getThe, MonadStateOf.get, EStateM.get,
    run_markAll, run_writeNodeReachable, PluginWorld.append_append]
  rfl

theorem reachableLog_about {world : PluginWorld} {nodeId : NodeId} {value : Bool}
    {entry : DeviceId × DeviceEffect} (member : entry ∈ reachableLog world nodeId value) :
    entry.1 ∈ world.sync.index.devicesOn nodeId 0 :=
  mem_devicesOn.mpr ⟨_, (mem_reachableLog.mp member).1⟩

/-- A log does for the indexed devices of a node what a refresh is for. -/
structure Refreshes (node : NodeInfo) (before : PluginWorld)
    (log : List (DeviceId × DeviceEffect)) : Prop where
  primes : ∀ endpointId ∈ node.endpoints.map (·.endpointId),
    ∀ device ∈ before.sync.index.devicesOn node.nodeId endpointId,
      (∃ attributes, (device, .primed attributes) ∈ log) ∧ (device, .errorCleared) ∈ log
  reaches : ∀ device, (before.sync.index.typeMap node.nodeId 0).get? "matterNode" = some device →
    (device, .reachable true) ∈ log
  spares : ∀ endpointId, ∀ device ∈ before.sync.index.devicesOn node.nodeId endpointId,
    (device, .markedUnreachable) ∉ log ∧ (device, .reachable false) ∉ log

section Node

variable {node : NodeInfo} {world : PluginWorld}

/-- The effects of handling a node whose devices have been created and all exist. -/
def nodeLog (created : PluginWorld) (node : NodeInfo) : List (DeviceId × DeviceEffect) :=
  if node.available then refreshLog created node ++ reachableLog created node.nodeId true
  else
    (unreachableLog created (created.sync.index.devicesOf node.nodeId) ++
        reachableLog created node.nodeId false) ++
      reachableLog created node.nodeId false

/-- Where the index is consistent, one node of a reconcile pass cannot fail. -/
theorem reconcileNode_eq (consistent : world.Consistent) (accepts : Accepts?) :
    reconcileNode accepts node world =
      .ok () ((world.createDevices accepts node).append
        (nodeLog (world.createDevices accepts node) node)) := by
  have ready := consistent.createDevices accepts node
  cases available : node.available with
  | true =>
      have there : ∀ pass ∈ (world.createDevices accepts node).sync.refreshPasses node,
          (world.createDevices accepts node).indigo.has pass.device = true := by
        intro pass member
        rcases stored_of_mem_refreshPasses member with ⟨endpointId, _, stored⟩
        exact InsertionMap.has_iff.mpr (ready.present stored)
      simp only [reconcileNode, tryCatch, tryCatchThe, MonadExceptOf.tryCatch, EStateM.tryCatch,
        run_onNodeAdded available there, nodeLog, available, if_true]
  | false =>
      simp only [reconcileNode, onNodeAdded, applyReachability, available, tryCatch, tryCatchThe,
        MonadExceptOf.tryCatch, EStateM.tryCatch, bind, EStateM.bind, modify, modifyGet,
        MonadStateOf.modifyGet, EStateM.modifyGet, Bool.false_eq_true, if_false, nodeLog,
        run_markUnreachable, run_writeNodeReachable, PluginWorld.append_append]
      rfl

/-- What a node's effects are about is indexed for it. -/
theorem nodeLog_about {created : PluginWorld} {entry : DeviceId × DeviceEffect}
    (member : entry ∈ nodeLog created node) :
    ∃ endpointId, entry.1 ∈ created.sync.index.devicesOn node.nodeId endpointId := by
  unfold nodeLog at member
  split at member
  · rcases List.mem_append.mp member with refreshed | reached
    · rcases (mem_refreshLog refreshed).1 with ⟨pass, listed, same⟩
      rcases stored_of_mem_refreshPasses listed with ⟨endpointId, _, stored⟩
      exact ⟨endpointId, same ▸ stored⟩
    · exact ⟨0, reachableLog_about reached⟩
  · rcases List.mem_append.mp member with first | last
    · rcases List.mem_append.mp first with marked | reached
      · exact DeviceIndex.mem_devicesOf.mp (mem_unreachableLog marked)
      · exact ⟨0, reachableLog_about reached⟩
    · exact ⟨0, reachableLog_about last⟩

/-- One node of a reconcile pass only touches its own devices, and refreshes them where
it is available. -/
theorem run_reconcileNode (derived : node.Derived) (consistent : world.Consistent)
    (accepts : Accepts?) :
    ∃ after log, reconcileNode accepts node world = .ok () after ∧
      PassesOver [node.nodeId] world after log ∧
      (node.available = true → Refreshes node world log) := by
  rcases PassesOver.createDevices derived consistent accepts with ⟨createLog, fresh, created⟩
  have ready := consistent.createDevices accepts node
  have about : ∀ entry ∈ nodeLog (world.createDevices accepts node) node,
      ∃ nodeId ∈ [node.nodeId], ∃ endpointId,
        entry.1 ∈ (world.createDevices accepts node).sync.index.devicesOn nodeId endpointId :=
    fun entry member => ⟨node.nodeId, List.mem_singleton.mpr rfl, nodeLog_about member⟩
  refine ⟨_, createLog ++ _, reconcileNode_eq consistent accepts,
    (created.trans (.ofAppend ready about)).weaken (by simp), fun available => ?_⟩
  rw [nodeLog, if_pos available]
  constructor
  · intro endpointId listed device stored
    rcases exists_refreshPass listed (created.kept_devicesOn stored) with ⟨pass, member, rfl⟩
    rcases primed_of_mem_refreshPasses member with ⟨⟨attributes, primed⟩, cleared⟩
    exact ⟨⟨attributes, List.mem_append_right _ (List.mem_append_left _ primed)⟩,
      List.mem_append_right _ (List.mem_append_left _ cleared)⟩
  · intro device named
    have kept := created.kept _ _ _ _ named
    have there := ready.present (mem_devicesOn.mpr ⟨_, kept⟩)
    apply List.mem_append_right
    apply List.mem_append_right
    exact mem_reachableLog.mpr ⟨kept, there, rfl⟩
  · intro endpointId device stored
    have old := consistent.existing_lt _ (consistent.present stored)
    have spared : ∀ effect, (device, effect) ∈ createLog ++
        (refreshLog (world.createDevices accepts node) node ++
          reachableLog (world.createDevices accepts node) node.nodeId true) →
        effect ≠ .markedUnreachable ∧ effect ≠ .reachable false := by
      intro effect member
      rcases List.mem_append.mp member with early | late
      · exact absurd old (not_lt.mpr (fresh _ early))
      rcases List.mem_append.mp late with refreshed | reached
      · exact ⟨(mem_refreshLog refreshed).2.1, (mem_refreshLog refreshed).2.2 false⟩
      · have written : effect = .reachable true := (mem_reachableLog.mp reached).2.2
        rw [written]
        exact ⟨nofun, nofun⟩
    exact ⟨fun marked => (spared _ marked).1 rfl, fun marked => (spared _ marked).2 rfl⟩

end Node

/-! ## The whole pass -/

namespace Refreshes

variable {node : NodeInfo} {nodeIds : List NodeId} {before middle after : PluginWorld}
  {log otherLog : List (DeviceId × DeviceEffect)}

/-- A pass over other nodes afterwards does not undo a refresh. -/
theorem andThen (refreshes : Refreshes node before log) (consistent : before.Consistent)
    (first : PassesOver [node.nodeId] before middle log)
    (second : PassesOver nodeIds middle after otherLog) (other : node.nodeId ∉ nodeIds) :
    Refreshes node before (log ++ otherLog) where
  primes := by
    intro endpointId listed device stored
    rcases refreshes.primes endpointId listed device stored with ⟨⟨attributes, primed⟩, cleared⟩
    exact ⟨⟨attributes, List.mem_append_left _ primed⟩, List.mem_append_left _ cleared⟩
  reaches := fun device named => List.mem_append_left _ (refreshes.reaches device named)
  spares := by
    intro endpointId device stored
    have old := consistent.existing_lt _ (consistent.present stored)
    have untouched := second.leaves other (old.trans_le first.nextId_le) (first.kept_devicesOn stored)
    rcases refreshes.spares endpointId device stored with ⟨unmarked, reachable⟩
    simp only [List.mem_append, not_or]
    exact ⟨⟨unmarked, untouched _⟩, reachable, untouched _⟩

/-- Nor does a pass over other nodes before. -/
theorem precededBy (refreshes : Refreshes node middle otherLog) (consistent : before.Consistent)
    (first : PassesOver nodeIds before middle log) (other : node.nodeId ∉ nodeIds) :
    Refreshes node before (log ++ otherLog) where
  primes := by
    intro endpointId listed device stored
    rcases refreshes.primes endpointId listed device (first.kept_devicesOn stored) with
      ⟨⟨attributes, primed⟩, cleared⟩
    exact ⟨⟨attributes, List.mem_append_right _ primed⟩, List.mem_append_right _ cleared⟩
  reaches := fun device named =>
    List.mem_append_right _ (refreshes.reaches device (first.kept _ _ _ _ named))
  spares := by
    intro endpointId device stored
    have old := consistent.existing_lt _ (consistent.present stored)
    have untouched := first.leaves other old stored
    rcases refreshes.spares endpointId device (first.kept_devicesOn stored) with ⟨unmarked, reachable⟩
    simp only [List.mem_append, not_or]
    exact ⟨⟨untouched _, unmarked⟩, untouched _, reachable⟩

end Refreshes

/-- The nodes of a reconcile pass are passed over one after the other, and each that is
available is refreshed. -/
theorem run_reconcileNodes {nodes : List NodeInfo} (derived : ∀ node ∈ nodes, node.Derived)
    (distinct : (nodes.map (·.nodeId)).Nodup) {world : PluginWorld} (consistent : world.Consistent)
    (accepts : NodeId → Accepts?) :
    ∃ after log, (forM nodes fun node => reconcileNode (accepts node.nodeId) node : Refresh Unit) world =
        .ok () after ∧ PassesOver (nodes.map (·.nodeId)) world after log ∧
      ∀ node ∈ nodes, node.available = true → Refreshes node world log := by
  induction nodes generalizing world with
  | nil => exact ⟨world, [], rfl, .refl consistent, by simp⟩
  | cons node rest ih =>
      rw [List.map_cons, List.nodup_cons] at distinct
      rcases run_reconcileNode (derived node List.mem_cons_self) consistent (accepts node.nodeId) with
        ⟨middle, firstLog, firstRan, first, firstRefreshes⟩
      rcases ih (fun other member => derived other (List.mem_cons_of_mem _ member)) distinct.2
        first.consistent with ⟨after, restLog, restRan, second, restRefreshes⟩
      refine ⟨after, firstLog ++ restLog, ?_, first.trans second, ?_⟩
      · simp only [List.forM_cons, bind, EStateM.bind, firstRan]
        exact restRan
      · intro other member available
        rcases List.mem_cons.mp member with rfl | later
        · exact (firstRefreshes available).andThen consistent first second distinct.1
        · apply (restRefreshes other later available).precededBy consistent first
          rintro same
          rw [List.mem_singleton] at same
          exact distinct.1 (same ▸ List.mem_map_of_mem later)

/-- Every device of the node that survives is on an endpoint of the model. -/
def SurvivorsListed (world : PluginWorld) (node : NodeInfo) : Prop :=
  ∀ endpointId device, device ∈ world.sync.index.devicesOn node.nodeId endpointId →
    device ∈ world.indigo.keys → endpointId ∈ node.endpoints.map (·.endpointId)

theorem mem_orphans {nodes : List NodeInfo} {index : DeviceIndex} {device : DeviceId} :
    device ∈ orphans nodes index ↔ ∃ nodeId endpointId, isLive nodes (nodeId, endpointId) = false ∧
      device ∈ index.devicesOn nodeId endpointId := by
  have listed := @DeviceIndex.mem_filter_values index (fun place => !isLive nodes place) device
  simp only [Bool.not_eq_true'] at listed
  exact listed

theorem isLive_eq_true {nodes : List NodeInfo} {node : NodeInfo} (member : node ∈ nodes)
    {endpointId : EndpointId} (listed : endpointId ∈ node.endpoints.map (·.endpointId)) :
    isLive nodes (node.nodeId, endpointId) = true := by
  rcases List.mem_map.mp listed with ⟨endpoint, stored, rfl⟩
  simp only [isLive, List.any_eq_true, Bool.and_eq_true, decide_eq_true_eq]
  exact ⟨node, member, rfl, endpoint, stored, rfl⟩

/-- With node ids that differ, only the node itself makes its endpoints live. -/
theorem isLive_eq_false {nodes : List NodeInfo} (distinct : (nodes.map (·.nodeId)).Nodup)
    {node : NodeInfo} (member : node ∈ nodes) {endpointId : EndpointId}
    (unlisted : endpointId ∉ node.endpoints.map (·.endpointId)) :
    isLive nodes (node.nodeId, endpointId) = false := by
  rw [isLive, List.any_eq_false]
  intro other otherMember live
  simp only [Bool.and_eq_true, decide_eq_true_eq, List.any_eq_true] at live
  rcases live with ⟨sameId, endpoint, stored, rfl⟩
  obtain rfl := List.inj_on_of_nodup_map distinct otherMember member sameId
  exact unlisted (List.mem_map_of_mem stored)

/-- The nodes whose own device is swept are not live. -/
theorem not_live_of_mem_orphanNodes {nodes : List NodeInfo} {index : DeviceIndex} {nodeId : NodeId}
    (member : nodeId ∈ orphanNodes nodes index) : isLive nodes (nodeId, 0) = false := by
  rcases List.mem_map.mp member with ⟨⟨⟨ownNode, endpointId⟩, typeMap⟩, listed, rfl⟩
  simp only [List.mem_filter, Bool.and_eq_true, decide_eq_true_eq, Bool.not_eq_true'] at listed
  rcases listed.2.1 with ⟨rfl, dead⟩
  exact dead

theorem run_sweepNodes (nodeIds : List NodeId) (world : PluginWorld) :
    (forM nodeIds fun nodeId => writeNodeReachable nodeId false : Refresh Unit) world =
      .ok () (world.append (nodeIds.flatMap fun nodeId => reachableLog world nodeId false)) := by
  have loop := @run_forM_append _ nodeIds (fun nodeId => writeNodeReachable nodeId false)
    (fun nodeId => reachableLog world nodeId false) world
    (fun nodeId _ prior => by simp [run_writeNodeReachable, reachableLog, effectOn]) []
  simpa using loop

section Pass

variable {nodes : List NodeInfo} {world : PluginWorld}

/-- The effects of the sweep over the devices no node has an endpoint for. -/
def sweepLog (nodes : List NodeInfo) (after : PluginWorld) : List (DeviceId × DeviceEffect) :=
  unreachableLog after (orphans nodes after.sync.index) ++
    (orphanNodes nodes after.sync.index).flatMap fun nodeId => reachableLog after nodeId false

/-- The sweep leaves the endpoints of the nodes alone. -/
theorem not_mem_sweepLog {after : PluginWorld} (consistent : after.Consistent) {node : NodeInfo}
    (member : node ∈ nodes) {endpointId : EndpointId}
    (listed : endpointId ∈ node.endpoints.map (·.endpointId)) {device : DeviceId}
    (stored : device ∈ after.sync.index.devicesOn node.nodeId endpointId) (effect : DeviceEffect) :
    (device, effect) ∉ sweepLog nodes after := by
  intro swept
  have live := isLive_eq_true member listed
  rcases List.mem_append.mp swept with marked | reached
  · rcases mem_orphans.mp (mem_unreachableLog marked) with ⟨otherNode, otherEndpoint, dead, found⟩
    obtain ⟨rfl, rfl⟩ := consistent.unique stored found
    rw [live] at dead
    cases dead
  · rcases List.mem_flatMap.mp reached with ⟨otherNode, sweptNode, written⟩
    have dead := not_live_of_mem_orphanNodes sweptNode
    obtain ⟨rfl, rfl⟩ := consistent.unique stored (reachableLog_about written)
    rw [live] at dead
    cases dead

/-- A reconcile pass goes over its nodes and then over the devices no node has. -/
theorem reconcileAll_eq {accepts : NodeId → Accepts?} {after : PluginWorld}
    (ran : (forM nodes fun node => reconcileNode (accepts node.nodeId) node : Refresh Unit)
      world.rebuild = .ok () after) :
    reconcileAll accepts nodes world = .ok () (after.append (sweepLog nodes after)) := by
  have first : (modify PluginWorld.rebuild : Refresh Unit) world = .ok () world.rebuild := rfl
  simp only [reconcileAll, bind, EStateM.bind, first, ran, get, getThe, MonadStateOf.get,
    EStateM.get, run_markAll, run_sweepNodes, PluginWorld.append_append]
  simp only [sweepLog, reachableLog, PluginWorld.append_sync, effectOn, PluginWorld.append_indigo]
  rfl

/-- A reconcile pass whose index is right to begin with does not fail, and refreshes the
nodes that are available. -/
theorem run_reconcileAll (derived : ∀ node ∈ nodes, node.Derived)
    (distinct : (nodes.map (·.nodeId)).Nodup)
    (existing : ∀ device ∈ world.indigo.keys, device < world.nextId) (accepts : NodeId → Accepts?) :
    ∃ after log, PassesOver (nodes.map (·.nodeId)) world.rebuild after log ∧
      (∀ node ∈ nodes, node.available = true → Refreshes node world.rebuild log) ∧
      ∃ final, reconcileAll accepts nodes world = .ok () final ∧
        final.effects = world.effects ++ (log ++ sweepLog nodes after) := by
  rcases run_reconcileNodes derived distinct (PluginWorld.Consistent.rebuild existing) accepts with
    ⟨after, log, ran, passes, refreshes⟩
  refine ⟨after, log, passes, refreshes, after.append (sweepLog nodes after), reconcileAll_eq ran, ?_⟩
  rw [PluginWorld.append, passes.effects, List.append_assoc]
  rfl

/-- What a reconcile pass does for a node that is available depends on one thing only:
whether the devices of it that survive are on its endpoints. -/
theorem isolates_reconcileAll_iff {node : NodeInfo} (member : node ∈ nodes)
    (derived : ∀ node ∈ nodes, node.Derived) (distinct : (nodes.map (·.nodeId)).Nodup)
    (available : node.available = true) (current : world.MissesOnlyDeletions)
    (accepts : NodeId → Accepts?) :
    Isolates (reconcileAll accepts nodes) node world ↔ SurvivorsListed world node := by
  have consistent := PluginWorld.Consistent.rebuild current.existing_lt
  rcases run_reconcileAll derived distinct current.existing_lt accepts with
    ⟨after, log, passes, refreshes, final, ran, recorded⟩
  have refreshed := refreshes node member available
  have rebuilt {nodeId : NodeId} {endpointId : EndpointId} {device : DeviceId}
      (alive : device ∈ world.indigo.keys)
      (stored : device ∈ world.sync.index.devicesOn nodeId endpointId) :
      device ∈ world.rebuild.sync.index.devicesOn nodeId endpointId := by
    rcases mem_devicesOn.mp stored with ⟨typeId, found⟩
    exact mem_devicesOn.mpr ⟨typeId, current.current _ _ _ _ alive found⟩
  constructor
  · rintro ⟨other, otherLog, otherRan, otherRecorded, survivors, _⟩ endpointId device stored alive
    obtain rfl : final = other := by
      rw [ran] at otherRan
      cases otherRan
      rfl
    have sameLog := List.append_cancel_left (recorded.symm.trans otherRecorded)
    by_contra unlisted
    have unmarked := (survivors device ⟨⟨endpointId, stored⟩, alive⟩).2.2
    have kept := passes.kept_devicesOn (rebuilt alive stored)
    have orphan : device ∈ orphans nodes after.sync.index :=
      mem_orphans.mpr ⟨node.nodeId, endpointId, isLive_eq_false distinct member unlisted, kept⟩
    apply unmarked
    rw [← sameLog]
    apply List.mem_append_right
    apply List.mem_append_left
    exact List.mem_flatMap.mpr ⟨device, orphan, mem_effectOn.mpr ⟨passes.consistent.present kept, rfl⟩⟩
  · intro listed
    have spared (endpointId : EndpointId) (device : DeviceId)
        (stored : device ∈ world.sync.index.devicesOn node.nodeId endpointId)
        (alive : device ∈ world.indigo.keys) (effect : DeviceEffect) :
        (device, effect) ∉ sweepLog nodes after :=
      not_mem_sweepLog passes.consistent member (listed endpointId device stored alive)
        (passes.kept_devicesOn (rebuilt alive stored)) effect
    refine ⟨final, _, ran, recorded, ?_, ?_, final, _, ran, recorded, fun _ _ => rfl⟩
    · rintro device ⟨⟨endpointId, stored⟩, alive⟩
      have found := rebuilt alive stored
      rcases refreshed.primes endpointId (listed endpointId device stored alive) device found with
        ⟨⟨attributes, primed⟩, cleared⟩
      refine ⟨⟨attributes, List.mem_append_left _ primed⟩, List.mem_append_left _ cleared, ?_⟩
      rw [List.mem_append, not_or]
      exact ⟨(refreshed.spares endpointId device found).1, spared endpointId device stored alive _⟩
    · intro device named alive
      have stored : device ∈ world.sync.index.devicesOn node.nodeId 0 := mem_devicesOn.mpr ⟨_, named⟩
      have found := rebuilt alive stored
      have namedNow := current.current _ _ _ _ alive named
      refine ⟨List.mem_append_left _ (refreshed.reaches device namedNow), ?_⟩
      rw [List.mem_append, not_or]
      exact ⟨(refreshed.spares 0 device found).2, spared 0 device stored alive _⟩

end Pass

/-- When a device that is gone leaves the others alone.  A node update needs every
device indexed on the endpoints of the model, and finds only those; a reconcile pass
finds the same devices and needs none. -/
theorem isolates_iff {node : NodeInfo} (derived : node.Derived) (available : node.available = true)
    {world : PluginWorld} (current : world.MissesOnlyDeletions) (accepts : NodeId → Accepts?) :
    (Isolates (onNodeAdded (accepts node.nodeId) node) node world ↔ ExactlyPresent world node) ∧
      ∀ nodes : List NodeInfo, node ∈ nodes → (∀ other ∈ nodes, other.Derived) →
        (nodes.map (·.nodeId)).Nodup →
          (Isolates (reconcileAll accepts nodes) node world ↔ SurvivorsListed world node) := by
  refine ⟨⟨exactlyPresent_of_isolates derived available current,
    isolates_of_exactlyPresent derived available current⟩, ?_⟩
  intro nodes member allDerived distinct
  exact isolates_reconcileAll_iff member allDerived distinct available current accepts

/-- An index that was right stays good enough whatever is deleted afterwards. -/
theorem missesOnlyDeletions_of_deleted {world : PluginWorld} {before : IndigoDevices}
    {remains : DeviceId → Bool} (indexed : world.sync.index = rebuildIndex before)
    (deleted : world.indigo = before.filterKeys remains)
    (existing : ∀ device ∈ before.keys, device < world.nextId) : world.MissesOnlyDeletions where
  indexed_lt := by
    intro nodeId endpointId typeId device stored
    rw [indexed] at stored
    rcases located_rebuildIndex before _ _ _ _ stored with ⟨record, there, _⟩
    exact existing device (InsertionMap.mem_keys_iff.mpr ⟨record, there⟩)
  existing_lt := by
    intro device there
    rcases InsertionMap.mem_keys_iff.mp there with ⟨record, found⟩
    rw [deleted, InsertionMap.get?_filterKeys] at found
    split at found
    · exact existing device (InsertionMap.mem_keys_iff.mpr ⟨record, found⟩)
    · cases found
  current := by
    intro nodeId endpointId typeId device there stored
    have remaining : remains device = true := by
      rcases InsertionMap.mem_keys_iff.mp there with ⟨record, found⟩
      rw [deleted, InsertionMap.get?_filterKeys] at found
      by_contra gone
      rw [if_neg gone] at found
      cases found
    rw [indexed] at stored
    rw [deleted]
    exact get?_rebuildIndex_filterKeys stored remaining

/-- A plug with two sockets. -/
def twoSockets : List (String × PyJson) :=
  [("node_id", .int 5), ("available", .bool true),
    ("attributes", .dict [("1/6/0", .bool true), ("2/6/0", .bool true)])]

/-- Its devices, one relay a socket. -/
def twoRelays : IndigoDevices :=
  .ofList [(10, ⟨"matterRelay", some 5, some 1, ∅⟩), (11, ⟨"matterRelay", some 5, some 2, ∅⟩)]

/-- The plugin with both relays indexed and only some of them left. -/
def afterDeleting (remains : DeviceId → Bool) : PluginWorld where
  indigo := twoRelays.filterKeys remains
  nextId := 20
  sync := { startedSync with index := rebuildIndex twoRelays }
  nodeTombstones := []
  retiredNodes := []
  creationSuspended := []
  selfDeletedIds := []
  effects := []

theorem afterDeleting_missesOnlyDeletions (remains : DeviceId → Bool) :
    (afterDeleting remains).MissesOnlyDeletions :=
  missesOnlyDeletions_of_deleted rfl rfl (show ∀ device ∈ twoRelays.keys, device < 20 by decide)

theorem isolates_iff_on_twoSockets :
    ∃ node, parseNode? twoSockets = some node ∧
      (Isolates (onNodeAdded (fun _ _ => true) node) node (afterDeleting (· = 10)) ↔
        ExactlyPresent (afterDeleting (· = 10)) node) ∧
      (Isolates (reconcileAll (fun _ _ _ => true) [node]) node (afterDeleting (· = 10)) ↔
        SurvivorsListed (afterDeleting (· = 10)) node) := by
  have derived := derived_of_parseNode? (show parseNode? twoSockets = some _ from rfl)
  have both := isolates_iff derived rfl (afterDeleting_missesOnlyDeletions (· = 10))
    fun _ _ _ => true
  exact ⟨_, rfl, both.1, both.2 _ List.mem_cons_self (by simpa using derived) (by simp)⟩

/-- With the device of the first socket deleted, a node update throws before it primes
the second. -/
theorem update_stops_at_deleted :
    ∃ node, parseNode? twoSockets = some node ∧
      (∃ final, onNodeAdded (fun _ _ => true) node (afterDeleting (· = 11)) = .error 10 final ∧
        ∀ attributes, (11, .primed attributes) ∉ final.effects) ∧
      Survives (afterDeleting (· = 11)) node 11 ∧
      ¬Isolates (onNodeAdded (fun _ _ => true) node) node (afterDeleting (· = 11)) := by
  refine ⟨(parseNode? twoSockets).get rfl, rfl, ?_⟩
  have thrown : ∃ final, onNodeAdded (fun _ _ => true) ((parseNode? twoSockets).get rfl)
      (afterDeleting (· = 11)) = .error 10 final ∧ final.effects = [(11, .propsReasserted)] :=
    ⟨_, rfl, rfl⟩
  rcases thrown with ⟨final, thrown, recorded⟩
  refine ⟨⟨final, thrown, ?_⟩, ⟨⟨2, by decide⟩, by decide⟩, ?_⟩
  · intro attributes primed
    rw [recorded] at primed
    cases List.mem_singleton.mp primed
  · rintro ⟨other, log, returned, _⟩
    rw [thrown] at returned
    cases returned

end IndigoMatter.Plugin
