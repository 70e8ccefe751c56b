import IndigoMatter.Plugin.LiveRefresh

/-!
# Deleted devices and the rest of their node

A refresh consults the index only on the endpoints of the node model, so two
indexes that agree there lead to the same refresh.  This turns the comparison with
a plugin that never indexed the missing devices into one question: whether the
endpoints of the model have any.
-/

namespace IndigoMatter.Plugin

open IndigoMatter.Library

/-! ## Indexes that agree on a node model -/

/-- The same plugin under another index. -/
def PluginWorld.withIndex (world : PluginWorld) (index : DeviceIndex) : PluginWorld :=
  { world with sync := { world.sync with index } }

/-- Two indexes hold the same devices on the endpoints of a node. -/
def SameOn (node : NodeInfo) (first second : DeviceIndex) : Prop :=
  ∀ endpointId ∈ node.endpoints.map (·.endpointId),
    first.typeMap node.nodeId endpointId = second.typeMap node.nodeId endpointId

namespace SameOn

variable {node : NodeInfo} {world : PluginWorld} {index : DeviceIndex}

/-- The same device noted in both keeps them alike. -/
theorem noteDevice {first second : DeviceIndex} (same : SameOn node first second)
    {device : DeviceId} {record : IndigoDevice} {endpointId : EndpointId}
    (place : record.location? = some (node.nodeId, endpointId)) :
    SameOn node (first.noteDevice device record) (second.noteDevice device record) := by
  intro otherEndpoint listed
  rw [DeviceIndex.typeMap_noteDevice place, DeviceIndex.typeMap_noteDevice place]
  split
  · rename_i here
    rw [same endpointId (here.2 ▸ listed)]
  · exact same otherEndpoint listed

theorem ensureDevice (same : SameOn node world.sync.index index) {accepts : Accepts?}
    {siblings : List TypeId} {endpointId : EndpointId} {typeId : TypeId}
    (listed : endpointId ∈ node.endpoints.map (·.endpointId)) :
    ∃ index', SameOn node (world.ensureDevice accepts node siblings endpointId typeId).sync.index index' ∧
      (world.withIndex index).ensureDevice accepts node siblings endpointId typeId =
        (world.ensureDevice accepts node siblings endpointId typeId).withIndex index' := by
  unfold PluginWorld.ensureDevice
  simp only [PluginWorld.withIndex, ← same endpointId listed]
  split
  · exact ⟨index, same, rfl⟩
  · split
    · exact ⟨index, same, rfl⟩
    · exact ⟨_, same.noteDevice rfl, rfl⟩

theorem ensureNodeDevice (derived : node.Derived) (same : SameOn node world.sync.index index)
    {accepts : Accepts?} {plan : List (EndpointId × TypeId)} :
    ∃ index', SameOn node (world.ensureNodeDevice accepts node plan).sync.index index' ∧
      (world.withIndex index).ensureNodeDevice accepts node plan =
        (world.ensureNodeDevice accepts node plan).withIndex index' := by
  unfold PluginWorld.ensureNodeDevice
  by_cases skipped : (node.nodeId ∈ world.nodeTombstones || plan.isEmpty || !node.isConformant)
  · rw [if_pos skipped, if_pos (by exact skipped)]
    exact ⟨index, same, rfl⟩
  · rw [if_neg skipped, if_neg (by exact skipped)]
    simp only [Bool.or_eq_true, not_or, Bool.not_eq_true', Bool.not_eq_false] at skipped
    exact same.ensureDevice (PluginWorld.root_of_isConformant derived skipped.2)

theorem carryOut (derived : node.Derived) (same : SameOn node world.sync.index index)
    {accepts : Accepts?} {plan : List (EndpointId × TypeId)}
    (planned : ∀ entry ∈ plan, entry.1 ∈ node.endpoints.map (·.endpointId)) :
    ∃ index', SameOn node (world.carryOut accepts node plan).sync.index index' ∧
      (world.withIndex index).carryOut accepts node plan =
        (world.carryOut accepts node plan).withIndex index' := by
  have fold (entries : List (EndpointId × TypeId)) (start : PluginWorld) (startIndex : DeviceIndex)
      (same : SameOn node start.sync.index startIndex)
      (listed : ∀ entry ∈ entries, entry.1 ∈ node.endpoints.map (·.endpointId)) :
      ∃ index', SameOn node (entries.foldl (fun world entry => world.ensureDevice accepts node
            (PluginWorld.plannedOn plan entry.1) entry.1 entry.2) start).sync.index index' ∧
        entries.foldl (fun world entry => world.ensureDevice accepts node
            (PluginWorld.plannedOn plan entry.1) entry.1 entry.2) (start.withIndex startIndex) =
          (entries.foldl (fun world entry => world.ensureDevice accepts node
            (PluginWorld.plannedOn plan entry.1) entry.1 entry.2) start).withIndex index' := by
    induction entries generalizing start startIndex with
    | nil => exact ⟨startIndex, same, rfl⟩
    | cons entry rest ih =>
        rcases @SameOn.ensureDevice node start startIndex same accepts
          (PluginWorld.plannedOn plan entry.1) entry.1 entry.2 (listed entry List.mem_cons_self)
          with ⟨nextIndex, nextSame, next⟩
        simp only [List.foldl_cons, next]
        exact ih _ nextIndex nextSame fun other member => listed other (List.mem_cons_of_mem _ member)
  rcases @SameOn.ensureNodeDevice node world index derived same accepts plan
    with ⟨nextIndex, nextSame, next⟩
  simp only [PluginWorld.carryOut, next]
  exact fold plan _ nextIndex nextSame planned

/-- A create pass reads the index only on the node model. -/
theorem createDevices (derived : node.Derived) (same : SameOn node world.sync.index index)
    (accepts : Accepts?) :
    ∃ index', SameOn node (world.createDevices accepts node).sync.index index' ∧
      (world.withIndex index).createDevices accepts node =
        (world.createDevices accepts node).withIndex index' := by
  unfold PluginWorld.createDevices
  by_cases retired : node.nodeId ∈ world.retiredNodes
  · rw [if_pos retired, if_pos (by exact retired)]
    exact ⟨index, same, rfl⟩
  by_cases suspended : node.nodeId ∈ world.creationSuspended
  · rw [if_neg retired, if_pos suspended, if_neg (by exact retired), if_pos (by exact suspended)]
    exact ⟨index, same, rfl⟩
  · rw [if_neg retired, if_neg suspended, if_neg (by exact retired), if_neg (by exact suspended)]
    have sameRecord : (world.withIndex index).sync.recordNode node =
        { world.sync.recordNode node with index } := by
      simp only [PluginWorld.withIndex, DeviceSync.recordNode]
      split <;> rfl
    have recordedSame : SameOn node (world.sync.recordNode node).index index := by
      simpa using same
    simp only [sameRecord]
    exact @SameOn.carryOut node { world with sync := world.sync.recordNode node } index derived
      recordedSame accepts _ fun entry planned => PluginWorld.mem_plan planned

theorem refreshPasses (same : SameOn node world.sync.index index) :
    (world.withIndex index).sync.refreshPasses node = world.sync.refreshPasses node := by
  have each : ∀ endpoint ∈ node.endpoints,
      endpointPasses endpoint.endpointId (index.typeMap node.nodeId endpoint.endpointId) =
        endpointPasses endpoint.endpointId
          (world.sync.index.typeMap node.nodeId endpoint.endpointId) := by
    intro endpoint listed
    rw [same endpoint.endpointId (List.mem_map_of_mem listed)]
  exact List.flatMap_congr each

/-- So does a refresh. -/
theorem refreshLog (same : SameOn node world.sync.index index) :
    refreshLog (world.withIndex index) node = refreshLog world node := by
  simp only [Plugin.refreshLog, reassertLog, same.refreshPasses]
  rfl

end SameOn

/-! ## What a refresh is about -/

theorem stored_of_mem_refreshPasses {sync : DeviceSync} {node : NodeInfo} {pass : PrimePass}
    (member : pass ∈ sync.refreshPasses node) :
    ∃ endpointId ∈ node.endpoints.map (·.endpointId),
      pass.device ∈ sync.index.devicesOn node.nodeId endpointId := by
  simp only [DeviceSync.refreshPasses, endpointPasses, List.mem_flatMap, List.mem_map] at member
  rcases member with ⟨endpoint, listed, device, stored, rfl⟩
  exact ⟨endpoint.endpointId, List.mem_map_of_mem listed, stored⟩

theorem exists_refreshPass {sync : DeviceSync} {node : NodeInfo} {endpointId : EndpointId}
    {device : DeviceId} (listed : endpointId ∈ node.endpoints.map (·.endpointId))
    (stored : device ∈ sync.index.devicesOn node.nodeId endpointId) :
    ∃ pass ∈ sync.refreshPasses node, pass.device = device := by
  rcases List.mem_map.mp listed with ⟨endpoint, member, rfl⟩
  refine ⟨_, List.mem_flatMap.mpr ⟨endpoint, member, List.mem_map_of_mem stored⟩, rfl⟩

/-- A refresh touches only the devices of its passes, and marks none unreachable. -/
theorem mem_refreshLog {world : PluginWorld} {node : NodeInfo} {device : DeviceId}
    {effect : DeviceEffect} (member : (device, effect) ∈ refreshLog world node) :
    (∃ pass ∈ world.sync.refreshPasses node, pass.device = device) ∧
      effect ≠ .markedUnreachable ∧ ∀ value, effect ≠ .reachable value := by
  rcases List.mem_append.mp member with reasserted | primed
  · rcases List.mem_flatMap.mp reasserted with ⟨pass, listed, recorded⟩
    simp only [effectOn] at recorded
    split at recorded
    · obtain ⟨rfl, rfl⟩ := Prod.mk.inj (List.mem_singleton.mp recorded)
      exact ⟨⟨pass, listed, rfl⟩, by rintro ⟨⟩, by rintro _ ⟨⟩⟩
    · cases recorded
  · rcases List.mem_flatMap.mp primed with ⟨pass, listed, recorded⟩
    simp only [primeLog, List.mem_cons, Prod.mk.injEq, List.not_mem_nil, or_false] at recorded
    rcases recorded with ⟨rfl, rfl⟩ | ⟨rfl, rfl⟩
    · exact ⟨⟨pass, listed, rfl⟩, by rintro ⟨⟩, by rintro _ ⟨⟩⟩
    · exact ⟨⟨pass, listed, rfl⟩, by rintro ⟨⟩, by rintro _ ⟨⟩⟩

/-- A refresh primes the device of each of its passes and clears its error. -/
theorem primed_of_mem_refreshPasses {world : PluginWorld} {node : NodeInfo} {pass : PrimePass}
    (listed : pass ∈ world.sync.refreshPasses node) :
    (∃ attributes, (pass.device, .primed attributes) ∈ refreshLog world node) ∧
      (pass.device, .errorCleared) ∈ refreshLog world node := by
  have recorded : ∀ entry ∈ primeLog world node pass, entry ∈ refreshLog world node :=
    fun entry member => List.mem_append_right _ (List.mem_flatMap.mpr ⟨pass, listed, member⟩)
  exact ⟨⟨_, recorded _ List.mem_cons_self⟩, recorded _ (by simp [primeLog])⟩

theorem mem_reachableLog {world : PluginWorld} {nodeId : NodeId} {value : Bool}
    {entry : DeviceId × DeviceEffect} :
    entry ∈ reachableLog world nodeId value ↔
      (world.sync.index.typeMap nodeId 0).get? "matterNode" = some entry.1 ∧
        entry.1 ∈ world.indigo.keys ∧ entry.2 = .reachable value := by
  unfold reachableLog
  cases stored : (world.sync.index.typeMap nodeId 0).get? "matterNode" with
  | none => simp
  | some device =>
      rcases entry with ⟨other, effect⟩
      simp only [effectOn, InsertionMap.has_iff, Option.some.injEq]
      split
      · rename_i there
        simp only [List.mem_singleton, Prod.mk.injEq]
        constructor
        · rintro ⟨rfl, rfl⟩
          exact ⟨rfl, there, rfl⟩
        · rintro ⟨rfl, _, rfl⟩
          exact ⟨rfl, rfl⟩
      · rename_i gone
        simp only [List.not_mem_nil, false_iff, not_and]
        rintro rfl there
        exact absurd there gone

/-! ## One node -/

section Node

variable {accepts : Accepts?} {node : NodeInfo} {world : PluginWorld}

/-- What a pass indexes on an endpoint was indexed there, or is new and exists. -/
theorem mem_devicesOn_createDevices (derived : node.Derived) {nodeId : NodeId}
    {endpointId : EndpointId} {device : DeviceId}
    (stored : device ∈ (world.createDevices accepts node).sync.index.devicesOn nodeId endpointId) :
    device ∈ world.sync.index.devicesOn nodeId endpointId ∨
      (world.nextId ≤ device ∧ device ∈ (world.createDevices accepts node).indigo.keys ∧
        nodeId = node.nodeId ∧ endpointId ∈ node.endpoints.map (·.endpointId)) := by
  rcases mem_devicesOn.mp stored with ⟨typeId, found⟩
  have grows := @PluginWorld.grows_createDevices accepts node derived world
  rcases grows.added _ _ _ _ found with earlier | ⟨fresh, _, present, place⟩
  · left
    rw [PluginWorld.recorded_index] at earlier
    exact mem_devicesOn.mpr ⟨typeId, earlier⟩
  · right
    rw [PluginWorld.recorded_nextId] at fresh
    exact ⟨fresh, present, place⟩

theorem mem_devicesOn_createDevices_of_mem (derived : node.Derived) {nodeId : NodeId}
    {endpointId : EndpointId} {device : DeviceId}
    (stored : device ∈ world.sync.index.devicesOn nodeId endpointId) :
    device ∈ (world.createDevices accepts node).sync.index.devicesOn nodeId endpointId := by
  rcases mem_devicesOn.mp stored with ⟨typeId, found⟩
  apply mem_devicesOn.mpr
  refine ⟨typeId, (PluginWorld.grows_createDevices derived world).kept _ _ _ _ ?_⟩
  rw [PluginWorld.recorded_index]
  exact found

/-- A pass neither makes nor removes a device of an id handed out before. -/
theorem mem_keys_createDevices (derived : node.Derived) {device : DeviceId}
    (old : device < world.nextId) :
    device ∈ (world.createDevices accepts node).indigo.keys ↔ device ∈ world.indigo.keys := by
  have grows := @PluginWorld.grows_createDevices accepts node derived world
  have same := grows.older device (by rwa [PluginWorld.recorded_nextId])
  rw [PluginWorld.recorded_indigo] at same
  simp only [InsertionMap.mem_keys_iff, same]

namespace PluginWorld.MissesOnlyDeletions

/-- An indexed device has an id handed out before. -/
theorem old (current : world.MissesOnlyDeletions) {nodeId : NodeId} {endpointId : EndpointId}
    {device : DeviceId} (stored : device ∈ world.sync.index.devicesOn nodeId endpointId) :
    device < world.nextId := by
  rcases mem_devicesOn.mp stored with ⟨typeId, found⟩
  exact current.indexed_lt _ _ _ _ found

/-- A device that exists is indexed at one place. -/
theorem unique (current : world.MissesOnlyDeletions) {nodeId otherNode : NodeId}
    {endpointId otherEndpoint : EndpointId} {device : DeviceId} (present : device ∈ world.indigo.keys)
    (first : device ∈ world.sync.index.devicesOn nodeId endpointId)
    (second : device ∈ world.sync.index.devicesOn otherNode otherEndpoint) :
    nodeId = otherNode ∧ endpointId = otherEndpoint := by
  rcases mem_devicesOn.mp first with ⟨typeId, found⟩
  rcases mem_devicesOn.mp second with ⟨otherType, otherFound⟩
  have same := (located_rebuildIndex world.indigo).unique
    (current.current _ _ _ _ present found) (current.current _ _ _ _ present otherFound)
  exact ⟨same.1, same.2.1⟩

end PluginWorld.MissesOnlyDeletions

/-- The devices of the model are all there after a pass if they were before. -/
theorem present_of_present (derived : node.Derived) (current : world.MissesOnlyDeletions)
    (present : ∀ endpointId ∈ node.endpoints.map (·.endpointId),
      ∀ device ∈ world.sync.index.devicesOn node.nodeId endpointId, device ∈ world.indigo.keys) :
    ∀ pass ∈ (world.createDevices accepts node).sync.refreshPasses node,
      (world.createDevices accepts node).indigo.has pass.device = true := by
  intro pass member
  rcases stored_of_mem_refreshPasses member with ⟨endpointId, listed, stored⟩
  rw [InsertionMap.has_iff]
  rcases mem_devicesOn_createDevices derived stored with earlier | ⟨_, there, _⟩
  · exact (mem_keys_createDevices derived (current.old earlier)).mpr (present _ listed _ earlier)
  · exact there

/-- A missing device on an endpoint of the model ends the handling of its node. -/
theorem throws_of_missing (derived : node.Derived) (available : node.available = true)
    (current : world.MissesOnlyDeletions) {endpointId : EndpointId}
    (listed : endpointId ∈ node.endpoints.map (·.endpointId)) {device : DeviceId}
    (stored : device ∈ world.sync.index.devicesOn node.nodeId endpointId)
    (missing : device ∉ world.indigo.keys) :
    ∃ error final, onNodeAdded accepts node world = .error error final := by
  have kept := @mem_devicesOn_createDevices_of_mem accepts node world derived _ _ _ stored
  rcases exists_refreshPass listed kept with ⟨pass, member, rfl⟩
  apply throws_onNodeAdded available member
  have gone := mt (@mem_keys_createDevices accepts node world derived _ (current.old stored)).mp missing
  rwa [← InsertionMap.has_iff, Bool.not_eq_true] at gone

/-- What handling a node records, when it meets every device it is about. -/
theorem run_of_present (derived : node.Derived) (available : node.available = true)
    (there : ∀ pass ∈ (world.createDevices accepts node).sync.refreshPasses node,
      (world.createDevices accepts node).indigo.has pass.device = true) :
    ∃ createLog, (∀ entry ∈ createLog, world.nextId ≤ entry.1) ∧
      (world.createDevices accepts node).effects = world.effects ++ createLog ∧
      ∃ final, onNodeAdded accepts node world = .ok () final ∧
        final.effects = world.effects ++ (createLog ++
          (refreshLog (world.createDevices accepts node) node ++
            reachableLog (world.createDevices accepts node) node.nodeId true)) := by
  rcases (@PluginWorld.grows_createDevices accepts node derived world).effects with
    ⟨createLog, created, fresh⟩
  rw [PluginWorld.recorded_effects] at created
  rw [PluginWorld.recorded_nextId] at fresh
  refine ⟨createLog, fresh, created, _, run_onNodeAdded available there, ?_⟩
  simp [PluginWorld.append, created]

end Node

/-! ## The index without the missing devices -/

theorem DeviceIndex.typeMap_forgetMissing (index : DeviceIndex) (devices : IndigoDevices)
    (nodeId : NodeId) (endpointId : EndpointId) :
    (index.forgetMissing devices).typeMap nodeId endpointId =
      (index.typeMap nodeId endpointId).filterKeys fun typeId =>
        ((index.typeMap nodeId endpointId).get? typeId).any devices.has := by
  simp only [DeviceIndex.forgetMissing, DeviceIndex.typeMap, InsertionMap.get?_mapValues]
  cases index.get? (nodeId, endpointId) with
  | none => rfl
  | some typeMap => rfl

theorem DeviceIndex.mem_devicesOn_forgetMissing {index : DeviceIndex} {devices : IndigoDevices}
    {nodeId : NodeId} {endpointId : EndpointId} {device : DeviceId} :
    device ∈ (index.forgetMissing devices).devicesOn nodeId endpointId ↔
      device ∈ index.devicesOn nodeId endpointId ∧ device ∈ devices.keys := by
  simp only [mem_devicesOn, typeMap_forgetMissing, InsertionMap.get?_filterKeys]
  constructor
  · rintro ⟨typeId, found⟩
    split at found
    · rename_i there
      rw [found, Option.any_some, InsertionMap.has_iff] at there
      exact ⟨⟨typeId, found⟩, there⟩
    · cases found
  · rintro ⟨⟨typeId, found⟩, there⟩
    refine ⟨typeId, ?_⟩
    rw [found, Option.any_some, if_pos (InsertionMap.has_iff.mpr there)]

section Missing

variable {accepts : Accepts?} {node : NodeInfo} {world : PluginWorld}

/-- Where every device of the model exists, forgetting the missing ones changes
nothing on it. -/
theorem sameOn_forgetMissing
    (present : ∀ endpointId ∈ node.endpoints.map (·.endpointId),
      ∀ device ∈ world.sync.index.devicesOn node.nodeId endpointId, device ∈ world.indigo.keys) :
    SameOn node world.sync.index (world.sync.index.forgetMissing world.indigo) := by
  intro endpointId listed
  rw [DeviceIndex.typeMap_forgetMissing, InsertionMap.filterKeys_eq_self]
  intro typeId device stored
  rw [stored, Option.any_some, InsertionMap.has_iff]
  exact present endpointId listed device (mem_devicesOn.mpr ⟨typeId, stored⟩)

theorem PluginWorld.MissesOnlyDeletions.forgetMissing (current : world.MissesOnlyDeletions) :
    ∀ nodeId endpointId device, device ∈ world.forgetMissing.sync.index.devicesOn nodeId endpointId →
      device < world.nextId ∧ device ∈ world.indigo.keys := by
  intro nodeId endpointId device stored
  rcases DeviceIndex.mem_devicesOn_forgetMissing.mp stored with ⟨indexed, there⟩
  exact ⟨current.old indexed, there⟩

/-- A node model without a root endpoint leaves the reachable state alone, when no
device of the node's root endpoint is there. -/
theorem reachableLog_eq_nil (derived : node.Derived)
    (rootless : 0 ∉ node.endpoints.map (·.endpointId))
    (gone : ∀ device ∈ world.sync.index.devicesOn node.nodeId 0,
      device < world.nextId ∧ device ∉ world.indigo.keys) :
    reachableLog (world.createDevices accepts node) node.nodeId true = [] := by
  apply List.eq_nil_iff_forall_not_mem.mpr
  intro entry member
  rcases mem_reachableLog.mp member with ⟨stored, there, _⟩
  rcases mem_devicesOn_createDevices derived (mem_devicesOn.mpr ⟨_, stored⟩) with
    earlier | ⟨_, _, _, listed⟩
  · rcases gone _ earlier with ⟨old, missing⟩
    exact missing ((mem_keys_createDevices derived old).mp there)
  · exact rootless listed

/-- Handling a node records the same with and without the devices that are gone, when
none of them is on an endpoint of the model and no other is off it. -/
theorem reachableLog_withIndex (derived : node.Derived) (current : world.MissesOnlyDeletions)
    (exact : ExactlyPresent world node) {index : DeviceIndex}
    (same : SameOn node (world.createDevices accepts node).sync.index index)
    (next : world.forgetMissing.createDevices accepts node =
      (world.createDevices accepts node).withIndex index) :
    reachableLog ((world.createDevices accepts node).withIndex index) node.nodeId true =
      reachableLog (world.createDevices accepts node) node.nodeId true := by
  by_cases rooted : 0 ∈ node.endpoints.map (·.endpointId)
  · simp only [reachableLog, PluginWorld.withIndex, ← same 0 rooted]
    rfl
  · have here : reachableLog (world.createDevices accepts node) node.nodeId true = [] := by
      apply reachableLog_eq_nil derived rooted
      intro device stored
      exact ⟨current.old stored, fun there => rooted ((exact 0 device stored).mp there)⟩
    have pruned : reachableLog (world.forgetMissing.createDevices accepts node) node.nodeId true = [] := by
      apply reachableLog_eq_nil derived rooted
      intro device stored
      rcases DeviceIndex.mem_devicesOn_forgetMissing.mp stored with ⟨indexed, there⟩
      exact absurd ((exact 0 device indexed).mp there) rooted
    rw [here, ← next, pruned]

end Missing

/-! ## Isolation -/

section Isolation

variable {accepts : Accepts?} {node : NodeInfo} {world : PluginWorld}

theorem isolates_of_exactlyPresent (derived : node.Derived) (available : node.available = true)
    (current : world.MissesOnlyDeletions) (exact : ExactlyPresent world node) :
    Isolates (onNodeAdded accepts node) node world := by
  have present : ∀ endpointId ∈ node.endpoints.map (·.endpointId),
      ∀ device ∈ world.sync.index.devicesOn node.nodeId endpointId, device ∈ world.indigo.keys :=
    fun endpointId listed device stored => (exact endpointId device stored).mpr listed
  have there := @present_of_present accepts node world derived current present
  rcases run_of_present derived available there with ⟨createLog, fresh, created, final, ran, recorded⟩
  rcases (sameOn_forgetMissing present).createDevices derived accepts with ⟨index, same, next⟩
  have older : ∀ device, Survives world node device → ∀ effect, (device, effect) ∉ createLog := by
    rintro device ⟨⟨endpointId, stored⟩, _⟩ effect member
    exact absurd (current.old stored) (not_lt.mpr (fresh _ member))
  refine ⟨final, _, ran, recorded, ?_, ?_, ?_⟩
  · rintro device survives
    rcases survives with ⟨⟨endpointId, stored⟩, alive⟩
    have kept := @mem_devicesOn_createDevices_of_mem accepts node world derived _ _ _ stored
    rcases exists_refreshPass ((exact endpointId device stored).mp alive) kept with ⟨pass, listed, rfl⟩
    rcases primed_of_mem_refreshPasses listed with ⟨⟨attributes, primed⟩, cleared⟩
    refine ⟨⟨attributes, ?_⟩, ?_, ?_⟩
    · exact List.mem_append_right _ (List.mem_append_left _ primed)
    · exact List.mem_append_right _ (List.mem_append_left _ cleared)
    · intro marked
      rcases List.mem_append.mp marked with early | late
      · exact older _ ⟨⟨endpointId, stored⟩, alive⟩ _ early
      rcases List.mem_append.mp late with refreshed | reached
      · exact (mem_refreshLog refreshed).2.1 rfl
      · exact absurd (mem_reachableLog.mp reached).2.2 nofun
  · intro device named alive
    have stored : device ∈ world.sync.index.devicesOn node.nodeId 0 := mem_devicesOn.mpr ⟨_, named⟩
    have grows := @PluginWorld.grows_createDevices accepts node derived world
    have kept := grows.kept node.nodeId 0 "matterNode" device
      (by rw [PluginWorld.recorded_index]; exact named)
    have alive' := (@mem_keys_createDevices accepts node world derived _ (current.old stored)).mpr alive
    constructor
    · exact List.mem_append_right _ (List.mem_append_right _ (mem_reachableLog.mpr ⟨kept, alive', rfl⟩))
    · intro marked
      rcases List.mem_append.mp marked with early | late
      · exact older _ ⟨⟨0, stored⟩, alive⟩ _ early
      rcases List.mem_append.mp late with refreshed | reached
      · exact (mem_refreshLog refreshed).2.2 false rfl
      · exact absurd (mem_reachableLog.mp reached).2.2 nofun
  · have pruned : world.forgetMissing.createDevices accepts node =
        (world.createDevices accepts node).withIndex index := next
    have there' : ∀ pass ∈ (world.forgetMissing.createDevices accepts node).sync.refreshPasses node,
        (world.forgetMissing.createDevices accepts node).indigo.has pass.device = true := by
      rw [pruned, same.refreshPasses]
      exact there
    refine ⟨_, _, run_onNodeAdded available there', ?_, fun device _ => rfl⟩
    rw [pruned]
    simp only [PluginWorld.append, same.refreshLog,
      reachableLog_withIndex derived current exact same pruned]
    simp [PluginWorld.withIndex, created]

theorem exactlyPresent_of_isolates (derived : node.Derived) (available : node.available = true)
    (current : world.MissesOnlyDeletions) (isolates : Isolates (onNodeAdded accepts node) node world) :
    ExactlyPresent world node := by
  rcases isolates with ⟨final, log, ran, recorded, survivors, _⟩
  have present : ∀ endpointId ∈ node.endpoints.map (·.endpointId),
      ∀ device ∈ world.sync.index.devicesOn node.nodeId endpointId, device ∈ world.indigo.keys := by
    intro endpointId listed device stored
    by_contra missing
    rcases @throws_of_missing accepts node world derived available current endpointId listed device
      stored missing with ⟨error, other, thrown⟩
    rw [ran] at thrown
    cases thrown
  have there := @present_of_present accepts node world derived current present
  rcases run_of_present derived available there with
    ⟨createLog, fresh, _, other, otherRan, otherRecorded⟩
  obtain rfl : final = other := by
    rw [ran] at otherRan
    cases otherRan
    rfl
  have sameLog := List.append_cancel_left (recorded.symm.trans otherRecorded)
  intro endpointId device stored
  constructor
  · intro alive
    have cleared := (survivors device ⟨⟨endpointId, stored⟩, alive⟩).2.1
    rw [sameLog] at cleared
    rcases List.mem_append.mp cleared with early | late
    · exact absurd (current.old stored) (not_lt.mpr (fresh _ early))
    rcases List.mem_append.mp late with refreshed | reached
    · rcases (mem_refreshLog refreshed).1 with ⟨pass, member, rfl⟩
      rcases stored_of_mem_refreshPasses member with ⟨modelEndpoint, listed, found⟩
      rcases mem_devicesOn_createDevices derived found with earlier | ⟨new, _⟩
      · rwa [(current.unique alive stored earlier).2]
      · exact absurd (current.old stored) (not_lt.mpr new)
    · exact absurd (mem_reachableLog.mp reached).2.2 nofun
  · intro listed
    exact present endpointId listed device stored

end Isolation

end IndigoMatter.Plugin
