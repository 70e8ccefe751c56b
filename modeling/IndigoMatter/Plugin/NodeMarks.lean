import IndigoMatter.Library.Transition
import IndigoMatter.Plugin.NodeReplacement

/-!
# The marks of a node over its life

Node ids are reused: a node leaves the fabric and later another is commissioned on
its id.  The events here are everything that writes or clears a mark on a node, the
deletion reports of Indigo among them, which come when they come.

A record of what the user asked for is kept beside the plugin: the nodes whose own
device the user deleted, or for which a replacement carried such a deletion over,
since they joined the fabric.
-/

namespace IndigoMatter.Plugin

open IndigoMatter.Library

/-- The plugin, the nodes on the fabric, the deletions Indigo has still to report, and
the nodes whose own device is gone at the user's wish. -/
structure NodeLifecycle where
  plugin : PluginWorld
  fabric : List NodeId
  unreported : List Deletion
  deletedByUser : List NodeId

/-- What bears on the marks of a node. -/
inductive LifecycleEvent
  | joined (nodeId : NodeId)
  | createPass (node : NodeInfo) (accepts : Accepts?)
  | commissioned (node : NodeInfo) (accepts : Accepts?)
  | nodeRemoved (nodeId : NodeId)
  | vanished (nodeId : NodeId)
  | nodeDeleted (nodeId : NodeId) (forget : Bool) (accepts : DeviceId → Bool)
  | userDeleted (device : DeviceId)
  | reported (device : DeviceId)
  | replaced (request : ReplaceRequest) (accepts : DeviceId → Bool)
      (writeError? : DeviceId → Option String)
  | indexRebuilt
  | deviceStarted (device : DeviceId)
  | tombstonesCleared

namespace NodeLifecycle

/-- The wish a deletion by the user expresses. -/
def wish (nodes : List NodeId) (record : IndigoDevice) : List NodeId :=
  match record.ownNode? with
  | some nodeId => nodeId :: nodes
  | none => nodes

/-- One event.  A node that joins starts with no wish about it; a node leaves the
fabric with a report to the plugin, or unheard. -/
def step : LabelledStep NodeLifecycle LifecycleEvent := fun state event =>
  match event with
  | .joined nodeId =>
      if nodeId ∈ state.fabric then none
      else some { state with
        fabric := nodeId :: state.fabric
        deletedByUser := state.deletedByUser.filter (· ≠ nodeId) }
  | .createPass node accepts =>
      some { state with plugin := state.plugin.createDevices accepts node }
  | .commissioned node accepts =>
      some { state with plugin := state.plugin.createFromRaw accepts node }
  | .nodeRemoved nodeId =>
      some { state with
        plugin := state.plugin.forgetNodeCapabilities nodeId
        fabric := state.fabric.filter (· ≠ nodeId) }
  | .vanished nodeId => some { state with fabric := state.fabric.filter (· ≠ nodeId) }
  | .nodeDeleted nodeId forget accepts =>
      let result := state.plugin.deleteNode accepts nodeId forget
      some { state with plugin := result.1, unreported := state.unreported ++ result.2 }
  | .userDeleted device =>
      match state.plugin.indigo.get? device with
      | none => none
      | some record =>
          some { state with
            plugin := { state.plugin with indigo := state.plugin.indigo.delete device }
            unreported := state.unreported ++ [(device, record)]
            deletedByUser := wish state.deletedByUser record }
  | .reported device =>
      match state.unreported.find? (·.1 = device) with
      | none => none
      | some deletion =>
          some { state with
            plugin := state.plugin.deviceDeleted deletion
            unreported := state.unreported.filter (·.1 ≠ device) }
  | .replaced request accepts writeError? =>
      if !(request.refusals state.plugin).isEmpty then none
      else
        let result := state.plugin.replaceNode accepts writeError? (request.plan state.plugin)
        some { state with
          plugin := result.1
          unreported := state.unreported ++ result.2.deleted
          deletedByUser :=
            if result.2.carries then request.newNode :: state.deletedByUser
            else state.deletedByUser }
  | .indexRebuilt => some { state with plugin := state.plugin.rebuild }
  | .deviceStarted device =>
      match state.plugin.indigo.get? device with
      | none => none
      | some record =>
          some { state with plugin := { state.plugin with sync := { state.plugin.sync with
            index := state.plugin.sync.index.noteDevice device record } } }
  | .tombstonesCleared => some { state with plugin := { state.plugin with nodeTombstones := [] } }

/-- No deletion of the node's own device by the user is still to be reported. -/
def NoneUnreported (state : NodeLifecycle) (nodeId : NodeId) : Prop :=
  ∀ deletion ∈ state.unreported, deletion.2.ownNode? = some nodeId →
    deletion.1 ∈ state.plugin.selfDeletedIds

instance (state : NodeLifecycle) (nodeId : NodeId) : Decidable (state.NoneUnreported nodeId) :=
  inferInstanceAs (Decidable (∀ deletion ∈ state.unreported, _))

/-- The user deletes a node's own device only while the node is on the fabric, and the
node does not leave before the deletion is reported; with a tombstone on it, it leaves
only with a report to the plugin; and a replacement deletes a new node's own device for
good only while that node is on the fabric. -/
def KeepsToTheFabric (state : NodeLifecycle) : LifecycleEvent → Prop
  | .nodeRemoved nodeId => state.NoneUnreported nodeId
  | .vanished nodeId => state.NoneUnreported nodeId ∧ nodeId ∉ state.plugin.nodeTombstones
  | .userDeleted device =>
      ∀ nodeId ∈ (state.plugin.indigo.get? device).bind (·.ownNode?), nodeId ∈ state.fabric
  | .replaced request accepts _ =>
      (∃ ref ∈ (request.plan state.plugin).extraDeletes, accepts ref.devId = true) →
        request.newNode ∈ state.fabric
  | _ => True

instance (state : NodeLifecycle) (event : LifecycleEvent) : Decidable (state.KeepsToTheFabric event) :=
  match event with
  | .nodeRemoved nodeId => inferInstanceAs (Decidable (state.NoneUnreported nodeId))
  | .vanished nodeId =>
      inferInstanceAs (Decidable (state.NoneUnreported nodeId ∧ nodeId ∉ state.plugin.nodeTombstones))
  | .userDeleted device =>
      inferInstanceAs (Decidable (∀ nodeId ∈ (state.plugin.indigo.get? device).bind (·.ownNode?),
        nodeId ∈ state.fabric))
  | .replaced request accepts _ =>
      inferInstanceAs (Decidable ((∃ ref ∈ (request.plan state.plugin).extraDeletes,
        accepts ref.devId = true) → request.newNode ∈ state.fabric))
  | .joined _ | .createPass _ _ | .commissioned _ _ | .nodeDeleted _ _ _ | .reported _ | .indexRebuilt
  | .deviceStarted _ | .tombstonesCleared => .isTrue trivial

/-! ## What holds in every state -/

/-- The index and the marks are as they should be: what is indexed and exists is in
place, the plugin's own deletions are no longer indexed, and every deletion by the user
that is not reported yet, and every tombstone, is about a node on the fabric and what
the user asked for. -/
structure MarksInOrder (state : NodeLifecycle) : Prop where
  placed : state.plugin.Placed
  indexed_lt : ∀ nodeId endpointId typeId device,
    (state.plugin.sync.index.typeMap nodeId endpointId).get? typeId = some device →
      device < state.plugin.nextId
  existing_lt : ∀ device ∈ state.plugin.indigo.keys, device < state.plugin.nextId
  root : ∀ device record, state.plugin.indigo.get? device = some record →
    record.typeId = "matterNode" → ∀ endpointId, record.endpointId = some endpointId → endpointId = 0
  gone : ∀ deletion ∈ state.unreported,
    deletion.1 ∉ state.plugin.indigo.keys ∧ deletion.1 < state.plugin.nextId
  once : (state.unreported.map Prod.fst).Nodup
  marked : ∀ device ∈ state.plugin.selfDeletedIds,
    device ∉ state.plugin.indigo.keys ∧ device < state.plugin.nextId ∧
      ∀ nodeId endpointId typeId,
        (state.plugin.sync.index.typeMap nodeId endpointId).get? typeId ≠ some device
  wished : ∀ deletion ∈ state.unreported, ∀ nodeId, deletion.2.ownNode? = some nodeId →
    deletion.1 ∉ state.plugin.selfDeletedIds →
      nodeId ∈ state.fabric ∧ nodeId ∈ state.deletedByUser
  tombstoned : ∀ nodeId ∈ state.plugin.nodeTombstones,
    nodeId ∈ state.fabric ∧ nodeId ∈ state.deletedByUser
  resumed : state.plugin.creationSuspended = []

namespace MarksInOrder

variable {state : NodeLifecycle}

theorem create {node : NodeInfo} {endpointId : EndpointId} {typeId : TypeId} {pass : PrimePass}
    (order : state.MarksInOrder) (isRoot : typeId = "matterNode" → endpointId = 0) :
    MarksInOrder { state with
      plugin := (state.plugin.create node.nodeId endpointId typeId).prime node pass } := by
  have older : ∀ device, device < state.plugin.nextId → ∀ record,
      (state.plugin.create node.nodeId endpointId typeId).indigo.get? device = some record →
        state.plugin.indigo.get? device = some record := by
    intro device old record stored
    rwa [PluginWorld.create, InsertionMap.get?_set, if_neg old.ne] at stored
  constructor
  · intro nodeId otherEndpoint otherType device record stored there
    simp only [PluginWorld.prime, PluginWorld.note, PluginWorld.get?_create] at stored there
    split at stored
    · rename_i here
      rcases here with ⟨rfl, rfl, rfl⟩
      obtain rfl := Option.some.inj stored
      simp only [PluginWorld.create, InsertionMap.get?_set, if_true, Option.some.injEq] at there
      rw [← there]
      exact ⟨rfl, rfl⟩
    · exact order.placed _ _ _ _ _ stored (older _ (order.indexed_lt _ _ _ _ stored) _ there)
  · intro nodeId otherEndpoint otherType device stored
    simp only [PluginWorld.prime, PluginWorld.note, PluginWorld.get?_create] at stored ⊢
    split at stored
    · rw [← Option.some.inj stored]
      exact Nat.lt_succ_self _
    · exact (order.indexed_lt _ _ _ _ stored).trans (Nat.lt_succ_self _)
  · intro device there
    rcases InsertionMap.mem_keys_set.mp there with rfl | earlier
    · exact Nat.lt_succ_self _
    · exact (order.existing_lt _ earlier).trans (Nat.lt_succ_self _)
  · intro device record stored own otherEndpoint named
    simp only [PluginWorld.prime, PluginWorld.note, PluginWorld.create, InsertionMap.get?_set] at stored
    split at stored
    · rw [← Option.some.inj stored] at own named
      rw [← Option.some.inj named]
      exact isRoot own
    · exact order.root device record stored own otherEndpoint named
  · intro deletion pending
    rcases order.gone deletion pending with ⟨absent, old⟩
    refine ⟨?_, old.trans (Nat.lt_succ_self _)⟩
    intro there
    rcases InsertionMap.mem_keys_set.mp there with same | earlier
    · exact old.ne same
    · exact absent earlier
  · exact order.once
  · intro device own
    rcases order.marked device own with ⟨absent, old, unindexed⟩
    refine ⟨?_, old.trans (Nat.lt_succ_self _), ?_⟩
    · intro there
      rcases InsertionMap.mem_keys_set.mp there with same | earlier
      · exact old.ne same
      · exact absent earlier
    · intro nodeId otherEndpoint otherType stored
      simp only [PluginWorld.prime, PluginWorld.note, PluginWorld.get?_create] at stored
      split at stored
      · exact old.ne (Option.some.inj stored).symm
      · exact unindexed _ _ _ stored
  · exact order.wished
  · exact order.tombstoned
  · exact order.resumed

theorem createPass (order : state.MarksInOrder) (accepts : Accepts?) (node : NodeInfo) :
    MarksInOrder { state with plugin := state.plugin.createDevices accepts node } := by
  refine PluginWorld.createDevices_induction
    (fun world => MarksInOrder { state with plugin := world }) ?_ ?_ order accepts
  · intro world holds
    constructor
    · simpa [PluginWorld.Placed] using holds.placed
    · simpa using holds.indexed_lt
    · exact holds.existing_lt
    · exact holds.root
    · exact holds.gone
    · exact holds.once
    · simpa using holds.marked
    · exact holds.wished
    · exact holds.tombstoned
    · exact holds.resumed
  · intro world endpointId typeId pass holds _ isRoot
    exact holds.create isRoot

/-- An indexed device is not marked as deleted by the plugin. -/
theorem unmarked (order : state.MarksInOrder) {nodeId : NodeId} {endpointId : EndpointId}
    {typeId : TypeId} {device : DeviceId}
    (stored : (state.plugin.sync.index.typeMap nodeId endpointId).get? typeId = some device) :
    device ∉ state.plugin.selfDeletedIds :=
  fun marked => (order.marked device marked).2.2 _ _ _ stored

/-- A node's own device that exists is indexed, if at all, as the device of its node. -/
theorem place_of_ownNode? (order : state.MarksInOrder) {nodeId otherNode : NodeId}
    {endpointId : EndpointId} {typeId : TypeId} {device : DeviceId} {record : IndigoDevice}
    (stored : (state.plugin.sync.index.typeMap nodeId endpointId).get? typeId = some device)
    (there : state.plugin.indigo.get? device = some record) (own : record.ownNode? = some otherNode) :
    otherNode = nodeId ∧ endpointId = 0 ∧ typeId = "matterNode" := by
  rcases order.placed _ _ _ _ _ stored there with ⟨place, kind⟩
  unfold IndigoDevice.ownNode? at own
  split at own
  · rename_i isNode
    unfold IndigoDevice.location? at place
    split at place
    · rename_i _ _ named at0
      obtain ⟨rfl, rfl⟩ := Prod.mk.inj (Option.some.inj place)
      refine ⟨Option.some.inj (own.symm.trans named), ?_, kind.symm.trans isNode⟩
      exact order.root device record there isNode _ at0
    · cases place
  · cases own

/-- A round of deletions in which a node's own device is only deleted where it is the
one the round marks keeps the marks in order. -/
theorem deleteDevices (order : state.MarksInOrder) {accepts : DeviceId → Bool}
    {candidates : List DeviceId} {nodeDevice : Option DeviceId}
    (unmarked : ∀ device, nodeDevice = some device → device ∉ state.plugin.selfDeletedIds)
    (owned : ∀ device ∈ candidates, ∀ record, state.plugin.indigo.get? device = some record →
      ∀ nodeId, record.ownNode? = some nodeId →
        nodeDevice = some device ∧ candidates.count device ≤ 1) :
    MarksInOrder { state with
      plugin := (state.plugin.deleteDevices accepts candidates nodeDevice).1
      unreported := state.unreported ++ (state.plugin.deleteDevices accepts candidates nodeDevice).2 } := by
  have deletes := PluginWorld.deletes_deleteDevices accepts candidates nodeDevice state.plugin
  have markedOr := @PluginWorld.marked_or_deleted accepts nodeDevice candidates state.plugin
  have keepsMark := @PluginWorld.marked_deleteDevices accepts nodeDevice candidates state.plugin
  have marksOwn : ∀ device, nodeDevice = some device → device ∈ candidates →
      candidates.count device ≤ 1 →
      device ∈ (state.plugin.deleteDevices accepts candidates nodeDevice).2.map Prod.fst →
      device ∈ (state.plugin.deleteDevices accepts candidates nodeDevice).1.selfDeletedIds := by
    rintro device rfl listed single deleted
    exact PluginWorld.marked_deleteDevices_of_deleted listed single deleted
  generalize state.plugin.deleteDevices accepts candidates nodeDevice = result at *
  rcases result with ⟨after, log⟩
  dsimp only at deletes markedOr keepsMark marksOwn ⊢
  have nextId : after.nextId = state.plugin.nextId := by rw [deletes.frame]
  have tombstones : after.nodeTombstones = state.plugin.nodeTombstones := by rw [deletes.frame]
  have suspended : after.creationSuspended = state.plugin.creationSuspended := by rw [deletes.frame]
  have existed : ∀ device ∈ log.map Prod.fst, device ∈ state.plugin.indigo.keys := by
    intro device deleted
    rcases List.mem_map.mp deleted with ⟨⟨_, record⟩, listed, rfl⟩
    exact InsertionMap.mem_keys_iff.mpr ⟨record, ((deletes.deleted _ _).mp listed).2.2⟩
  have remaining : ∀ device, device ∈ after.indigo.keys ↔
      device ∈ state.plugin.indigo.keys ∧ device ∉ log.map Prod.fst := by
    intro device
    simp only [InsertionMap.mem_keys_iff, deletes.indigo]
    split
    · rename_i deleted
      simp [deleted]
    · rename_i kept
      simp [kept]
  have original : ∀ device record, after.indigo.get? device = some record →
      state.plugin.indigo.get? device = some record := by
    intro device record stored
    rw [deletes.indigo] at stored
    split at stored
    · cases stored
    · exact stored
  constructor
  · intro nodeId endpointId typeId device record stored there
    exact order.placed _ _ _ _ _ ((deletes.indexed _ _ _ _).mp stored).1 (original _ _ there)
  · intro nodeId endpointId typeId device stored
    exact nextId ▸ order.indexed_lt _ _ _ _ ((deletes.indexed _ _ _ _).mp stored).1
  · intro device there
    exact nextId ▸ order.existing_lt _ ((remaining device).mp there).1
  · intro device record stored
    exact order.root device record (original _ _ stored)
  · intro deletion pending
    simp only [nextId, remaining, not_and, not_not]
    rcases List.mem_append.mp pending with earlier | new
    · rcases order.gone deletion earlier with ⟨absent, old⟩
      exact ⟨fun there => absurd there absent, old⟩
    · have deleted : deletion.1 ∈ log.map Prod.fst := List.mem_map_of_mem new
      exact ⟨fun _ => deleted, order.existing_lt _ (existed _ deleted)⟩
  · rw [List.map_append, List.nodup_append]
    refine ⟨order.once, deletes.once, ?_⟩
    rintro device pending _ deleted rfl
    rcases List.mem_map.mp pending with ⟨deletion, listed, rfl⟩
    exact (order.gone deletion listed).1 (existed _ deleted)
  · intro device own
    simp only [nextId, remaining, not_and, not_not]
    rcases markedOr own with earlier | deleted
    · rcases order.marked device earlier with ⟨absent, old, unindexed⟩
      refine ⟨fun there => absurd there absent, old, fun _ _ _ stored => ?_⟩
      exact unindexed _ _ _ ((deletes.indexed _ _ _ _).mp stored).1
    · refine ⟨fun _ => deleted, order.existing_lt _ (existed _ deleted), fun _ _ _ stored => ?_⟩
      exact ((deletes.indexed _ _ _ _).mp stored).2 deleted
  · intro deletion pending nodeId own untouched
    rcases List.mem_append.mp pending with earlier | new
    · apply order.wished deletion earlier nodeId own
      intro marked
      apply untouched
      exact keepsMark (fun same => unmarked _ same marked) marked
    · exfalso
      rcases (deletes.deleted deletion.1 deletion.2).mp new with ⟨listed, _, there⟩
      rcases owned _ listed _ there nodeId own with ⟨named, single⟩
      exact untouched (marksOwn _ named listed single (List.mem_map_of_mem new))
  · rw [tombstones]
    exact order.tombstoned
  · rw [suspended]
    exact order.resumed

theorem nodeDeleted (order : state.MarksInOrder) (nodeId : NodeId) (forget : Bool)
    (accepts : DeviceId → Bool) :
    MarksInOrder { state with
      plugin := (state.plugin.deleteNode accepts nodeId forget).1
      unreported := state.unreported ++ (state.plugin.deleteNode accepts nodeId forget).2 } := by
  have deleted := @deleteDevices state order accepts (state.plugin.nodeCandidates nodeId)
    ((state.plugin.sync.index.typeMap nodeId 0).get? "matterNode")
    (fun device stored => order.unmarked stored)
    (by
      intro device listed record there otherNode own
      rcases PluginWorld.mem_nodeCandidates.mp listed with ⟨endpointId, typeId, stored⟩
      rcases order.place_of_ownNode? stored there own with ⟨_, rfl, rfl⟩
      refine ⟨stored, ?_⟩
      have elsewhere : device ∉ state.plugin.endpointCandidates nodeId := by
        intro other
        rcases PluginWorld.mem_endpointCandidates.mp other with ⟨otherEndpoint, otherType, apart, otherStored⟩
        rcases order.place_of_ownNode? otherStored there own with ⟨_, rfl, rfl⟩
        exact apart ⟨rfl, rfl⟩
      rw [PluginWorld.nodeCandidates, List.count_append, List.count_eq_zero.mpr elsewhere, stored]
      simp)
  unfold PluginWorld.deleteNode
  cases forget with
  | false => exact deleted
  | true =>
      exact ⟨deleted.placed, deleted.indexed_lt, deleted.existing_lt, deleted.root, deleted.gone,
        deleted.once, deleted.marked, deleted.wished, deleted.tombstoned, deleted.resumed⟩

/-- What only the fabric and the marks of one node tell. -/
theorem leaves (order : state.MarksInOrder) {nodeId : NodeId}
    (reported : state.NoneUnreported nodeId) {plugin : PluginWorld}
    (sameIndex : plugin.sync.index = state.plugin.sync.index)
    (sameIndigo : plugin.indigo = state.plugin.indigo)
    (sameNextId : plugin.nextId = state.plugin.nextId)
    (sameMarked : plugin.selfDeletedIds = state.plugin.selfDeletedIds)
    (sameSuspended : plugin.creationSuspended = state.plugin.creationSuspended)
    (cleared : ∀ other ∈ plugin.nodeTombstones, other ≠ nodeId ∧ other ∈ state.plugin.nodeTombstones) :
    MarksInOrder { state with plugin, fabric := state.fabric.filter (· ≠ nodeId) } := by
  constructor
  · rw [PluginWorld.Placed, sameIndex, sameIndigo]
    exact order.placed
  · rw [sameIndex, sameNextId]
    exact order.indexed_lt
  · rw [sameIndigo, sameNextId]
    exact order.existing_lt
  · rw [sameIndigo]
    exact order.root
  · rw [sameIndigo, sameNextId]
    exact order.gone
  · exact order.once
  · rw [sameMarked, sameIndigo, sameNextId, sameIndex]
    exact order.marked
  · intro deletion pending otherNode own untouched
    rw [sameMarked] at untouched
    rcases order.wished deletion pending otherNode own untouched with ⟨onFabric, wished⟩
    refine ⟨List.mem_filter.mpr ⟨onFabric, ?_⟩, wished⟩
    rw [decide_eq_true_eq]
    rintro rfl
    exact untouched (reported deletion pending own)
  · intro otherNode tombstone
    rcases cleared otherNode tombstone with ⟨other, earlier⟩
    rcases order.tombstoned otherNode earlier with ⟨onFabric, wished⟩
    exact ⟨List.mem_filter.mpr ⟨onFabric, by simpa using other⟩, wished⟩
  · rw [sameSuspended]
    exact order.resumed

theorem joined (order : state.MarksInOrder) {nodeId : NodeId} (new : nodeId ∉ state.fabric) :
    MarksInOrder { state with
      fabric := nodeId :: state.fabric
      deletedByUser := state.deletedByUser.filter (· ≠ nodeId) } := by
  have kept : ∀ other, other ∈ state.fabric ∧ other ∈ state.deletedByUser →
      other ∈ nodeId :: state.fabric ∧ other ∈ state.deletedByUser.filter (· ≠ nodeId) := by
    rintro other ⟨onFabric, wished⟩
    refine ⟨List.mem_cons_of_mem _ onFabric, List.mem_filter.mpr ⟨wished, ?_⟩⟩
    rw [decide_eq_true_eq]
    rintro rfl
    exact new onFabric
  exact ⟨order.placed, order.indexed_lt, order.existing_lt, order.root, order.gone, order.once,
    order.marked, fun deletion pending other own untouched =>
      kept other (order.wished deletion pending other own untouched),
    fun other tombstone => kept other (order.tombstoned other tombstone), order.resumed⟩

theorem userDeleted (order : state.MarksInOrder) {device : DeviceId} {record : IndigoDevice}
    (there : state.plugin.indigo.get? device = some record)
    (onFabric : ∀ nodeId, record.ownNode? = some nodeId → nodeId ∈ state.fabric) :
    MarksInOrder { state with
      plugin := { state.plugin with indigo := state.plugin.indigo.delete device }
      unreported := state.unreported ++ [(device, record)]
      deletedByUser := wish state.deletedByUser record } := by
  have present : device ∈ state.plugin.indigo.keys := InsertionMap.mem_keys_iff.mpr ⟨record, there⟩
  have original : ∀ other otherRecord,
      (state.plugin.indigo.delete device).get? other = some otherRecord →
        state.plugin.indigo.get? other = some otherRecord := by
    intro other otherRecord stored
    rw [InsertionMap.get?_delete] at stored
    split at stored
    · cases stored
    · exact stored
  have kept : ∀ nodeId ∈ state.deletedByUser, nodeId ∈ wish state.deletedByUser record := by
    intro nodeId wished
    unfold wish
    split
    · exact List.mem_cons_of_mem _ wished
    · exact wished
  constructor
  · intro nodeId endpointId typeId other otherRecord stored found
    exact order.placed _ _ _ _ _ stored (original _ _ found)
  · exact order.indexed_lt
  · intro other found
    exact order.existing_lt other (InsertionMap.mem_keys_delete.mp found).2
  · intro other otherRecord found
    exact order.root other otherRecord (original _ _ found)
  · intro deletion pending
    rcases List.mem_append.mp pending with earlier | new
    · rcases order.gone deletion earlier with ⟨absent, old⟩
      exact ⟨fun found => absent (InsertionMap.mem_keys_delete.mp found).2, old⟩
    · obtain rfl := List.mem_singleton.mp new
      exact ⟨fun found => (InsertionMap.mem_keys_delete.mp found).1 rfl, order.existing_lt _ present⟩
  · rw [List.map_append, List.nodup_append]
    refine ⟨order.once, List.nodup_singleton _, ?_⟩
    rintro other pending _ same rfl
    rcases List.mem_map.mp pending with ⟨deletion, listed, rfl⟩
    have own := List.mem_singleton.mp same
    exact (order.gone deletion listed).1 (own ▸ present)
  · intro other own
    rcases order.marked other own with ⟨absent, old, unindexed⟩
    exact ⟨fun found => absent (InsertionMap.mem_keys_delete.mp found).2, old, unindexed⟩
  · intro deletion pending nodeId own untouched
    rcases List.mem_append.mp pending with earlier | new
    · rcases order.wished deletion earlier nodeId own untouched with ⟨joined, wished⟩
      exact ⟨joined, kept nodeId wished⟩
    · obtain rfl := List.mem_singleton.mp new
      refine ⟨onFabric nodeId own, ?_⟩
      unfold wish
      simp only [own]
      exact List.mem_cons_self
  · intro nodeId tombstone
    rcases order.tombstoned nodeId tombstone with ⟨joined, wished⟩
    exact ⟨joined, kept nodeId wished⟩
  · exact order.resumed

/-- A report of a deletion is the plugin's own, or leaves a tombstone the user asked
for. -/
theorem reported (order : state.MarksInOrder) {deletion : Deletion}
    (pending : deletion ∈ state.unreported) :
    MarksInOrder { state with
      plugin := state.plugin.deviceDeleted deletion
      unreported := state.unreported.filter (·.1 ≠ deletion.1) } := by
  have later : ∀ other ∈ state.unreported.filter (·.1 ≠ deletion.1),
      other ∈ state.unreported ∧ other.1 ≠ deletion.1 := by
    intro other member
    rcases List.mem_filter.mp member with ⟨listed, apart⟩
    exact ⟨listed, by simpa using apart⟩
  have once : ((state.unreported.filter (·.1 ≠ deletion.1)).map Prod.fst).Nodup :=
    order.once.sublist (List.filter_sublist.map Prod.fst)
  have unnoted : MarksInOrder { state with unreported := state.unreported.filter (·.1 ≠ deletion.1) } :=
    ⟨order.placed, order.indexed_lt, order.existing_lt, order.root,
      fun other member => order.gone other (later other member).1, once, order.marked,
      fun other member => order.wished other (later other member).1, order.tombstoned, order.resumed⟩
  unfold PluginWorld.deviceDeleted
  split
  · rename_i nodeId named
    split
    · rename_i isNode
      have own : deletion.2.ownNode? = some nodeId := by
        rw [IndigoDevice.ownNode?, if_pos isNode, named]
      unfold PluginWorld.noteNodeDeviceDeleted
      split
      · constructor
        · exact order.placed
        · exact order.indexed_lt
        · exact order.existing_lt
        · exact order.root
        · exact unnoted.gone
        · exact once
        · intro device marked
          exact order.marked device (List.mem_filter.mp marked).1
        · intro other member otherNode otherOwn untouched
          rcases later other member with ⟨listed, apart⟩
          apply order.wished other listed otherNode otherOwn
          intro marked
          exact untouched (List.mem_filter.mpr ⟨marked, by simpa using apart⟩)
        · exact order.tombstoned
        · exact order.resumed
      · rename_i untouched
        have indexed : ∀ otherNode endpointId typeId device,
            ((state.plugin.sync.index.dropNodeDevice nodeId).typeMap otherNode endpointId).get? typeId =
                some device →
              (state.plugin.sync.index.typeMap otherNode endpointId).get? typeId = some device := by
          intro otherNode endpointId typeId device stored
          rw [DeviceIndex.get?_dropNodeDevice] at stored
          split at stored
          · cases stored
          · exact stored
        constructor
        · intro otherNode endpointId typeId device record stored
          exact order.placed _ _ _ _ _ (indexed _ _ _ _ stored)
        · intro otherNode endpointId typeId device stored
          exact order.indexed_lt _ _ _ _ (indexed _ _ _ _ stored)
        · exact order.existing_lt
        · exact order.root
        · exact unnoted.gone
        · exact once
        · intro device marked
          rcases order.marked device marked with ⟨absent, old, unindexed⟩
          exact ⟨absent, old, fun _ _ _ stored => unindexed _ _ _ (indexed _ _ _ _ stored)⟩
        · exact unnoted.wished
        · intro otherNode tombstone
          rcases PluginWorld.mem_addMark.mp tombstone with rfl | earlier
          · exact order.wished deletion pending otherNode own untouched
          · exact order.tombstoned otherNode earlier
        · exact order.resumed
    · exact unnoted
  · exact unnoted

/-- An index that holds what Indigo has in place keeps the marks in order. -/
theorem indexed (order : state.MarksInOrder) {index : DeviceIndex}
    (located : ∀ nodeId endpointId typeId device,
      (index.typeMap nodeId endpointId).get? typeId = some device →
        (state.plugin.sync.index.typeMap nodeId endpointId).get? typeId = some device ∨
          ∃ record, state.plugin.indigo.get? device = some record ∧
            record.location? = some (nodeId, endpointId) ∧ record.typeId = typeId) :
    MarksInOrder { state with
      plugin := { state.plugin with sync := { state.plugin.sync with index } } } := by
  constructor
  · intro nodeId endpointId typeId device record stored there
    rcases located _ _ _ _ stored with earlier | ⟨same, found, place⟩
    · exact order.placed _ _ _ _ _ earlier there
    · obtain rfl := Option.some.inj (found.symm.trans there)
      exact place
  · intro nodeId endpointId typeId device stored
    rcases located _ _ _ _ stored with earlier | ⟨record, found, _⟩
    · exact order.indexed_lt _ _ _ _ earlier
    · exact order.existing_lt _ (InsertionMap.mem_keys_iff.mpr ⟨record, found⟩)
  · exact order.existing_lt
  · exact order.root
  · exact order.gone
  · exact order.once
  · intro device marked
    rcases order.marked device marked with ⟨absent, old, unindexed⟩
    refine ⟨absent, old, fun nodeId endpointId typeId stored => ?_⟩
    rcases located _ _ _ _ stored with earlier | ⟨record, found, _⟩
    · exact unindexed _ _ _ earlier
    · exact absent (InsertionMap.mem_keys_iff.mpr ⟨record, found⟩)
  · exact order.wished
  · exact order.tombstoned
  · exact order.resumed

theorem indexRebuilt (order : state.MarksInOrder) :
    MarksInOrder { state with plugin := state.plugin.rebuild } :=
  order.indexed fun _ _ _ _ stored => .inr (located_rebuildIndex state.plugin.indigo _ _ _ _ stored)

theorem deviceStarted (order : state.MarksInOrder) {device : DeviceId} {record : IndigoDevice}
    (there : state.plugin.indigo.get? device = some record) :
    MarksInOrder { state with plugin := { state.plugin with sync := { state.plugin.sync with
      index := state.plugin.sync.index.noteDevice device record } } } := by
  apply order.indexed
  intro nodeId endpointId typeId other stored
  cases place : record.location? with
  | none =>
      rw [DeviceIndex.noteDevice, place] at stored
      exact .inl stored
  | some key =>
      rcases key with ⟨ownNode, ownEndpoint⟩
      rw [DeviceIndex.typeMap_noteDevice place] at stored
      split at stored
      · rename_i here
        rcases here with ⟨rfl, rfl⟩
        rw [InsertionMap.get?_set] at stored
        split at stored
        · rename_i own
          obtain rfl := Option.some.inj stored
          exact .inr ⟨record, there, place, own.symm⟩
        · exact .inl stored
      · exact .inl stored

/-- A replacement deletes the new node's own device as the plugin's own deletion. -/
theorem replaced (order : state.MarksInOrder) (request : ReplaceRequest)
    (accepts : DeviceId → Bool) (writeError? : DeviceId → Option String)
    (onFabric : (∃ ref ∈ (request.plan state.plugin).extraDeletes, accepts ref.devId = true) →
      request.newNode ∈ state.fabric) :
    MarksInOrder { state with
      plugin := (state.plugin.replaceNode accepts writeError? (request.plan state.plugin)).1
      unreported := state.unreported ++
        (state.plugin.replaceNode accepts writeError? (request.plan state.plugin)).2.deleted
      deletedByUser :=
        if (state.plugin.replaceNode accepts writeError? (request.plan state.plugin)).2.carries then
          request.newNode :: state.deletedByUser
        else state.deletedByUser } := by
  have replaces := replaces_replaceNode accepts writeError? (request.plan state.plugin) state.plugin
  generalize state.plugin.replaceNode accepts writeError? (request.plan state.plugin) = result at *
  rcases replaces.deletions with ⟨deleted, deletions, rebinds, sameMarked⟩
  rcases newDevices_planOnly order.placed request.names request.oldNode request.newNode with
    ⟨refs, distinct⟩
  have after := @deleteDevices state order accepts (request.plan state.plugin).duplicates
    ((state.plugin.sync.index.typeMap request.newNode 0).get? "matterNode")
    (fun device stored => order.unmarked stored)
    (by
      intro device listed record there otherNode own
      rcases mem_duplicates.mp listed with ⟨ref, member, rfl⟩
      have stored := (mem_nodeDeviceRefs.mp (refs ref member)).1
      rcases order.place_of_ownNode? stored there own with ⟨_, atRoot, isNode⟩
      rw [atRoot, isNode] at stored
      exact ⟨stored, List.nodup_iff_count_le_one.mp (duplicates_nodup distinct) _⟩)
  have deletionsHere : state.plugin.deleteDevices accepts (request.plan state.plugin).duplicates
      ((state.plugin.sync.index.typeMap request.newNode 0).get? "matterNode") =
        (deleted, result.2.deleted) := deletions
  rw [deletionsHere] at after
  have sameKeys : ∀ device, device ∈ result.1.indigo.keys ↔ device ∈ deleted.indigo.keys :=
    fun device => rebinds.mem_keys
  have sameNextId : result.1.nextId = deleted.nextId := by
    have frame := (PluginWorld.deletes_deleteDevices accepts (request.plan state.plugin).duplicates
      ((state.plugin.sync.index.typeMap request.newNode 0).get? "matterNode") state.plugin).frame
    rw [deletionsHere] at frame
    rw [replaces.nextId]
    exact (congrArg PluginWorld.nextId frame).symm
  have located : ∀ nodeId endpointId typeId device,
      (result.1.sync.index.typeMap nodeId endpointId).get? typeId = some device →
        ∃ record, result.1.indigo.get? device = some record ∧
          record.location? = some (nodeId, endpointId) ∧ record.typeId = typeId := by
    rw [replaces.index]
    exact located_rebuildIndex result.1.indigo
  have present : ∀ nodeId endpointId typeId device,
      (result.1.sync.index.typeMap nodeId endpointId).get? typeId = some device →
        device ∈ deleted.indigo.keys := by
    intro nodeId endpointId typeId device stored
    rcases located _ _ _ _ stored with ⟨record, found, _⟩
    exact (sameKeys device).mp (InsertionMap.mem_keys_iff.mpr ⟨record, found⟩)
  have kept : ∀ nodeId ∈ state.deletedByUser, nodeId ∈
      if result.2.carries then request.newNode :: state.deletedByUser else state.deletedByUser := by
    intro nodeId wished
    split
    · exact List.mem_cons_of_mem _ wished
    · exact wished
  constructor
  · intro nodeId endpointId typeId device record stored there
    rcases located _ _ _ _ stored with ⟨same, found, place⟩
    obtain rfl := Option.some.inj (found.symm.trans there)
    exact place
  · intro nodeId endpointId typeId device stored
    exact sameNextId ▸ after.existing_lt _ (present _ _ _ _ stored)
  · intro device there
    exact sameNextId ▸ after.existing_lt _ ((sameKeys device).mp there)
  · intro device record there isNode endpointId named
    have kinds := rebinds.kinds device
    rw [there] at kinds
    rcases Option.map_eq_some_iff.mp kinds.symm with ⟨original, found, same⟩
    obtain ⟨sameType, sameEndpoint⟩ := Prod.mk.inj same
    exact after.root device original found (sameType.trans isNode) endpointId (sameEndpoint.trans named)
  · intro deletion pending
    rcases after.gone deletion pending with ⟨absent, old⟩
    exact ⟨fun there => absent ((sameKeys _).mp there), sameNextId ▸ old⟩
  · exact after.once
  · intro device marked
    rw [sameMarked] at marked
    rcases after.marked device marked with ⟨absent, old, _⟩
    exact ⟨fun there => absent ((sameKeys _).mp there), sameNextId ▸ old,
      fun _ _ _ stored => absent (present _ _ _ _ stored)⟩
  · intro deletion pending nodeId own untouched
    rw [sameMarked] at untouched
    rcases after.wished deletion pending nodeId own untouched with ⟨joined, wished⟩
    exact ⟨joined, kept nodeId wished⟩
  · intro nodeId tombstone
    rcases (replaces.tombstones nodeId).mp tombstone with earlier | ⟨carried, rfl⟩
    · rcases order.tombstoned nodeId earlier with ⟨joined, wished⟩
      exact ⟨joined, kept nodeId wished⟩
    · refine ⟨onFabric (replaces.carries carried), ?_⟩
      simp only [carried, if_true]
      exact List.mem_cons_self
  · rw [replaces.resumed]
    exact order.resumed

end MarksInOrder

/-- A step that keeps to the fabric keeps the marks in order. -/
theorem marksInOrder_step {state next : NodeLifecycle} {event : LifecycleEvent}
    (order : state.MarksInOrder) (keeps : state.KeepsToTheFabric event)
    (taken : step state event = some next) : next.MarksInOrder := by
  cases event with
  | joined nodeId =>
      simp only [step, Option.ite_none_left_eq_some, Option.some.injEq] at taken
      rcases taken with ⟨new, rfl⟩
      exact order.joined new
  | createPass node accepts =>
      obtain rfl := Option.some.inj taken
      exact order.createPass accepts node
  | commissioned node accepts =>
      obtain rfl := Option.some.inj taken
      have unretired : MarksInOrder { state with plugin := state.plugin.unretire node.nodeId } :=
        ⟨order.placed, order.indexed_lt, order.existing_lt, order.root, order.gone, order.once,
          order.marked, order.wished, order.tombstoned, order.resumed⟩
      exact unretired.createPass accepts node
  | nodeRemoved nodeId =>
      obtain rfl := Option.some.inj taken
      refine @MarksInOrder.leaves state order nodeId keeps
        (state.plugin.forgetNodeCapabilities nodeId) rfl rfl rfl rfl rfl ?_
      intro other tombstone
      rcases List.mem_filter.mp tombstone with ⟨earlier, apart⟩
      exact ⟨by simpa using apart, earlier⟩
  | vanished nodeId =>
      obtain rfl := Option.some.inj taken
      apply order.leaves keeps.1 rfl rfl rfl rfl rfl
      intro other tombstone
      refine ⟨?_, tombstone⟩
      rintro rfl
      exact keeps.2 tombstone
  | nodeDeleted nodeId forget accepts =>
      obtain rfl := Option.some.inj taken
      exact order.nodeDeleted nodeId forget accepts
  | userDeleted device =>
      simp only [step] at taken
      cases there : state.plugin.indigo.get? device with
      | none =>
          rw [there] at taken
          cases taken
      | some record =>
          rw [there] at taken
          obtain rfl := Option.some.inj taken
          simp only [KeepsToTheFabric, there, Option.bind_some] at keeps
          exact order.userDeleted there keeps
  | reported device =>
      simp only [step] at taken
      cases found : state.unreported.find? (·.1 = device) with
      | none =>
          rw [found] at taken
          cases taken
      | some deletion =>
          rw [found] at taken
          obtain rfl := Option.some.inj taken
          have named : deletion.1 = device := by simpa using List.find?_some found
          rw [← named]
          exact order.reported (List.mem_of_find?_eq_some found)
  | replaced request accepts writeError? =>
      simp only [step, Option.ite_none_left_eq_some, Option.some.injEq] at taken
      rcases taken with ⟨_, rfl⟩
      exact order.replaced request accepts writeError? keeps
  | indexRebuilt =>
      obtain rfl := Option.some.inj taken
      exact order.indexRebuilt
  | deviceStarted device =>
      simp only [step] at taken
      cases there : state.plugin.indigo.get? device with
      | none =>
          rw [there] at taken
          cases taken
      | some record =>
          rw [there] at taken
          obtain rfl := Option.some.inj taken
          exact order.deviceStarted there
  | tombstonesCleared =>
      obtain rfl := Option.some.inj taken
      exact ⟨order.placed, order.indexed_lt, order.existing_lt, order.root, order.gone, order.once,
        order.marked, order.wished, by rintro _ ⟨⟩, order.resumed⟩

/-- The plugin has just indexed its devices: nothing is under way, and its tombstones are
of nodes on the fabric and what the user asked for. -/
structure Started (state : NodeLifecycle) : Prop where
  index : state.plugin.sync.index = rebuildIndex state.plugin.indigo
  existing_lt : ∀ device ∈ state.plugin.indigo.keys, device < state.plugin.nextId
  root : ∀ device record, state.plugin.indigo.get? device = some record →
    record.typeId = "matterNode" → ∀ endpointId, record.endpointId = some endpointId → endpointId = 0
  unreported : state.unreported = []
  unmarked : state.plugin.selfDeletedIds = []
  resumed : state.plugin.creationSuspended = []
  tombstoned : ∀ nodeId ∈ state.plugin.nodeTombstones,
    nodeId ∈ state.fabric ∧ nodeId ∈ state.deletedByUser

theorem Started.marksInOrder {state : NodeLifecycle} (started : state.Started) :
    state.MarksInOrder := by
  have located := located_rebuildIndex state.plugin.indigo
  rw [← started.index] at located
  constructor
  · intro nodeId endpointId typeId device record stored there
    rcases located _ _ _ _ stored with ⟨same, found, place⟩
    obtain rfl := Option.some.inj (found.symm.trans there)
    exact place
  · intro nodeId endpointId typeId device stored
    rcases located _ _ _ _ stored with ⟨record, found, _⟩
    exact started.existing_lt _ (InsertionMap.mem_keys_iff.mpr ⟨record, found⟩)
  · exact started.existing_lt
  · exact started.root
  · simp [started.unreported]
  · simp [started.unreported]
  · simp [started.unmarked]
  · simp [started.unreported]
  · exact started.tombstoned
  · exact started.resumed

/-! ## A reused id -/

/-- After a node is commissioned the device of a slot is indexed and exists.  Only where the
index still named a device that Indigo no longer has is none built, until the index is
rebuilt. -/
def Fills (plugin : PluginWorld) (accepts : Accepts?) (node : NodeInfo) (endpointId : EndpointId)
    (typeId : TypeId) : Prop :=
  let after := plugin.createFromRaw accepts node
  ∃ device, (after.sync.index.typeMap node.nodeId endpointId).get? typeId = some device ∧
    (device ∈ after.indigo.keys ∨
      (plugin.sync.index.typeMap node.nodeId endpointId).get? typeId = some device ∧
        device ∉ plugin.indigo.keys)

/-- Commissioning a node builds its full set of devices: every device of its plan that
Indigo accepts, and its own. -/
def BuildsFullSet (plugin : PluginWorld) (accepts : Accepts?) (node : NodeInfo) : Prop :=
  let plan := (plugin.sync.recordNode node).plan node
  (∀ entry ∈ plan, accepts entry.1 entry.2 = true → Fills plugin accepts node entry.1 entry.2) ∧
    (plan ≠ [] → node.isConformant = true → accepts 0 "matterNode" = true →
      Fills plugin accepts node 0 "matterNode")

/-- A tombstone on a node of the fabric is there because the user deleted the node's own
device since the node joined.  A node to be commissioned, or one that joined and whose
device the user left alone, has no tombstone, is not retired once commissioned, and
gets its full set of devices. -/
def InheritsNothing (state : NodeLifecycle) : Prop :=
  (∀ nodeId ∈ state.fabric, nodeId ∈ state.plugin.nodeTombstones → nodeId ∈ state.deletedByUser) ∧
    ∀ (node : NodeInfo) (accepts : Accepts?), node.Derived →
      (node.nodeId ∈ state.fabric → node.nodeId ∉ state.deletedByUser) →
        node.nodeId ∉ state.plugin.nodeTombstones ∧
          node.nodeId ∉ (state.plugin.createFromRaw accepts node).retiredNodes ∧
            BuildsFullSet state.plugin accepts node

theorem retiredNodes_createDevices (world : PluginWorld) (accepts : Accepts?) (node : NodeInfo) :
    (world.createDevices accepts node).retiredNodes = world.retiredNodes :=
  PluginWorld.createDevices_induction (fun other => other.retiredNodes = world.retiredNodes)
    (fun _ same => same) (fun _ _ _ _ same _ _ => same) rfl accepts

/-- A slot that is indexed once its node is commissioned is filled. -/
theorem MarksInOrder.fills {state : NodeLifecycle} (order : state.MarksInOrder)
    {accepts : Accepts?} {node : NodeInfo} (derived : node.Derived) {endpointId : EndpointId}
    {typeId : TypeId} (indexed : (((state.plugin.createFromRaw accepts node).sync.index.typeMap
      node.nodeId endpointId).get? typeId).isSome = true) :
    Fills state.plugin accepts node endpointId typeId := by
  have grows := @PluginWorld.grows_createDevices accepts node derived
    (state.plugin.unretire node.nodeId)
  rcases Option.isSome_iff_exists.mp indexed with ⟨device, stored⟩
  refine ⟨device, stored, ?_⟩
  rcases grows.added _ _ _ _ stored with earlier | ⟨_, _, there, _⟩
  · rw [PluginWorld.recorded_index] at earlier
    by_cases there : device ∈ state.plugin.indigo.keys
    · left
      have old : device < ((state.plugin.unretire node.nodeId).recorded node).nextId := by
        rw [PluginWorld.recorded_nextId]
        exact order.indexed_lt _ _ _ _ earlier
      have same := grows.older device old
      rw [PluginWorld.recorded_indigo] at same
      rcases InsertionMap.mem_keys_iff.mp there with ⟨record, found⟩
      exact InsertionMap.mem_keys_iff.mpr ⟨record, same.trans found⟩
    · exact .inr ⟨earlier, there⟩
  · exact .inl there

theorem MarksInOrder.buildsFullSet {state : NodeLifecycle} (order : state.MarksInOrder)
    (accepts : Accepts?) {node : NodeInfo} (derived : node.Derived)
    (untombstoned : node.nodeId ∉ state.plugin.nodeTombstones) :
    BuildsFullSet state.plugin accepts node := by
  have unretired : node.nodeId ∉ (state.plugin.unretire node.nodeId).retiredNodes := by
    simp [PluginWorld.unretire]
  have unsuspended : node.nodeId ∉ (state.plugin.unretire node.nodeId).creationSuspended := by
    simp [PluginWorld.unretire, order.resumed]
  have carried := @PluginWorld.isSome_carryOut accepts node
    ((state.plugin.sync.recordNode node).plan node)
    { state.plugin.unretire node.nodeId with sync := state.plugin.sync.recordNode node }
    fun entry planned => PluginWorld.mem_plan planned
  have created : state.plugin.createFromRaw accepts node =
      PluginWorld.carryOut accepts node ((state.plugin.sync.recordNode node).plan node)
        { state.plugin.unretire node.nodeId with sync := state.plugin.sync.recordNode node } := by
    rw [PluginWorld.createFromRaw, PluginWorld.createDevices, if_neg unretired, if_neg unsuspended]
    rfl
  rw [← created] at carried
  constructor
  · intro entry planned accepted
    exact order.fills derived (carried.1 entry planned accepted)
  · intro wanted conformant accepted
    exact order.fills derived (carried.2 untombstoned wanted conformant accepted)

/-- In every run whose steps keep to the fabric, a reused node id inherits nothing from
the node that had it before. -/
theorem inheritsNothing {start final : NodeLifecycle} {events : List LifecycleEvent}
    (started : start.Started) (run : RunWhere step KeepsToTheFabric start events final) :
    final.InheritsNothing := by
  have order : final.MarksInOrder := by
    apply run.invariant started.marksInOrder
    intro state event next holds keeps taken
    exact marksInOrder_step holds keeps taken
  constructor
  · intro nodeId _ tombstone
    exact (order.tombstoned nodeId tombstone).2
  · intro node accepts derived unwished
    have untombstoned : node.nodeId ∉ final.plugin.nodeTombstones := by
      intro tombstone
      rcases order.tombstoned _ tombstone with ⟨joined, wished⟩
      exact unwished joined wished
    refine ⟨untombstoned, ?_, order.buildsFullSet accepts derived untombstoned⟩
    rw [PluginWorld.createFromRaw, retiredNodes_createDevices]
    simp [PluginWorld.unretire]

/-- A lamp that reports a node label. -/
def lamp : List (String × PyJson) :=
  [("node_id", .int 5), ("available", .bool true),
    ("attributes", .dict [("0/40/65531", .list [.int 5, .int 10]), ("1/6/0", .bool true)])]

/-- Its devices: its own and its relay. -/
def lampDevices : IndigoDevices :=
  .ofList [(10, ⟨"matterNode", some 5, some 0, ∅⟩), (11, ⟨"matterRelay", some 5, some 1, ∅⟩)]

/-- The lamp on the fabric. -/
def lampOnFabric : NodeLifecycle where
  plugin :=
    { indigo := lampDevices
      nextId := 20
      sync := { startedSync with index := rebuildIndex lampDevices }
      nodeTombstones := []
      retiredNodes := []
      creationSuspended := []
      selfDeletedIds := []
      effects := [] }
  fabric := [5]
  unreported := []
  deletedByUser := []

theorem lampOnFabric_started : lampOnFabric.Started where
  index := rfl
  existing_lt := show ∀ device ∈ lampDevices.keys, device < 20 by decide
  root := by
    intro device record stored
    have listed := InsertionMap.mem_entries_iff.mpr stored
    have all : ∀ entry ∈ lampDevices.entries, entry.2.typeId = "matterNode" →
        ∀ endpointId ∈ entry.2.endpointId, endpointId = 0 := by decide
    exact all _ listed
  unreported := rfl
  unmarked := rfl
  resumed := rfl
  tombstoned := nofun

/-- The user deletes the lamp's own device, and the lamp is removed and paired again. -/
theorem inheritsNothing_after_deletion :
    ∃ final, follow step KeepsToTheFabric lampOnFabric
      [.userDeleted 10, .reported 10, .nodeRemoved 5, .joined 5] = some final ∧
        final.InheritsNothing := by
  have followed : ∃ final, follow step KeepsToTheFabric lampOnFabric
      [.userDeleted 10, .reported 10, .nodeRemoved 5, .joined 5] = some final := ⟨_, rfl⟩
  rcases followed with ⟨final, followed⟩
  exact ⟨final, followed, inheritsNothing lampOnFabric_started (runWhere_of_follow followed)⟩

/-- The lamp is removed from the fabric, the user deletes its device, left over, and the
next lamp on its id gets none of its own. -/
theorem leftover_deletion_tombstones_reused_id :
    ∃ node final, parseNode? lamp = some node ∧
      Run step lampOnFabric [.nodeRemoved 5, .userDeleted 10, .reported 10, .joined 5] final ∧
      5 ∈ final.fabric ∧ 5 ∉ final.deletedByUser ∧ 5 ∈ final.plugin.nodeTombstones ∧
      ((final.plugin.createFromRaw (fun _ _ => true) node).sync.index.typeMap 5 0).get? "matterNode" =
        none ∧
      ¬final.InheritsNothing := by
  have followed : ∃ final, follow step (fun _ _ => True) lampOnFabric
      [.nodeRemoved 5, .userDeleted 10, .reported 10, .joined 5] = some final ∧
        5 ∈ final.fabric ∧ 5 ∉ final.deletedByUser ∧ 5 ∈ final.plugin.nodeTombstones ∧
        ((final.plugin.createFromRaw (fun _ _ => true) ((parseNode? lamp).get rfl)).sync.index.typeMap
          5 0).get? "matterNode" = none :=
    ⟨_, rfl, by decide, by decide, by decide, by decide⟩
  rcases followed with ⟨final, followed, joined, unwished, tombstone, uncreated⟩
  refine ⟨(parseNode? lamp).get rfl, final, rfl, runWhere_of_follow followed, joined, unwished,
    tombstone, uncreated, ?_⟩
  intro inherits
  exact unwished (inherits.1 5 joined tombstone)

end NodeLifecycle

end IndigoMatter.Plugin
