import IndigoMatter.Library.Transition
import IndigoMatter.Plugin.ReplacementSlots

/-!
# A replacement among other passes

The steps of a replacement run on the menu's thread.  Between them the thread of the
controller's messages creates devices, rebuilds the index and writes device properties
it read earlier, devices restart, and Indigo reports the deletions.

A create pass looks at the retirements before it takes the lock it creates under, and a
pass that writes properties reads them first; each is two events.
-/

namespace IndigoMatter.Plugin

open IndigoMatter.Library

/-- How far `replace_node` has come. -/
inductive ReplaceStage
  | planned
  | begun
  | moving
  | marked
  | finished
deriving DecidableEq

namespace ReplaceStage

/-- The duplicates have been deleted. -/
def pastDeletions : ReplaceStage → Bool
  | .planned | .begun => false
  | .moving | .marked | .finished => true

/-- The marks have been left. -/
def pastMarks : ReplaceStage → Bool
  | .planned | .begun | .moving => false
  | .marked | .finished => true

end ReplaceStage

/-- The plugin with a replacement planned or under way: the deletions Indigo has still to
report, the nodes whose create pass is past its look at the retirements, and the device
properties some pass has read to write them back.  The devices as they were when the
plan was made are kept beside it, with what passes have since written to those not
moved. -/
structure ReplaceRun where
  plugin : PluginWorld
  stage : ReplaceStage
  replacement : Replacement
  unreported : List Deletion
  pastCheck : List NodeId
  copies : List (DeviceId × IndigoDevice)
  original : IndigoDevices

/-- The steps of a replacement and of what runs beside it. -/
inductive ReplaceEvent
  | passStarts (nodeId : NodeId)
  | passCreates (node : NodeInfo) (accepts : Accepts?)
  | propsRead (device : DeviceId)
  | propsWritten (device : DeviceId) (copy : IndigoDevice) (additions : List (String × String))
  | indexRebuilt
  | deviceStarted (device : DeviceId)
  | reported (device : DeviceId)
  | begin
  | deleteDuplicates
  | rebindNext
  | leaveMarks
  | finish

/-- Properties as read, with the additions of a pass. -/
def IndigoDevice.withProps (copy : IndigoDevice) (additions : List (String × String)) : IndigoDevice :=
  { copy with
    otherProps := additions.foldl (fun props entry => props.set entry.1 entry.2) copy.otherProps }

namespace ReplaceRun

/-- A replacement as planned, with passes already under way. -/
def ofPlan (request : ReplaceRequest) (before : PluginWorld) (pastCheck : List NodeId)
    (copies : List (DeviceId × IndigoDevice)) : ReplaceRun where
  plugin := before
  stage := .planned
  replacement :=
    { plan := request.plan before
      nodeDevice := none
      softwareVersion := none
      deleted := []
      remaining := []
      rebound := []
      skipped := [] }
  unreported := []
  pastCheck
  copies
  original := before.indigo

section Step

variable (accepts : DeviceId → Bool) (writeError? : DeviceId → Option String)

/-- One event, for a pattern of deletions and of writes that Indigo refuses. -/
def step : LabelledStep ReplaceRun ReplaceEvent := fun state event =>
  match event with
  | .passStarts nodeId =>
      if nodeId ∈ state.plugin.retiredNodes then none
      else some { state with pastCheck := nodeId :: state.pastCheck }
  | .passCreates node creates =>
      if node.nodeId ∈ state.pastCheck then
        some { state with
          plugin := state.plugin.createUnlessSuspended creates node
          pastCheck := state.pastCheck.erase node.nodeId }
      else none
  | .propsRead device =>
      match state.plugin.indigo.get? device with
      | none => none
      | some record => some { state with copies := (device, record) :: state.copies }
  | .propsWritten device copy additions =>
      if (device, copy) ∈ state.copies then
        let rest := state.copies.erase (device, copy)
        match state.plugin.indigo.get? device with
        | none => some { state with copies := rest }
        | some _ =>
            some { state with
              plugin := { state.plugin with
                indigo := state.plugin.indigo.set device (copy.withProps additions) }
              copies := rest
              original :=
                if device ∈ state.replacement.rebound then state.original
                else state.original.set device (copy.withProps additions) }
      else none
  | .indexRebuilt => some { state with plugin := state.plugin.rebuild }
  | .deviceStarted device =>
      match state.plugin.indigo.get? device with
      | none => none
      | some record => some { state with plugin := { state.plugin with sync := { state.plugin.sync with
          index := state.plugin.sync.index.noteDevice device record } } }
  | .reported device =>
      match state.unreported.find? (·.1 = device) with
      | none => none
      | some deletion => some { state with
          plugin := state.plugin.deviceDeleted deletion
          unreported := state.unreported.filter (·.1 ≠ device) }
  | .begin =>
      if state.stage = .planned then
        let begun := state.plugin.beginReplacement state.replacement.plan
        some { state with plugin := begun.1, replacement := begun.2, stage := .begun }
      else none
  | .deleteDuplicates =>
      if state.stage = .begun then
        let deleted := Replacement.deleteDuplicates accepts state.plugin state.replacement
        some { state with
          plugin := deleted.1
          replacement := deleted.2
          stage := .moving
          unreported := state.unreported ++ deleted.2.deleted }
      else none
  | .rebindNext =>
      if state.stage = .moving && !state.replacement.remaining.isEmpty then
        let moved := Replacement.rebindNext writeError? state.plugin state.replacement
        some { state with plugin := moved.1, replacement := moved.2 }
      else none
  | .leaveMarks =>
      if state.stage = .moving && state.replacement.remaining.isEmpty then
        some { state with
          plugin := Replacement.leaveMarks state.plugin state.replacement
          stage := .marked }
      else none
  | .finish =>
      if state.stage = .marked then
        some { state with
          plugin := Replacement.finish state.plugin state.replacement
          stage := .finished }
      else none

/-- Whether a pair moves: its duplicate's deletion and its own write are not refused. -/
def moves (pair : DeviceRef × DeviceRef) : Bool :=
  accepts pair.2.devId && (writeError? pair.1.devId).isNone

/-- A create pass over the old node is not given a device for a slot that one has left,
unless the index still has that one there; a pass writes properties back only to a device
still on the node they were read from; and a node device is not deleted in the old
node's place where no pair moves, unless the new node has a tombstone already. -/
def Undisturbed (state : ReplaceRun) : ReplaceEvent → Prop
  | .passCreates node creates =>
      node.nodeId = state.replacement.plan.oldNode →
        ∀ pair ∈ state.replacement.plan.pairs, pair.1.devId ∈ state.replacement.rebound →
          creates pair.1.endpointId pair.1.typeId = true →
            (state.plugin.sync.index.typeMap state.replacement.plan.oldNode pair.1.endpointId).get?
              pair.1.typeId = some pair.1.devId
  | .propsWritten device copy _ =>
      ∀ record ∈ state.plugin.indigo.get? device, record.nodeId = copy.nodeId
  | .leaveMarks =>
      (∃ ref ∈ state.replacement.plan.extraDeletes, accepts ref.devId = true) →
        (∃ pair ∈ state.replacement.plan.pairs, moves accepts writeError? pair = true) ∨
          state.replacement.plan.newNode ∈ state.plugin.nodeTombstones
  | _ => True

instance (state : ReplaceRun) (event : ReplaceEvent) :
    Decidable (Undisturbed accepts writeError? state event) :=
  match event with
  | .passCreates node creates =>
      inferInstanceAs (Decidable (node.nodeId = state.replacement.plan.oldNode →
        ∀ pair ∈ state.replacement.plan.pairs, pair.1.devId ∈ state.replacement.rebound →
          creates pair.1.endpointId pair.1.typeId = true →
            (state.plugin.sync.index.typeMap state.replacement.plan.oldNode pair.1.endpointId).get?
              pair.1.typeId = some pair.1.devId))
  | .propsWritten device copy _ =>
      inferInstanceAs (Decidable (∀ record ∈ state.plugin.indigo.get? device,
        record.nodeId = copy.nodeId))
  | .leaveMarks =>
      inferInstanceAs (Decidable ((∃ ref ∈ state.replacement.plan.extraDeletes,
        accepts ref.devId = true) →
          (∃ pair ∈ state.replacement.plan.pairs, moves accepts writeError? pair = true) ∨
            state.replacement.plan.newNode ∈ state.plugin.nodeTombstones))
  | .passStarts _ | .propsRead _ | .indexRebuilt | .deviceStarted _ | .reported _ | .begin
  | .deleteDuplicates | .rebindNext | .finish => .isTrue trivial

end Step

end ReplaceRun

/-! ## What holds while it runs -/

/-- The properties that place a device. -/
def IndigoDevice.kind (record : IndigoDevice) : TypeId × Option NodeId × Option EndpointId :=
  (record.typeId, record.nodeId, record.endpointId)

/-- Every copy a pass holds is of a device of that type on that endpoint, unless it is
gone for good. -/
def PluginWorld.Copied (world : PluginWorld) (copies : List (DeviceId × IndigoDevice)) : Prop :=
  ∀ entry ∈ copies, entry.1 < world.nextId ∧ ∀ record, world.indigo.get? entry.1 = some record →
    record.typeId = entry.2.typeId ∧ record.endpointId = entry.2.endpointId

/-- What the locked part of a create pass leaves as it was. -/
theorem PluginWorld.createUnlessSuspended_frame (accepts : Accepts?) (node : NodeInfo)
    (world : PluginWorld) :
    (world.createUnlessSuspended accepts node).nodeTombstones = world.nodeTombstones ∧
      (world.createUnlessSuspended accepts node).retiredNodes = world.retiredNodes ∧
      (world.createUnlessSuspended accepts node).creationSuspended = world.creationSuspended ∧
      (world.createUnlessSuspended accepts node).selfDeletedIds = world.selfDeletedIds ∧
      world.nextId ≤ (world.createUnlessSuspended accepts node).nextId ∧
      ∀ device < world.nextId,
        (world.createUnlessSuspended accepts node).indigo.get? device = world.indigo.get? device := by
  apply createUnlessSuspended_induction (fun other =>
    other.nodeTombstones = world.nodeTombstones ∧ other.retiredNodes = world.retiredNodes ∧
      other.creationSuspended = world.creationSuspended ∧
      other.selfDeletedIds = world.selfDeletedIds ∧ world.nextId ≤ other.nextId ∧
      ∀ device < world.nextId, other.indigo.get? device = world.indigo.get? device)
  · intro other same
    exact same
  · rintro other endpointId typeId pass ⟨tombstones, retired, suspended, marked, later, older⟩ _ _ _
    refine ⟨tombstones, retired, suspended, marked, later.trans (Nat.le_succ _), ?_⟩
    intro device old
    have apart : device ≠ other.nextId := (old.trans_le later).ne
    rw [← older device old]
    simp [PluginWorld.prime, PluginWorld.note, PluginWorld.create, apart]
  · exact ⟨rfl, rfl, rfl, rfl, le_rfl, fun _ _ => rfl⟩

/-- A deletion the plugin has marked as its own leaves no mark when it is reported. -/
theorem PluginWorld.deviceDeleted_of_marked {world : PluginWorld} {deletion : Deletion}
    (own : ∀ nodeId, deletion.2.ownNode? = some nodeId → deletion.1 ∈ world.selfDeletedIds) :
    ∃ selfDeletedIds, world.deviceDeleted deletion = { world with selfDeletedIds } ∧
      ∀ device ∈ world.selfDeletedIds, device ≠ deletion.1 → device ∈ selfDeletedIds := by
  unfold deviceDeleted
  split
  · rename_i nodeId atNode
    split
    · rename_i isNode
      have marked := own nodeId (by rw [IndigoDevice.ownNode?, if_pos isNode, atNode])
      rw [noteNodeDeviceDeleted, if_pos marked]
      refine ⟨_, rfl, ?_⟩
      intro device stillMarked apart
      exact List.mem_filter.mpr ⟨stillMarked, by simpa using apart⟩
    · exact ⟨_, rfl, fun _ marked _ => marked⟩
  · exact ⟨_, rfl, fun _ marked _ => marked⟩

namespace ReplaceRun

variable {request : ReplaceRequest} {before : PluginWorld} {accepts : DeviceId → Bool}
  {writeError? : DeviceId → Option String} {state : ReplaceRun}

/-- The replacement has come as far as its stage says: what is deleted and rebound so far
is what the plan and Indigo's refusals make of it, what is still to come has its slots
free, and nothing is marked before its time. -/
structure Progress (request : ReplaceRequest) (before : PluginWorld) (accepts : DeviceId → Bool)
    (writeError? : DeviceId → Option String) (state : ReplaceRun) : Prop where
  plan : state.replacement.plan = request.plan before
  slots : SlotsKept state.original before.nextId request.oldNode request.newNode
    (state.replacement.deleted.map Prod.fst) state.replacement.rebound (state.stage != .finished)
    state.plugin
  kinds : ∀ device < before.nextId,
    (state.original.get? device).map (·.kind) = (before.indigo.get? device).map (·.kind)
  copied : state.plugin.Copied state.copies
  suspended : state.stage ≠ .planned → state.stage ≠ .finished →
    request.newNode ∈ state.plugin.creationSuspended
  unstarted : state.stage.pastDeletions = false →
    state.replacement.deleted = [] ∧ state.replacement.rebound = [] ∧ state.unreported = []
  captured : state.stage = .begun → state.replacement.remaining = (request.plan before).pairs ∧
    ∀ ref ∈ (request.plan before).newDevices, ref.typeId = "matterNode" →
      state.replacement.nodeDevice = some ref.devId
  deleted_iff : state.stage.pastDeletions = true →
    ∀ device, device ∈ state.replacement.deleted.map Prod.fst ↔
      device ∈ (request.plan before).duplicates ∧ accepts device = true
  rebound_iff : state.stage.pastDeletions = true →
    ∃ done, (request.plan before).pairs = done ++ state.replacement.remaining ∧
      ∀ device, device ∈ state.replacement.rebound ↔
        ∃ pair ∈ done, pair.1.devId = device ∧ moves accepts writeError? pair = true
  exhausted : state.stage.pastMarks = true → state.replacement.remaining = []
  free : state.stage.pastDeletions = true → ∀ pair ∈ state.replacement.remaining,
    accepts pair.2.devId = true → ∀ other,
      ¬state.plugin.Claims other request.newNode pair.2.endpointId pair.2.typeId
  reports : ∀ deletion ∈ state.unreported, ∀ nodeId, deletion.2.ownNode? = some nodeId →
    deletion.1 ∈ state.plugin.selfDeletedIds
  once : (state.unreported.map Prod.fst).Nodup
  unmarked : state.stage.pastMarks = false →
    state.plugin.nodeTombstones = before.nodeTombstones ∧
      state.plugin.retiredNodes = before.retiredNodes
  marked : state.stage.pastMarks = true →
    (state.replacement.rebound = [] → state.plugin.nodeTombstones = before.nodeTombstones ∧
      state.plugin.retiredNodes = before.retiredNodes) ∧
    (request.oldNode ∈ state.plugin.retiredNodes ↔
      request.oldNode ∈ before.retiredNodes ∨ state.replacement.rebound ≠ [])

/-- What the planner has checked of a request it does not refuse. -/
structure Granted (request : ReplaceRequest) (before : PluginWorld) : Prop where
  settled : before.Settled
  unrefused : request.refusals before = []

namespace Granted

theorem apart (granted : Granted request before) : request.oldNode ≠ request.newNode :=
  ne_of_refusalReasons_eq_nil granted.unrefused

/-- The pairs are of refs of the two nodes with one key. -/
theorem mem_pairs {pair : DeviceRef × DeviceRef} (listed : pair ∈ (request.plan before).pairs) :
    pair.1 ∈ before.nodeDeviceRefs request.names request.oldNode ∧
      pair.2 ∈ before.nodeDeviceRefs request.names request.newNode ∧ pair.1.key = pair.2.key := by
  have olds := @planReplacement_old request.oldNode request.newNode
    (before.nodeDeviceRefs request.names request.oldNode)
    (before.nodeDeviceRefs request.names request.newNode) (request.oldNode ∈ before.nodeTombstones)
  have news := @planReplacement_new request.oldNode request.newNode
    (before.nodeDeviceRefs request.names request.oldNode)
    (before.nodeDeviceRefs request.names request.newNode) (request.oldNode ∈ before.nodeTombstones)
  refine ⟨?_, ?_, key_eq_of_mem_pairs listed⟩
  · apply olds.mem_iff.mp
    exact List.mem_append_left _ (List.mem_map.mpr ⟨pair, listed, rfl⟩)
  · apply news.mem_iff.mp
    exact List.mem_append_left _ (List.mem_append_left _ (List.mem_map.mpr ⟨pair, listed, rfl⟩))

/-- No old device is in two pairs. -/
theorem olds_nodup (granted : Granted request before) :
    ((request.plan before).pairs.map (·.1.devId)).Nodup := by
  have olds := @planReplacement_old request.oldNode request.newNode
    (before.nodeDeviceRefs request.names request.oldNode)
    (before.nodeDeviceRefs request.names request.newNode) (request.oldNode ∈ before.nodeTombstones)
  have distinct := ((olds.map (·.devId)).nodup_iff).mpr
    (nodeDeviceRefs_devIds_nodup granted.settled.placed request.names request.oldNode)
  rw [List.map_append, List.map_map] at distinct
  exact (List.nodup_append.mp distinct).1

/-- No two pairs have one key. -/
theorem keys_nodup : ((request.plan before).pairs.map (·.2.key)).Nodup := by
  have news := @planReplacement_new request.oldNode request.newNode
    (before.nodeDeviceRefs request.names request.oldNode)
    (before.nodeDeviceRefs request.names request.newNode) (request.oldNode ∈ before.nodeTombstones)
  have distinct := ((news.map DeviceRef.key).nodup_iff).mpr
    (nodeDeviceRefs_keys_nodup before request.names request.newNode)
  rw [List.map_append, ReplacementPlan.newDevices, List.map_append, List.map_map] at distinct
  exact (List.nodup_append.mp (List.nodup_append.mp distinct).1).1

/-- The ref of a device names the slot it claims. -/
theorem claims_of_ref (granted : Granted request before) {ref : DeviceRef} {nodeId : NodeId}
    (listed : ref ∈ before.nodeDeviceRefs request.names nodeId) :
    before.Claims ref.devId nodeId ref.endpointId ref.typeId := by
  rcases mem_nodeDeviceRefs.mp listed with ⟨stored, _, record, there, _⟩
  exact ⟨record, there, granted.settled.placed _ _ _ _ _ stored there⟩

end Granted

namespace Progress

/-- A device that was there, and is neither deleted nor moved, claims what it did. -/
theorem still_claims (progress : Progress request before accepts writeError? state)
    {device : DeviceId} {nodeId : NodeId} {endpointId : EndpointId} {typeId : TypeId}
    (claims : before.Claims device nodeId endpointId typeId) (old : device < before.nextId)
    (undeleted : device ∉ state.replacement.deleted.map Prod.fst)
    (unmoved : device ∉ state.replacement.rebound) :
    state.plugin.Claims device nodeId endpointId typeId := by
  rcases claims with ⟨record, there, place, kind⟩
  have same := progress.kinds device old
  rw [← progress.slots.unchanged device old undeleted unmoved, there] at same
  rcases Option.map_eq_some_iff.mp same with ⟨now, stored, sameKind⟩
  simp only [IndigoDevice.kind, Prod.mk.injEq] at sameKind
  rcases IndigoDevice.location?_eq_some.mp place with ⟨atNode, atEndpoint⟩
  refine ⟨now, stored, IndigoDevice.location?_eq_some.mpr ⟨?_, ?_⟩, ?_⟩
  · rw [sameKind.2.1, atNode]
  · rw [sameKind.2.2, atEndpoint]
  · rw [sameKind.1, kind]

/-- A rebound device is of a pair. -/
theorem pair_of_rebound (progress : Progress request before accepts writeError? state)
    {device : DeviceId} (isRebound : device ∈ state.replacement.rebound) :
    ∃ pair ∈ (request.plan before).pairs, pair.1.devId = device := by
  cases past : state.stage.pastDeletions with
  | false =>
      rw [(progress.unstarted past).2.1] at isRebound
      cases isRebound
  | true =>
      rcases progress.rebound_iff past with ⟨done, split, rebound_iff⟩
      rcases (rebound_iff device).mp isRebound with ⟨pair, listed, same, _⟩
      exact ⟨pair, split ▸ List.mem_append_left _ listed, same⟩

/-- A moved device claims on the new node the slot it had on the old one. -/
theorem moved_slot (progress : Progress request before accepts writeError? state)
    (granted : Granted request before) {device : DeviceId}
    (isRebound : device ∈ state.replacement.rebound) :
    ∃ pair ∈ (request.plan before).pairs, pair.1.devId = device ∧
      before.Claims device request.oldNode pair.1.endpointId pair.1.typeId ∧
      ∀ endpointId typeId, state.plugin.Claims device request.newNode endpointId typeId ↔
        endpointId = pair.1.endpointId ∧ typeId = pair.1.typeId := by
  rcases progress.pair_of_rebound isRebound with ⟨pair, listed, rfl⟩
  have was := granted.claims_of_ref (Granted.mem_pairs listed).1
  refine ⟨pair, listed, rfl, was, ?_⟩
  rcases was with ⟨record, there, place, kind⟩
  rcases progress.slots.moved_to _ isRebound with
    ⟨first, now, wasThere, _, stored, atNew, sameEndpoint, sameType⟩
  have old := granted.settled.existing_lt _ (InsertionMap.mem_keys_iff.mpr ⟨record, there⟩)
  have same := progress.kinds _ old
  rw [wasThere, there] at same
  simp only [Option.map_some, Option.some.injEq, IndigoDevice.kind, Prod.mk.injEq] at same
  rcases IndigoDevice.location?_eq_some.mp place with ⟨_, atEndpoint⟩
  have nowPlace : now.location? = some (request.newNode, pair.1.endpointId) := by
    apply IndigoDevice.location?_eq_some.mpr
    rw [atNew, sameEndpoint, same.2.2, atEndpoint]
    exact ⟨rfl, rfl⟩
  have nowType : now.typeId = pair.1.typeId := by rw [sameType, same.1, kind]
  intro endpointId typeId
  constructor
  · rintro ⟨found, foundThere, foundPlace, foundType⟩
    obtain rfl := Option.some.inj (stored.symm.trans foundThere)
    have samePlace := Option.some.inj (nowPlace.symm.trans foundPlace)
    exact ⟨(Prod.mk.inj samePlace).2.symm, foundType.symm.trans nowType⟩
  · rintro ⟨rfl, rfl⟩
    exact ⟨now, stored, nowPlace, nowType⟩

/-- An event beside the replacement: it takes no step of it, leaves no mark, and claims no
slot of the new node while creation there is suspended. -/
theorem besides (progress : Progress request before accepts writeError? state)
    {plugin : PluginWorld} {unreported : List Deletion} {pastCheck : List NodeId}
    {copies : List (DeviceId × IndigoDevice)} {original : IndigoDevices}
    (slots : SlotsKept original before.nextId request.oldNode request.newNode
      (state.replacement.deleted.map Prod.fst) state.replacement.rebound (state.stage != .finished)
      plugin)
    (kinds : ∀ device < before.nextId,
      (original.get? device).map (·.kind) = (state.original.get? device).map (·.kind))
    (copied : plugin.Copied copies)
    (suspended : plugin.creationSuspended = state.plugin.creationSuspended)
    (claims : request.newNode ∈ state.plugin.creationSuspended → ∀ device endpointId typeId,
      plugin.Claims device request.newNode endpointId typeId →
        state.plugin.Claims device request.newNode endpointId typeId)
    (tombstones : plugin.nodeTombstones = state.plugin.nodeTombstones)
    (retired : plugin.retiredNodes = state.plugin.retiredNodes)
    (fewer : ∀ deletion ∈ unreported, deletion ∈ state.unreported ∧
      (deletion.1 ∈ state.plugin.selfDeletedIds → deletion.1 ∈ plugin.selfDeletedIds))
    (once : (unreported.map Prod.fst).Nodup) :
    Progress request before accepts writeError?
      { state with plugin, unreported, pastCheck, copies, original } where
  plan := progress.plan
  slots := slots
  kinds := fun device old => (kinds device old).trans (progress.kinds device old)
  copied := copied
  suspended := fun begun unfinished => suspended ▸ progress.suspended begun unfinished
  unstarted := by
    intro early
    rcases progress.unstarted early with ⟨undeleted, unmoved, none⟩
    refine ⟨undeleted, unmoved, List.eq_nil_iff_forall_not_mem.mpr ?_⟩
    intro deletion pending
    have earlier := (fewer deletion pending).1
    rw [none] at earlier
    cases earlier
  captured := progress.captured
  deleted_iff := progress.deleted_iff
  rebound_iff := progress.rebound_iff
  exhausted := progress.exhausted
  free := by
    intro past pair listed accepted other nowClaims
    have moving : state.stage ≠ .planned ∧ state.stage ≠ .finished := by
      constructor
      · intro planned
        rw [planned] at past
        cases past
      · intro finished
        have none := progress.exhausted (finished ▸ rfl)
        rw [none] at listed
        cases listed
    have earlier := claims (progress.suspended moving.1 moving.2) _ _ _ nowClaims
    exact progress.free past pair listed accepted other earlier
  reports := by
    intro deletion pending nodeId own
    rcases fewer deletion pending with ⟨earlier, stays⟩
    exact stays (progress.reports deletion earlier nodeId own)
  once := once
  unmarked := by
    rw [tombstones, retired]
    exact progress.unmarked
  marked := by
    rw [tombstones, retired]
    exact progress.marked

theorem passCreates (progress : Progress request before accepts writeError? state)
    (granted : Granted request before) {node : NodeInfo} {creates : Accepts?} {pastCheck : List NodeId}
    (undisturbed : Undisturbed accepts writeError? state (.passCreates node creates)) :
    Progress request before accepts writeError?
      { state with plugin := state.plugin.createUnlessSuspended creates node, pastCheck } := by
  rcases PluginWorld.createUnlessSuspended_frame creates node state.plugin with
    ⟨tombstones, retired, suspended, marked, later, older⟩
  have unfinished : node.nodeId = request.newNode → state.replacement.rebound = [] ∨
      (state.stage != .finished) = false ∨ request.newNode ∈ state.plugin.creationSuspended := by
    intro _
    cases past : state.stage.pastDeletions with
    | false => exact .inl (progress.unstarted past).2.1
    | true =>
        by_cases finished : state.stage = .finished
        · exact .inr (.inl (by simp [finished]))
        · refine .inr (.inr (progress.suspended ?_ finished))
          intro planned
          rw [planned] at past
          cases past
  have left : node.nodeId = request.oldNode → ∀ device ∈ state.replacement.rebound,
      ∀ endpointId typeId, state.plugin.Claims device request.newNode endpointId typeId →
        creates endpointId typeId = true →
          (state.plugin.sync.index.typeMap request.oldNode endpointId).get? typeId = some device := by
    intro here device isRebound endpointId typeId claims accepted
    rcases progress.moved_slot granted isRebound with ⟨pair, listed, rfl, _, claims_iff⟩
    obtain ⟨rfl, rfl⟩ := (claims_iff _ _).mp claims
    unfold Undisturbed at undisturbed
    rw [progress.plan] at undisturbed
    exact undisturbed here pair listed isRebound accepted
  rcases progress.slots.createPass unfinished left with ⟨slots, claims⟩
  apply progress.besides slots (fun _ _ => rfl) _ suspended _ tombstones retired _ progress.once
  · intro entry held
    rcases progress.copied entry held with ⟨old, same⟩
    refine ⟨old.trans_le later, ?_⟩
    rw [older _ old]
    exact same
  · intro suspendedNew device endpointId typeId nowClaims
    exact claims _ _ _ _ (.inr suspendedNew) nowClaims
  · intro deletion pending
    rw [marked]
    exact ⟨pending, id⟩

theorem propsWritten (progress : Progress request before accepts writeError? state)
    {device : DeviceId} {copy record : IndigoDevice} {additions : List (String × String)}
    (held : (device, copy) ∈ state.copies)
    (there : state.plugin.indigo.get? device = some record)
    (undisturbed : Undisturbed accepts writeError? state (.propsWritten device copy additions)) :
    Progress request before accepts writeError?
      { state with
        plugin := { state.plugin with
          indigo := state.plugin.indigo.set device (copy.withProps additions) }
        copies := state.copies.erase (device, copy)
        original :=
          if device ∈ state.replacement.rebound then state.original
          else state.original.set device (copy.withProps additions) } := by
  rcases (progress.copied _ held).2 record there with ⟨sameType, sameEndpoint⟩
  have sameNode : record.nodeId = copy.nodeId := undisturbed record there
  apply progress.besides
  · exact progress.slots.writeProps there sameType.symm sameNode.symm sameEndpoint.symm
  · intro other old
    split
    · rfl
    · rename_i unmoved
      rw [InsertionMap.get?_set]
      split
      · rename_i same
        subst same
        have undeleted : other ∉ state.replacement.deleted.map Prod.fst := by
          intro gone
          rw [progress.slots.deleted_gone other gone] at there
          cases there
        rw [← progress.slots.unchanged other old undeleted unmoved, there]
        simp [IndigoDevice.kind, IndigoDevice.withProps, sameType, sameEndpoint, sameNode]
      · rfl
  · rintro ⟨other, otherCopy⟩ stillHeld
    rcases progress.copied _ (List.mem_of_mem_erase stillHeld) with ⟨old, same⟩
    refine ⟨old, ?_⟩
    intro found stored
    rw [InsertionMap.get?_set] at stored
    split at stored
    · rename_i sameDevice
      subst sameDevice
      rw [← Option.some.inj stored]
      rcases same record there with ⟨otherType, otherEndpoint⟩
      exact ⟨sameType.symm.trans otherType, sameEndpoint.symm.trans otherEndpoint⟩
    · exact same found stored
  · rfl
  · rintro _ other endpointId typeId ⟨found, stored, place, kind⟩
    rw [InsertionMap.get?_set] at stored
    split at stored
    · rename_i sameDevice
      subst sameDevice
      obtain rfl := Option.some.inj stored
      refine ⟨record, there, ?_, sameType.trans kind⟩
      rw [← place]
      simp only [IndigoDevice.location?, IndigoDevice.withProps, sameNode, sameEndpoint]
    · exact ⟨found, stored, place, kind⟩
  · rfl
  · rfl
  · exact fun deletion pending => ⟨pending, id⟩
  · exact progress.once

theorem reported (progress : Progress request before accepts writeError? state)
    {device : DeviceId} {deletion : Deletion}
    (found : state.unreported.find? (·.1 = device) = some deletion) :
    Progress request before accepts writeError?
      { state with
        plugin := state.plugin.deviceDeleted deletion
        unreported := state.unreported.filter (·.1 ≠ device) } := by
  have pending := List.mem_of_find?_eq_some found
  have about : deletion.1 = device := by simpa using List.find?_some found
  rcases PluginWorld.deviceDeleted_of_marked (progress.reports deletion pending) with
    ⟨selfDeletedIds, changed, kept⟩
  rw [changed]
  apply progress.besides
  · exact progress.slots.congr rfl rfl rfl
  · exact fun _ _ => rfl
  · exact progress.copied
  · rfl
  · exact fun _ _ _ _ claims => claims
  · rfl
  · rfl
  · intro other stillPending
    rcases List.mem_filter.mp stillPending with ⟨earlier, apart⟩
    refine ⟨earlier, fun marked => kept _ marked ?_⟩
    rw [about]
    simpa using apart
  · exact progress.once.sublist (List.filter_sublist.map Prod.fst)

theorem begin (progress : Progress request before accepts writeError? state)
    (granted : Granted request before) (planned : state.stage = .planned) :
    Progress request before accepts writeError?
      { state with
        plugin := (state.plugin.beginReplacement state.replacement.plan).1
        replacement := (state.plugin.beginReplacement state.replacement.plan).2
        stage := .begun } := by
  rcases progress.unstarted (planned ▸ rfl) with ⟨undeleted, unmoved, unreported⟩
  rcases progress.unmarked (planned ▸ rfl) with ⟨tombstones, retired⟩
  have slots := progress.slots
  rw [undeleted, unmoved, planned] at slots
  have newNode : state.replacement.plan.newNode = request.newNode := by
    rw [progress.plan]
    rfl
  constructor
  · exact progress.plan
  · exact slots.congr rfl rfl rfl
  · exact progress.kinds
  · exact progress.copied
  · intro _ _
    rw [← newNode]
    exact List.mem_cons_self
  · exact fun _ => ⟨rfl, rfl, unreported⟩
  · intro _
    refine ⟨congrArg ReplacementPlan.pairs progress.plan, ?_⟩
    intro ref listed own
    have listedNew := (newDevices_planOnly granted.settled.placed request.names request.oldNode
      request.newNode).1 ref listed
    have was := granted.claims_of_ref listedNew
    rw [own] at was
    have atRoot := granted.settled.root _ _ _ was
    have old : ref.devId < before.nextId := by
      rcases was with ⟨record, there, _⟩
      exact granted.settled.existing_lt _ (InsertionMap.mem_keys_iff.mpr ⟨record, there⟩)
    have claims := progress.still_claims was old (by simp [undeleted]) (by simp [unmoved])
    rw [atRoot] at claims
    rcases slots.covers _ _ _ _ claims with stored | ⟨isMoved, _⟩
    · simp only [PluginWorld.beginReplacement, newNode]
      exact stored
    · cases isMoved
  · rintro ⟨⟩
  · rintro ⟨⟩
  · rintro ⟨⟩
  · rintro ⟨⟩
  · exact progress.reports
  · exact progress.once
  · exact fun _ => ⟨tombstones, retired⟩
  · rintro ⟨⟩

/-- The duplicates are devices of the new node that are still in their slots. -/
theorem claims_of_duplicate (progress : Progress request before accepts writeError? state)
    (granted : Granted request before) (begun : state.stage = .begun) {device : DeviceId}
    (duplicate : device ∈ (request.plan before).duplicates) :
    device < before.nextId ∧ ∃ ref ∈ (request.plan before).newDevices, ref.devId = device ∧
      state.plugin.Claims device request.newNode ref.endpointId ref.typeId := by
  rcases mem_duplicates.mp duplicate with ⟨ref, listed, rfl⟩
  rcases progress.unstarted (begun ▸ rfl) with ⟨undeleted, unmoved, _⟩
  have was := granted.claims_of_ref ((newDevices_planOnly granted.settled.placed request.names
    request.oldNode request.newNode).1 ref listed)
  have old : ref.devId < before.nextId := by
    rcases was with ⟨record, there, _⟩
    exact granted.settled.existing_lt _ (InsertionMap.mem_keys_iff.mpr ⟨record, there⟩)
  exact ⟨old, ref, listed, rfl, progress.still_claims was old (by simp [undeleted]) (by simp [unmoved])⟩

theorem deleteDuplicates (progress : Progress request before accepts writeError? state)
    (granted : Granted request before) (begun : state.stage = .begun) :
    Progress request before accepts writeError?
      { state with
        plugin := (Replacement.deleteDuplicates accepts state.plugin state.replacement).1
        replacement := (Replacement.deleteDuplicates accepts state.plugin state.replacement).2
        stage := .moving
        unreported := state.unreported ++
          (Replacement.deleteDuplicates accepts state.plugin state.replacement).2.deleted } := by
  rcases progress.unstarted (begun ▸ rfl) with ⟨undeleted, unmoved, unreported⟩
  rcases progress.unmarked (begun ▸ rfl) with ⟨tombstones, retired⟩
  rcases progress.captured begun with ⟨remaining, captured⟩
  have suspended := progress.suspended (by simp [begun]) (by simp [begun])
  have duplicates : ∀ device ∈ (request.plan before).duplicates, _ :=
    fun device => progress.claims_of_duplicate granted begun
  have slots := progress.slots
  rw [undeleted, unmoved, begun] at slots
  have deletes := PluginWorld.deletes_deleteDevices accepts (request.plan before).duplicates
    state.replacement.nodeDevice state.plugin
  have marks : ∀ device, state.replacement.nodeDevice = some device →
      device ∈ (request.plan before).duplicates →
      device ∈ (state.plugin.deleteDevices accepts (request.plan before).duplicates
        state.replacement.nodeDevice).2.map Prod.fst →
      device ∈ (state.plugin.deleteDevices accepts (request.plan before).duplicates
        state.replacement.nodeDevice).1.selfDeletedIds := by
    intro device own listed deleted
    have distinct := duplicates_nodup (newDevices_planOnly granted.settled.placed request.names
      request.oldNode request.newNode).2
    rw [own] at deleted ⊢
    exact PluginWorld.marked_deleteDevices_of_deleted listed (List.nodup_iff_count_le_one.mp distinct _)
      deleted
  simp only [Replacement.deleteDuplicates, progress.plan]
  generalize state.plugin.deleteDevices accepts (request.plan before).duplicates
    state.replacement.nodeDevice = result at *
  rcases result with ⟨after, log⟩
  dsimp only at deletes marks ⊢
  have left : ∀ device record, after.indigo.get? device = some record →
      device ∉ log.map Prod.fst ∧ state.plugin.indigo.get? device = some record := by
    intro device record stored
    rw [deletes.indigo] at stored
    split at stored
    · cases stored
    · rename_i unreported
      exact ⟨unreported, stored⟩
  constructor
  · rfl
  · dsimp only
    rw [unmoved]
    exact slots.deleteDevices deletes fun device listed => (duplicates device listed).1
  · exact progress.kinds
  · intro entry held
    rcases progress.copied entry held with ⟨old, same⟩
    refine ⟨?_, fun record stored => same record (left _ _ stored).2⟩
    rw [deletes.frame]
    exact old
  · intro _ _
    rw [deletes.frame]
    exact suspended
  · rintro ⟨⟩
  · rintro ⟨⟩
  · intro _ device
    constructor
    · intro deleted
      rcases List.mem_map.mp deleted with ⟨⟨_, record⟩, listed, rfl⟩
      rcases (deletes.deleted _ _).mp listed with ⟨duplicate, agreed, _⟩
      exact ⟨duplicate, agreed⟩
    · rintro ⟨duplicate, agreed⟩
      rcases duplicates device duplicate with ⟨_, ref, _, _, record, there, _⟩
      exact List.mem_map.mpr ⟨(device, record), (deletes.deleted _ _).mpr ⟨duplicate, agreed, there⟩, rfl⟩
  · intro _
    refine ⟨[], remaining.symm, ?_⟩
    simp [unmoved]
  · rintro ⟨⟩
  · rintro _ pair listed agreed other ⟨record, stored, place, kind⟩
    rcases left _ _ stored with ⟨unreported, there⟩
    rw [remaining] at listed
    have duplicate : pair.2.devId ∈ (request.plan before).duplicates := by
      refine mem_duplicates.mpr ⟨pair.2, ?_, rfl⟩
      exact List.mem_append_left _ (List.mem_map.mpr ⟨pair, listed, rfl⟩)
    have was := granted.claims_of_ref (Granted.mem_pairs listed).2.1
    have own := progress.still_claims was (duplicates _ duplicate).1 (by simp [undeleted])
      (by simp [unmoved])
    have same := slots.unique _ _ _ _ _ ⟨record, there, place, kind⟩ own
    rcases own with ⟨ownRecord, ownThere, _⟩
    apply unreported
    rw [same]
    exact List.mem_map.mpr ⟨(pair.2.devId, ownRecord),
      (deletes.deleted _ _).mpr ⟨duplicate, agreed, ownThere⟩, rfl⟩
  · rw [unreported]
    rintro ⟨device, record⟩ pending nodeId own
    rcases (deletes.deleted _ _).mp pending with ⟨duplicate, _, there⟩
    rcases duplicates device duplicate with ⟨_, ref, listed, rfl, found, foundThere, _, kind⟩
    obtain rfl := Option.some.inj (there.symm.trans foundThere)
    have isNode : ref.typeId = "matterNode" := by
      rw [← kind]
      unfold IndigoDevice.ownNode? at own
      split at own
      · assumption
      · cases own
    exact marks _ (captured ref listed isNode) duplicate
      (List.mem_map.mpr ⟨(ref.devId, record), pending, rfl⟩)
  · rw [unreported]
    exact deletes.once
  · intro _
    rw [deletes.frame]
    exact ⟨tombstones, retired⟩
  · rintro ⟨⟩

/-- A pair that is skipped stays where it is. -/
theorem skipPair (progress : Progress request before accepts writeError? state)
    {pair : DeviceRef × DeviceRef} {rest : List (DeviceRef × DeviceRef)}
    (moving : state.stage = .moving) (remaining : state.replacement.remaining = pair :: rest)
    (stays : moves accepts writeError? pair = false) (skipped : List (DeviceId × String)) :
    Progress request before accepts writeError?
      { state with replacement := { state.replacement with remaining := rest, skipped } } where
  plan := progress.plan
  slots := progress.slots
  kinds := progress.kinds
  copied := progress.copied
  suspended := progress.suspended
  unstarted := progress.unstarted
  captured := by
    intro begun
    rw [moving] at begun
    cases begun
  deleted_iff := progress.deleted_iff
  rebound_iff := by
    intro past
    rcases progress.rebound_iff past with ⟨done, split, rebound_iff⟩
    refine ⟨done ++ [pair], ?_, ?_⟩
    · rw [split, remaining]
      simp
    · intro device
      rw [rebound_iff]
      constructor
      · rintro ⟨other, listed, same, moved⟩
        exact ⟨other, List.mem_append_left _ listed, same, moved⟩
      · rintro ⟨other, listed, same, moved⟩
        rcases List.mem_append.mp listed with earlier | last
        · exact ⟨other, earlier, same, moved⟩
        · rw [List.mem_singleton.mp last, stays] at moved
          cases moved
  exhausted := by
    intro past
    rw [moving] at past
    cases past
  free := fun past other listed =>
    progress.free past other (remaining ▸ List.mem_cons_of_mem _ listed)
  reports := progress.reports
  once := progress.once
  unmarked := progress.unmarked
  marked := progress.marked

/-- The next pair has not moved yet, and no other pair has its slot. -/
theorem nextPair (progress : Progress request before accepts writeError? state)
    (granted : Granted request before) {pair : DeviceRef × DeviceRef}
    {rest : List (DeviceRef × DeviceRef)} (moving : state.stage = .moving)
    (remaining : state.replacement.remaining = pair :: rest) :
    pair ∈ (request.plan before).pairs ∧ pair.1.devId < before.nextId ∧
      pair.1.devId ∉ state.replacement.rebound ∧
      state.plugin.Claims pair.1.devId request.oldNode pair.1.endpointId pair.1.typeId ∧
      ∀ other ∈ rest, other.2.key ≠ pair.2.key := by
  rcases progress.rebound_iff (moving ▸ rfl) with ⟨done, split, rebound_iff⟩
  rw [remaining] at split
  have listed : pair ∈ (request.plan before).pairs := by
    rw [split]
    simp
  have olds := granted.olds_nodup
  rw [split, List.map_append, List.map_cons] at olds
  have unmoved : pair.1.devId ∉ state.replacement.rebound := by
    intro isRebound
    rcases (rebound_iff _).mp isRebound with ⟨other, earlier, same, _⟩
    refine (List.nodup_append.mp olds).2.2 _ (List.mem_map.mpr ⟨other, earlier, rfl⟩) _
      List.mem_cons_self same
  have was := granted.claims_of_ref (Granted.mem_pairs listed).1
  have old : pair.1.devId < before.nextId := by
    rcases was with ⟨record, there, _⟩
    exact granted.settled.existing_lt _ (InsertionMap.mem_keys_iff.mpr ⟨record, there⟩)
  have undeleted : pair.1.devId ∉ state.replacement.deleted.map Prod.fst := by
    intro deleted
    rcases mem_duplicates.mp ((progress.deleted_iff (moving ▸ rfl) _).mp deleted).1 with
      ⟨ref, listedNew, same⟩
    have atNew := granted.claims_of_ref ((newDevices_planOnly granted.settled.placed request.names
      request.oldNode request.newNode).1 ref listedNew)
    rcases was with ⟨record, there, place, _⟩
    rcases atNew with ⟨found, foundThere, foundPlace, _⟩
    rw [same] at foundThere
    obtain rfl := Option.some.inj (there.symm.trans foundThere)
    exact granted.apart (Prod.mk.inj (Option.some.inj (place.symm.trans foundPlace))).1
  have keys := @Granted.keys_nodup request before
  rw [split, List.map_append, List.map_cons] at keys
  refine ⟨listed, old, unmoved, progress.still_claims was old undeleted unmoved, ?_⟩
  intro other later same
  have apart := (List.nodup_cons.mp (List.nodup_append.mp keys).2.1).1
  exact apart (same ▸ List.mem_map.mpr ⟨other, later, rfl⟩)

theorem movePair (progress : Progress request before accepts writeError? state)
    (granted : Granted request before) {pair : DeviceRef × DeviceRef}
    {rest : List (DeviceRef × DeviceRef)} {record : IndigoDevice} (version : Option String)
    (moving : state.stage = .moving) (remaining : state.replacement.remaining = pair :: rest)
    (there : state.plugin.indigo.get? pair.1.devId = some record)
    (moved : moves accepts writeError? pair = true) :
    Progress request before accepts writeError?
      { state with
        plugin := { state.plugin with
          indigo := state.plugin.indigo.set pair.1.devId
            (reboundProps record request.newNode version) }
        replacement := { state.replacement with
          remaining := rest
          rebound := state.replacement.rebound ++ [pair.1.devId] } } := by
  rcases progress.nextPair granted moving remaining with ⟨listed, old, unmoved, claims, others⟩
  rcases claims with ⟨found, foundThere, place, kind⟩
  obtain rfl := Option.some.inj (there.symm.trans foundThere)
  have sameKey := (Granted.mem_pairs listed).2.2
  have accepted : accepts pair.2.devId = true := by
    rw [moves, Bool.and_eq_true] at moved
    exact moved.1
  have keyParts := Prod.mk.inj sameKey
  have vacant : ∀ other, ¬state.plugin.Claims other request.newNode pair.1.endpointId record.typeId := by
    intro other claims
    rw [kind, keyParts.1, keyParts.2] at claims
    exact progress.free (moving ▸ rfl) pair (remaining ▸ List.mem_cons_self) accepted other claims
  have slots := progress.slots
  rw [moving] at slots
  constructor
  · exact progress.plan
  · rw [moving]
    exact slots.rebind granted.apart old there unmoved place vacant
  · exact progress.kinds
  · intro entry held
    rcases progress.copied entry held with ⟨oldEntry, same⟩
    refine ⟨oldEntry, ?_⟩
    intro now stored
    rw [InsertionMap.get?_set] at stored
    split at stored
    · rename_i sameDevice
      rw [← Option.some.inj stored]
      exact same record (sameDevice ▸ there)
    · exact same now stored
  · exact progress.suspended
  · intro early
    rw [moving] at early
    cases early
  · intro begun
    rw [moving] at begun
    cases begun
  · exact progress.deleted_iff
  · intro past
    rcases progress.rebound_iff past with ⟨done, split, rebound_iff⟩
    refine ⟨done ++ [pair], ?_, ?_⟩
    · rw [split, remaining]
      simp
    · intro device
      rw [List.mem_append, rebound_iff, List.mem_singleton]
      constructor
      · rintro (⟨other, earlier, same, otherMoved⟩ | rfl)
        · exact ⟨other, List.mem_append_left _ earlier, same, otherMoved⟩
        · exact ⟨pair, by simp, rfl, moved⟩
      · rintro ⟨other, listedDone, same, otherMoved⟩
        rcases List.mem_append.mp listedDone with earlier | last
        · exact .inl ⟨other, earlier, same, otherMoved⟩
        · rw [List.mem_singleton.mp last] at same
          exact .inr same.symm
  · intro past
    rw [moving] at past
    cases past
  · rintro past other later agreed device ⟨now, stored, nowPlace, nowKind⟩
    rw [InsertionMap.get?_set] at stored
    split at stored
    · rename_i sameDevice
      obtain rfl := Option.some.inj stored
      rcases IndigoDevice.location?_eq_some.mp nowPlace with ⟨_, nowEndpoint⟩
      rcases IndigoDevice.location?_eq_some.mp place with ⟨_, atEndpoint⟩
      rw [reboundProps_endpointId, atEndpoint] at nowEndpoint
      rw [reboundProps_typeId, kind] at nowKind
      apply others other later
      rw [← sameKey]
      exact Prod.ext (Option.some.inj nowEndpoint).symm nowKind.symm
    · exact progress.free past other (remaining ▸ List.mem_cons_of_mem _ later) agreed device
        ⟨now, stored, nowPlace, nowKind⟩
  · exact progress.reports
  · exact progress.once
  · exact progress.unmarked
  · intro past
    rw [moving] at past
    cases past

theorem rebindNext (progress : Progress request before accepts writeError? state)
    (granted : Granted request before) (moving : state.stage = .moving)
    {pair : DeviceRef × DeviceRef} {rest : List (DeviceRef × DeviceRef)}
    (remaining : state.replacement.remaining = pair :: rest) :
    Progress request before accepts writeError?
      { state with
        plugin := (Replacement.rebindNext writeError? state.plugin state.replacement).1
        replacement := (Replacement.rebindNext writeError? state.plugin state.replacement).2 } := by
  rcases progress.nextPair granted moving remaining with ⟨listed, _, _, ⟨record, there, _⟩, _⟩
  have newNode : state.replacement.plan.newNode = request.newNode := by
    rw [progress.plan]
    rfl
  have duplicate : pair.2.devId ∈ (request.plan before).duplicates :=
    mem_duplicates.mpr ⟨pair.2, List.mem_append_left _ (List.mem_map.mpr ⟨pair, listed, rfl⟩), rfl⟩
  have deleted_iff : state.replacement.hasDeleted pair.2.devId = accepts pair.2.devId := by
    rw [Bool.eq_iff_iff]
    have iff := progress.deleted_iff (moving ▸ rfl) pair.2.devId
    simp only [List.mem_map, duplicate, true_and] at iff
    rw [← iff]
    simp [Replacement.hasDeleted]
  simp only [Replacement.rebindNext, remaining, Replacement.rebindPair]
  cases accepted : accepts pair.2.devId with
  | false =>
      have kept : moves accepts writeError? pair = false := by rw [moves, accepted, Bool.false_and]
      rw [if_pos]
      · exact progress.skipPair moving remaining kept _
      · show (!state.replacement.hasDeleted pair.2.devId) = true
        rw [deleted_iff, accepted]
        rfl
  | true =>
      rw [if_neg]
      · cases refused : writeError? pair.1.devId with
        | none =>
            have moved : moves accepts writeError? pair = true := by
              rw [moves, accepted, refused]
              rfl
            rw [there]
            rw [newNode]
            exact progress.movePair granted _ moving remaining there moved
        | some error =>
            have kept : moves accepts writeError? pair = false := by
              rw [moves, accepted, refused]
              rfl
            rw [there]
            exact progress.skipPair moving remaining kept _
      · show ¬(!state.replacement.hasDeleted pair.2.devId) = true
        rw [deleted_iff, accepted]
        decide

/-- Once every pair has been taken, nothing is rebound just where no pair moves. -/
theorem rebound_eq_nil (progress : Progress request before accepts writeError? state)
    (past : state.stage.pastDeletions = true) (taken : state.replacement.remaining = [])
    (none : state.replacement.rebound = []) :
    ¬∃ pair ∈ (request.plan before).pairs, moves accepts writeError? pair = true := by
  rcases progress.rebound_iff past with ⟨done, split, rebound_iff⟩
  rw [taken, List.append_nil] at split
  rintro ⟨pair, listed, moved⟩
  have isRebound := (rebound_iff pair.1.devId).mpr ⟨pair, split ▸ listed, rfl, moved⟩
  rw [none] at isRebound
  cases isRebound

theorem leaveMarks (progress : Progress request before accepts writeError? state)
    (moving : state.stage = .moving) (taken : state.replacement.remaining = [])
    (undisturbed : Undisturbed accepts writeError? state .leaveMarks) :
    Progress request before accepts writeError?
      { state with
        plugin := Replacement.leaveMarks state.plugin state.replacement
        stage := .marked } := by
  have past : state.stage.pastDeletions = true := moving ▸ rfl
  rcases progress.unmarked (moving ▸ rfl) with ⟨tombstones, retired⟩
  have oldNode : state.replacement.plan.oldNode = request.oldNode := by
    rw [progress.plan]
    rfl
  have marks : Replacement.leaveMarks state.plugin state.replacement =
      { state.plugin with
        nodeTombstones :=
          if state.replacement.carries then
            PluginWorld.addMark state.plugin.nodeTombstones state.replacement.plan.newNode
          else state.plugin.nodeTombstones
        retiredNodes :=
          if state.replacement.rebound.isEmpty then state.plugin.retiredNodes
          else PluginWorld.addMark state.plugin.retiredNodes state.replacement.plan.oldNode } := by
    unfold Replacement.leaveMarks
    cases state.replacement.carries with
    | true => cases state.replacement.rebound.isEmpty <;> rfl
    | false => cases state.replacement.rebound.isEmpty <;> rfl
  have uncarried : state.replacement.rebound = [] → state.replacement.carries = true →
      state.replacement.plan.newNode ∈ state.plugin.nodeTombstones := by
    intro none carries
    simp only [Replacement.carries, List.any_eq_true, Bool.and_eq_true] at carries
    rcases carries with ⟨ref, listed, _, deleted⟩
    simp only [Replacement.hasDeleted, List.any_eq_true, decide_eq_true_eq] at deleted
    rcases deleted with ⟨deletion, pending, same⟩
    have agreed := ((progress.deleted_iff past ref.devId).mp
      (List.mem_map.mpr ⟨deletion, pending, same⟩)).2
    rcases undisturbed ⟨ref, listed, agreed⟩ with moved | already
    · rw [progress.plan] at moved
      exact absurd moved (progress.rebound_eq_nil past taken none)
    · exact already
  rw [marks]
  constructor
  · exact progress.plan
  · have slots := progress.slots
    rw [moving] at slots
    exact slots.congr rfl rfl rfl
  · exact progress.kinds
  · exact progress.copied
  · exact fun _ _ => progress.suspended (by simp [moving]) (by simp [moving])
  · rintro ⟨⟩
  · rintro ⟨⟩
  · exact fun _ => progress.deleted_iff past
  · exact fun _ => progress.rebound_iff past
  · exact fun _ => taken
  · exact fun _ => progress.free past
  · exact progress.reports
  · exact progress.once
  · rintro ⟨⟩
  · intro _
    dsimp only
    constructor
    · intro none
      rw [none, List.isEmpty_nil, if_pos rfl]
      refine ⟨?_, retired⟩
      split
      · rename_i carries
        rw [PluginWorld.addMark, if_pos (uncarried none carries)]
        exact tombstones
      · exact tombstones
    · cases state.replacement.rebound with
      | nil => simp [retired]
      | cons device rest => simp [PluginWorld.mem_addMark, oldNode]

theorem finish (progress : Progress request before accepts writeError? state)
    (marked : state.stage = .marked) :
    Progress request before accepts writeError?
      { state with
        plugin := Replacement.finish state.plugin state.replacement
        stage := .finished } where
  plan := progress.plan
  slots := (progress.slots.rebuild false).congr rfl rfl rfl
  kinds := progress.kinds
  copied := progress.copied
  suspended := fun _ unfinished => absurd rfl unfinished
  unstarted := nofun
  captured := nofun
  deleted_iff := fun _ => progress.deleted_iff (marked ▸ rfl)
  rebound_iff := fun _ => progress.rebound_iff (marked ▸ rfl)
  exhausted := fun _ => progress.exhausted (marked ▸ rfl)
  free := by
    intro _ pair listed
    rw [progress.exhausted (marked ▸ rfl)] at listed
    cases listed
  reports := progress.reports
  once := progress.once
  unmarked := nofun
  marked := fun _ => progress.marked (marked ▸ rfl)

theorem ofPlan (granted : Granted request before) (pastCheck : List NodeId)
    {copies : List (DeviceId × IndigoDevice)} (copied : before.Copied copies) :
    Progress request before accepts writeError?
      (ReplaceRun.ofPlan request before pastCheck copies) where
  plan := rfl
  slots := SlotsKept.ofSettled granted.settled request.oldNode request.newNode
  kinds := fun _ _ => rfl
  copied := copied
  suspended := fun begun => absurd rfl begun
  unstarted := fun _ => ⟨rfl, rfl, rfl⟩
  captured := nofun
  deleted_iff := nofun
  rebound_iff := nofun
  exhausted := nofun
  free := nofun
  reports := nofun
  once := List.nodup_nil
  unmarked := fun _ => ⟨rfl, rfl⟩
  marked := nofun

end Progress

theorem progress_step {next : ReplaceRun} {event : ReplaceEvent}
    (progress : Progress request before accepts writeError? state) (granted : Granted request before)
    (undisturbed : Undisturbed accepts writeError? state event)
    (taken : step accepts writeError? state event = some next) :
    Progress request before accepts writeError? next := by
  cases event with
  | passStarts nodeId =>
      simp only [step] at taken
      split at taken
      · cases taken
      · obtain rfl := Option.some.inj taken
        exact progress.besides progress.slots (fun _ _ => rfl) progress.copied rfl
          (fun _ _ _ _ claims => claims) rfl rfl (fun _ pending => ⟨pending, id⟩) progress.once
  | passCreates node creates =>
      simp only [step] at taken
      split at taken
      · obtain rfl := Option.some.inj taken
        exact progress.passCreates granted undisturbed
      · cases taken
  | propsRead device =>
      simp only [step] at taken
      split at taken
      · cases taken
      · rename_i record there
        obtain rfl := Option.some.inj taken
        have copied : state.plugin.Copied ((device, record) :: state.copies) := by
          intro entry held
          rcases List.mem_cons.mp held with rfl | earlier
          · refine ⟨progress.slots.existing_lt _ (InsertionMap.mem_keys_iff.mpr ⟨record, there⟩), ?_⟩
            intro other stored
            rw [Option.some.inj (there.symm.trans stored)]
            exact ⟨rfl, rfl⟩
          · exact progress.copied entry earlier
        exact progress.besides progress.slots (fun _ _ => rfl) copied rfl
          (fun _ _ _ _ claims => claims) rfl rfl (fun _ pending => ⟨pending, id⟩) progress.once
  | propsWritten device copy additions =>
      simp only [step] at taken
      split at taken
      · rename_i held
        split at taken
        · obtain rfl := Option.some.inj taken
          have copied : state.plugin.Copied (state.copies.erase (device, copy)) :=
            fun entry stillHeld => progress.copied entry (List.mem_of_mem_erase stillHeld)
          exact progress.besides progress.slots (fun _ _ => rfl) copied rfl
            (fun _ _ _ _ claims => claims) rfl rfl (fun _ pending => ⟨pending, id⟩) progress.once
        · rename_i record there
          obtain rfl := Option.some.inj taken
          exact progress.propsWritten held there undisturbed
      · cases taken
  | indexRebuilt =>
      obtain rfl := Option.some.inj taken
      exact progress.besides (progress.slots.rebuild _) (fun _ _ => rfl) progress.copied rfl
        (fun _ _ _ _ claims => claims) rfl rfl (fun _ pending => ⟨pending, id⟩) progress.once
  | deviceStarted device =>
      simp only [step] at taken
      split at taken
      · cases taken
      · rename_i record there
        obtain rfl := Option.some.inj taken
        exact progress.besides (progress.slots.deviceStarted there) (fun _ _ => rfl) progress.copied
          rfl (fun _ _ _ _ claims => claims) rfl rfl (fun _ pending => ⟨pending, id⟩) progress.once
  | reported device =>
      simp only [step] at taken
      split at taken
      · cases taken
      · rename_i deletion found
        obtain rfl := Option.some.inj taken
        exact progress.reported found
  | begin =>
      simp only [step] at taken
      split at taken
      · rename_i planned
        obtain rfl := Option.some.inj taken
        exact progress.begin granted planned
      · cases taken
  | deleteDuplicates =>
      simp only [step] at taken
      split at taken
      · rename_i begun
        obtain rfl := Option.some.inj taken
        exact progress.deleteDuplicates granted begun
      · cases taken
  | rebindNext =>
      simp only [step] at taken
      split at taken
      · rename_i enabled
        obtain rfl := Option.some.inj taken
        simp only [Bool.and_eq_true, decide_eq_true_eq, Bool.not_eq_true'] at enabled
        rcases List.exists_cons_of_ne_nil (List.isEmpty_eq_false_iff.mp enabled.2) with
          ⟨pair, rest, remaining⟩
        exact progress.rebindNext granted enabled.1 remaining
      · cases taken
  | leaveMarks =>
      simp only [step] at taken
      split at taken
      · rename_i enabled
        obtain rfl := Option.some.inj taken
        simp only [Bool.and_eq_true, decide_eq_true_eq] at enabled
        exact progress.leaveMarks enabled.1 (List.isEmpty_iff.mp enabled.2) undisturbed
      · cases taken
  | finish =>
      simp only [step] at taken
      split at taken
      · rename_i marked
        obtain rfl := Option.some.inj taken
        exact progress.finish marked
      · cases taken

/-! ## A replacement loses and doubles no device -/

/-- No device of the old node is deleted; a rebound one is on the new node, with its
endpoint and type, and alone in its slot; the others are as they were, but for what
passes wrote to them; no slot has two devices, and none has taken a slot that a rebound
device left; and the marks are those of a replacement that moved something, or none. -/
structure ReplacesSafely (request : ReplaceRequest) (before : PluginWorld) (state : ReplaceRun) :
    Prop where
  undeleted : ∀ device record, before.indigo.get? device = some record →
    record.nodeId = some request.oldNode → device ∈ state.plugin.indigo.keys
  rebound : ∀ device ∈ state.replacement.rebound, ∃ endpointId typeId,
    before.Claims device request.oldNode endpointId typeId ∧
      state.plugin.Claims device request.newNode endpointId typeId ∧
      (∀ other, state.plugin.Claims other request.newNode endpointId typeId → other = device) ∧
      ∀ other, ¬state.plugin.Claims other request.oldNode endpointId typeId
  kept : ∀ device record, before.indigo.get? device = some record →
    record.nodeId = some request.oldNode → device ∉ state.replacement.rebound →
      state.plugin.indigo.get? device = state.original.get? device
  noSecond : ∀ device other nodeId endpointId typeId,
    state.plugin.Claims device nodeId endpointId typeId →
      state.plugin.Claims other nodeId endpointId typeId → device = other
  retired : state.stage = .finished → (request.oldNode ∈ state.plugin.retiredNodes ↔
    request.oldNode ∈ before.retiredNodes ∨ state.replacement.rebound ≠ [])
  noMarks : state.replacement.rebound = [] →
    state.plugin.nodeTombstones = before.nodeTombstones ∧
      state.plugin.retiredNodes = before.retiredNodes

/-- A device of the old node is none of the duplicates. -/
theorem Progress.undeleted_of_old (progress : Progress request before accepts writeError? state)
    (granted : Granted request before) {device : DeviceId} {record : IndigoDevice}
    (there : before.indigo.get? device = some record) (atOld : record.nodeId = some request.oldNode) :
    device ∉ state.replacement.deleted.map Prod.fst := by
  intro deleted
  have past : state.stage.pastDeletions = true := by
    rw [← Bool.not_eq_false]
    intro early
    rw [(progress.unstarted early).1] at deleted
    cases deleted
  rcases mem_duplicates.mp ((progress.deleted_iff past device).mp deleted).1 with ⟨ref, listed, rfl⟩
  have atNew := granted.claims_of_ref ((newDevices_planOnly granted.settled.placed request.names
    request.oldNode request.newNode).1 ref listed)
  rcases atNew with ⟨found, foundThere, place, _⟩
  obtain rfl := Option.some.inj (there.symm.trans foundThere)
  rw [(IndigoDevice.location?_eq_some.mp place).1] at atOld
  exact granted.apart (Option.some.inj atOld).symm

theorem Progress.safely_replaced (progress : Progress request before accepts writeError? state)
    (granted : Granted request before) : state.ReplacesSafely request before where
  undeleted := by
    intro device record there atOld
    by_cases isRebound : device ∈ state.replacement.rebound
    · rcases progress.slots.moved_to device isRebound with ⟨_, now, _, _, stored, _⟩
      exact InsertionMap.mem_keys_iff.mpr ⟨now, stored⟩
    · have old := granted.settled.existing_lt _ (InsertionMap.mem_keys_iff.mpr ⟨record, there⟩)
      have same := progress.kinds device old
      rw [← progress.slots.unchanged device old (progress.undeleted_of_old granted there atOld)
        isRebound, there] at same
      rcases Option.map_eq_some_iff.mp same with ⟨now, stored, _⟩
      exact InsertionMap.mem_keys_iff.mpr ⟨now, stored⟩
  rebound := by
    intro device isRebound
    rcases progress.moved_slot granted isRebound with ⟨pair, _, _, was, claims_iff⟩
    have claims := (claims_iff _ _).mpr ⟨rfl, rfl⟩
    refine ⟨pair.1.endpointId, pair.1.typeId, was, claims, ?_, ?_⟩
    · intro other otherClaims
      exact progress.slots.unique _ _ _ _ _ otherClaims claims
    · exact progress.slots.vacated device isRebound _ _ claims
  kept := by
    intro device record there atOld unmoved
    have old := granted.settled.existing_lt _ (InsertionMap.mem_keys_iff.mpr ⟨record, there⟩)
    exact progress.slots.unchanged device old (progress.undeleted_of_old granted there atOld) unmoved
  noSecond := progress.slots.unique
  retired := fun finished => (progress.marked (finished ▸ rfl)).2
  noMarks := by
    intro none
    cases past : state.stage.pastMarks with
    | false => exact progress.unmarked past
    | true => exact (progress.marked past).1 none

/-- In every run whose steps are undisturbed, a replacement the planner does not refuse
loses and doubles no device. -/
theorem replacesSafely {final : ReplaceRun} {events : List ReplaceEvent} (settled : before.Settled)
    (unrefused : request.refusals before = []) (pastCheck : List NodeId)
    {copies : List (DeviceId × IndigoDevice)} (copied : before.Copied copies)
    (run : RunWhere (step accepts writeError?) (Undisturbed accepts writeError?)
      (ofPlan request before pastCheck copies) events final) :
    final.ReplacesSafely request before := by
  have granted : Granted request before := ⟨settled, unrefused⟩
  have progress : Progress request before accepts writeError? final := by
    apply run.invariant (Progress.ofPlan granted pastCheck copied)
    intro state event next holds undisturbed taken
    exact progress_step holds granted undisturbed taken
  exact progress.safely_replaced granted

/-- A lamp that was reset and paired again: once with its old node's device, once with
that deleted by the user. -/
def lampDevicesTwice (withNodeDevice : Bool) : IndigoDevices :=
  .ofList ((if withNodeDevice then [(10, ⟨"matterNode", some 5, some 0, ∅⟩)] else []) ++
    [(11, ⟨"matterRelay", some 5, some 1, ∅⟩), (20, ⟨"matterNode", some 6, some 0, ∅⟩),
      (21, ⟨"matterRelay", some 6, some 1, ∅⟩)])

/-- The plugin with the lamp on both its nodes. -/
def lampTwice (withNodeDevice : Bool) : PluginWorld where
  indigo := lampDevicesTwice withNodeDevice
  nextId := 30
  sync := { startedSync with index := rebuildIndex (lampDevicesTwice withNodeDevice) }
  nodeTombstones := if withNodeDevice then [] else [5]
  retiredNodes := []
  creationSuspended := []
  selfDeletedIds := []
  effects := []

/-- The request to keep the devices of node 5 for node 6. -/
def keepLamp : ReplaceRequest where
  oldNode := 5
  newNode := 6
  names := fun _ => "lamp"
  allowMismatch := false
  exportedIds := []
  references := fun _ => []
  referenceErrors := fun _ => none

/-- What the controller reports of the lamp on its old node. -/
def oldLamp : List (String × PyJson) :=
  [("node_id", .int 5), ("available", .bool true),
    ("attributes", .dict [("0/40/65531", .list [.int 5, .int 10]), ("1/6/0", .bool true)])]

/-- Indigo refuses nothing. -/
abbrev agreeing : LabelledStep ReplaceRun ReplaceEvent := step (fun _ => true) fun _ => none

theorem lampTwice_settled (withNodeDevice : Bool) : (lampTwice withNodeDevice).Settled := by
  have rebuilt : lampTwice withNodeDevice = (lampTwice withNodeDevice).rebuild := rfl
  rw [rebuilt]
  apply PluginWorld.settled_rebuild
  · cases withNodeDevice <;> decide
  · rintro device other nodeId endpointId typeId ⟨first, there, place, kind⟩
      ⟨second, otherThere, otherPlace, otherKind⟩
    have apart : ∀ one ∈ (lampTwice withNodeDevice).indigo.entries,
        ∀ two ∈ (lampTwice withNodeDevice).indigo.entries,
          one.2.location? = two.2.location? → one.1 = two.1 := by
      cases withNodeDevice <;> decide
    exact apart _ (InsertionMap.mem_entries_iff.mpr there) _ (InsertionMap.mem_entries_iff.mpr otherThere)
      (place.trans otherPlace.symm)
  · rintro device nodeId endpointId ⟨record, there, place, kind⟩
    have atRoot : ∀ entry ∈ (lampTwice withNodeDevice).indigo.entries,
        entry.2.typeId = "matterNode" → entry.2.endpointId = some 0 := by
      cases withNodeDevice <;> decide
    have named := (IndigoDevice.location?_eq_some.mp place).2
    rw [atRoot _ (InsertionMap.mem_entries_iff.mpr there) kind] at named
    exact (Option.some.inj named).symm

/-- A pass over the old node in the middle, and restarts and reports between the steps. -/
def interleaved : List ReplaceEvent :=
  [.propsRead 10, .begin, .propsWritten 10 ⟨"matterNode", some 5, some 0, ∅⟩ [("nodeBaseName", "Lamp")],
    .deleteDuplicates, .rebindNext, .passStarts 5,
    .passCreates ((parseNode? oldLamp).get rfl) fun _ _ => true, .rebindNext, .deviceStarted 11,
    .reported 20, .leaveMarks, .finish, .indexRebuilt, .reported 21]

theorem replacesSafely_interleaved :
    ∃ final, follow agreeing (Undisturbed (fun _ => true) fun _ => none)
        (ofPlan keepLamp (lampTwice true) [] []) interleaved = some final ∧
      final.stage = .finished ∧ final.replacement.rebound = [10, 11] ∧
      final.ReplacesSafely keepLamp (lampTwice true) := by
  have followed : ∃ final, follow agreeing (Undisturbed (fun _ => true) fun _ => none)
      (ofPlan keepLamp (lampTwice true) [] []) interleaved = some final ∧
        final.stage = .finished ∧ final.replacement.rebound = [10, 11] :=
    ⟨_, rfl, by decide, by decide⟩
  rcases followed with ⟨final, followed, finished, rebound⟩
  have copied : (lampTwice true).Copied [] := by
    intro entry held
    cases held
  exact ⟨final, followed, finished, rebound,
    replacesSafely (lampTwice_settled true) (by decide) [] copied (runWhere_of_follow followed)⟩

/-- The steps of the replacement, with others after it has moved both pairs. -/
def disturbedBy (events : List ReplaceEvent) : List ReplaceEvent :=
  [.propsRead 11, .begin, .deleteDuplicates, .rebindNext, .rebindNext] ++ events ++ [.leaveMarks, .finish]

/-- Three replacements go wrong.  Indigo refuses to delete the lamp's relay, and the new
node's device goes with nothing rebound: a tombstone is left.  A pass rebuilds the index
and creates the devices of the old node anew before the node is retired.  A pass writes
back the properties it read before the relay moved. -/
theorem replacement_disturbed :
    (∃ final, Run (step (fun device => device != 21) fun _ => none)
        (ofPlan keepLamp (lampTwice false) [] [])
        [.begin, .deleteDuplicates, .rebindNext, .leaveMarks, .finish] final ∧
      final.replacement.rebound = [] ∧ final.plugin.nodeTombstones = [5, 6] ∧
      ¬final.ReplacesSafely keepLamp (lampTwice false)) ∧
    (∃ final, Run agreeing (ofPlan keepLamp (lampTwice true) [] [])
        (disturbedBy [.indexRebuilt, .passStarts 5,
          .passCreates ((parseNode? oldLamp).get rfl) fun _ _ => true]) final ∧
      final.plugin.indigo.keys = [10, 11, 30, 31] ∧
      ¬final.ReplacesSafely keepLamp (lampTwice true)) ∧
    (∃ final, Run agreeing (ofPlan keepLamp (lampTwice true) [] [])
        (disturbedBy [.propsWritten 11 ⟨"matterRelay", some 5, some 1, ∅⟩ []]) final ∧
      11 ∈ final.replacement.rebound ∧
      (final.plugin.indigo.get? 11).bind (·.nodeId) = some 5 ∧
      ¬final.ReplacesSafely keepLamp (lampTwice true)) := by
  refine ⟨?_, ?_, ?_⟩
  · have followed : ∃ final, follow (step (fun device => device != 21) fun _ => none)
        (fun _ _ => True) (ofPlan keepLamp (lampTwice false) [] [])
        [.begin, .deleteDuplicates, .rebindNext, .leaveMarks, .finish] = some final ∧
          final.replacement.rebound = [] ∧ final.plugin.nodeTombstones = [5, 6] :=
      ⟨_, rfl, by decide, by decide⟩
    rcases followed with ⟨final, followed, none, marked⟩
    refine ⟨final, runWhere_of_follow followed, none, marked, ?_⟩
    intro safely
    have unmarked := (safely.noMarks none).1
    rw [marked] at unmarked
    cases unmarked
  · have followed : ∃ final, follow agreeing (fun _ _ => True) (ofPlan keepLamp (lampTwice true) [] [])
        (disturbedBy [.indexRebuilt, .passStarts 5,
          .passCreates ((parseNode? oldLamp).get rfl) fun _ _ => true]) = some final ∧
          final.plugin.indigo.keys = [10, 11, 30, 31] ∧ 11 ∈ final.replacement.rebound ∧
          (lampTwice true).indigo.get? 11 = some ⟨"matterRelay", some 5, some 1, ∅⟩ ∧
          (final.plugin.indigo.get? 31).map (·.kind) = some ("matterRelay", some 5, some 1) :=
      ⟨_, rfl, by decide, by decide, by decide, by decide⟩
    rcases followed with ⟨final, followed, devices, isRebound, original, duplicate⟩
    refine ⟨final, runWhere_of_follow followed, devices, ?_⟩
    intro safely
    rcases safely.rebound 11 isRebound with ⟨endpointId, typeId, ⟨record, there, place, kind⟩, _, _, left⟩
    obtain rfl := Option.some.inj (original.symm.trans there)
    rcases Option.map_eq_some_iff.mp duplicate with ⟨second, stored, sameKind⟩
    simp only [IndigoDevice.kind, Prod.mk.injEq] at sameKind
    apply left 31
    refine ⟨second, stored, ?_, sameKind.1.trans kind⟩
    rw [← place]
    simp only [IndigoDevice.location?, sameKind.2]
  · have followed : ∃ final, follow agreeing (fun _ _ => True) (ofPlan keepLamp (lampTwice true) [] [])
        (disturbedBy [.propsWritten 11 ⟨"matterRelay", some 5, some 1, ∅⟩ []]) = some final ∧
          11 ∈ final.replacement.rebound ∧
          (final.plugin.indigo.get? 11).bind (·.nodeId) = some 5 :=
      ⟨_, rfl, by decide, by decide⟩
    rcases followed with ⟨final, followed, isRebound, atOld⟩
    refine ⟨final, runWhere_of_follow followed, isRebound, atOld, ?_⟩
    intro safely
    rcases safely.rebound 11 isRebound with ⟨endpointId, typeId, _, ⟨record, stored, place, _⟩, _⟩
    rw [stored] at atOld
    have atNew := (IndigoDevice.location?_eq_some.mp place).1
    rw [Option.bind_some, atNew] at atOld
    exact absurd (Option.some.inj atOld) (by decide)

end ReplaceRun

end IndigoMatter.Plugin
