import IndigoMatter.Plugin.NodeReplacement

/-!
# The slots of two nodes while one replaces the other

A device claims the slot of its node, endpoint and type.  A replacement deletes
claimants on the new node and moves claimants of the old one into the slots they
leave.  Between its steps other passes create devices where the index shows an empty
slot, so what matters is how far the index still tells who claims what.
-/

namespace IndigoMatter.Plugin

open IndigoMatter.Library

/-- The device exists and belongs in the slot. -/
def PluginWorld.Claims (world : PluginWorld) (device : DeviceId) (nodeId : NodeId)
    (endpointId : EndpointId) (typeId : TypeId) : Prop :=
  ∃ record, world.indigo.get? device = some record ∧
    record.location? = some (nodeId, endpointId) ∧ record.typeId = typeId

theorem IndigoDevice.location?_eq_some {record : IndigoDevice} {nodeId : NodeId}
    {endpointId : EndpointId} :
    record.location? = some (nodeId, endpointId) ↔
      record.nodeId = some nodeId ∧ record.endpointId = some endpointId := by
  rcases record with ⟨typeId, _ | ownNode, _ | ownEndpoint, otherProps⟩ <;>
    simp [IndigoDevice.location?]

@[simp]
theorem reboundProps_nodeId (record : IndigoDevice) (newNode : NodeId) (version : Option String) :
    (reboundProps record newNode version).nodeId = some newNode := rfl

@[simp]
theorem reboundProps_endpointId (record : IndigoDevice) (newNode : NodeId) (version : Option String) :
    (reboundProps record newNode version).endpointId = record.endpointId := rfl

@[simp]
theorem reboundProps_typeId (record : IndigoDevice) (newNode : NodeId) (version : Option String) :
    (reboundProps record newNode version).typeId = record.typeId := rfl

/-- A rebuilt index tells who claims a slot, where no two devices claim it. -/
theorem get?_rebuildIndex_of_claims {world : PluginWorld} {device : DeviceId} {nodeId : NodeId}
    {endpointId : EndpointId} {typeId : TypeId} (claims : world.Claims device nodeId endpointId typeId)
    (unique : ∀ other, world.Claims other nodeId endpointId typeId → other = device) :
    ((rebuildIndex world.indigo).typeMap nodeId endpointId).get? typeId = some device := by
  rcases claims with ⟨record, there, place, kind⟩
  rw [get?_rebuildIndex]
  have member : (device, record) ∈
      world.indigo.entries.filter (isAt nodeId endpointId typeId) := by
    rw [List.mem_filter]
    exact ⟨InsertionMap.mem_entries_iff.mpr there, by simp [isAt, place, kind]⟩
  cases last : (world.indigo.entries.filter (isAt nodeId endpointId typeId)).getLast? with
  | none =>
      rw [List.getLast?_eq_none_iff.mp last] at member
      cases member
  | some entry =>
      rcases entry with ⟨other, otherRecord⟩
      have listed := List.mem_filter.mp (List.mem_of_getLast? last)
      simp only [isAt, Bool.and_eq_true, decide_eq_true_eq] at listed
      rw [unique other ⟨otherRecord, InsertionMap.mem_entries_iff.mp listed.1, listed.2.1, listed.2.2⟩]
      rfl

/-- The devices since a replacement of a node by another began.  The original ones are
as they were, but for the deleted and the moved; every slot has one claimant at most; and
while devices are on the move the index may still have a moved one in the slot it left. -/
structure SlotsKept (original : IndigoDevices) (firstNew : DeviceId) (oldNode newNode : NodeId)
    (deleted moved : List DeviceId) (onTheMove : Bool) (world : PluginWorld) : Prop where
  nextId_le : firstNew ≤ world.nextId
  existing_lt : ∀ device ∈ world.indigo.keys, device < world.nextId
  indexed_lt : ∀ nodeId endpointId typeId device,
    (world.sync.index.typeMap nodeId endpointId).get? typeId = some device → device < world.nextId
  deleted_gone : ∀ device ∈ deleted, world.indigo.get? device = none
  deleted_lt : ∀ device ∈ deleted, device < firstNew
  moved_to : ∀ device ∈ moved, ∃ first record, original.get? device = some first ∧
    first.nodeId = some oldNode ∧ world.indigo.get? device = some record ∧
      record.nodeId = some newNode ∧ record.endpointId = first.endpointId ∧
        record.typeId = first.typeId
  unchanged : ∀ device < firstNew, device ∉ deleted → device ∉ moved →
    world.indigo.get? device = original.get? device
  unique : ∀ device other nodeId endpointId typeId, world.Claims device nodeId endpointId typeId →
    world.Claims other nodeId endpointId typeId → device = other
  covers : ∀ device nodeId endpointId typeId, world.Claims device nodeId endpointId typeId →
    (world.sync.index.typeMap nodeId endpointId).get? typeId = some device ∨
      (device ∈ moved ∧ onTheMove = true)
  placed : ∀ nodeId endpointId typeId device,
    (world.sync.index.typeMap nodeId endpointId).get? typeId = some device →
      device ∈ world.indigo.keys → world.Claims device nodeId endpointId typeId ∨
        (device ∈ moved ∧ onTheMove = true ∧ nodeId = oldNode ∧
          world.Claims device newNode endpointId typeId)
  vacated : ∀ device ∈ moved, ∀ endpointId typeId, world.Claims device newNode endpointId typeId →
    ∀ other, ¬world.Claims other oldNode endpointId typeId

/-- Every device is indexed in the slot it claims, nothing else is indexed but devices
that are gone, a node's own device is on its root endpoint, and Indigo does not reuse an
id. -/
structure PluginWorld.Settled (world : PluginWorld) : Prop where
  existing_lt : ∀ device ∈ world.indigo.keys, device < world.nextId
  indexed_lt : ∀ nodeId endpointId typeId device,
    (world.sync.index.typeMap nodeId endpointId).get? typeId = some device → device < world.nextId
  covers : ∀ device nodeId endpointId typeId, world.Claims device nodeId endpointId typeId →
    (world.sync.index.typeMap nodeId endpointId).get? typeId = some device
  placed : world.Placed
  root : ∀ device nodeId endpointId, world.Claims device nodeId endpointId "matterNode" → endpointId = 0

/-- Rebuilding the index settles it, where no two devices claim one slot. -/
theorem PluginWorld.settled_rebuild {world : PluginWorld}
    (existing : ∀ device ∈ world.indigo.keys, device < world.nextId)
    (unique : ∀ device other nodeId endpointId typeId, world.Claims device nodeId endpointId typeId →
      world.Claims other nodeId endpointId typeId → device = other)
    (root : ∀ device nodeId endpointId, world.Claims device nodeId endpointId "matterNode" →
      endpointId = 0) :
    world.rebuild.Settled where
  existing_lt := existing
  indexed_lt := by
    intro nodeId endpointId typeId device stored
    rcases located_rebuildIndex world.indigo _ _ _ _ stored with ⟨record, there, _⟩
    exact existing device (InsertionMap.mem_keys_iff.mpr ⟨record, there⟩)
  covers := by
    intro device nodeId endpointId typeId claims
    exact get?_rebuildIndex_of_claims claims fun other otherClaims =>
      unique _ _ _ _ _ otherClaims claims
  root := root
  placed := by
    intro nodeId endpointId typeId device record stored there
    rcases located_rebuildIndex world.indigo _ _ _ _ stored with ⟨found, foundThere, place⟩
    obtain rfl := Option.some.inj (there.symm.trans foundThere)
    exact place

namespace SlotsKept

variable {original : IndigoDevices} {firstNew : DeviceId} {oldNode newNode : NodeId}
  {deleted moved : List DeviceId} {onTheMove : Bool} {world : PluginWorld}

theorem ofSettled {before : PluginWorld} (settled : before.Settled) (oldNode newNode : NodeId) :
    SlotsKept before.indigo before.nextId oldNode newNode [] [] true before where
  nextId_le := le_rfl
  existing_lt := settled.existing_lt
  indexed_lt := settled.indexed_lt
  deleted_gone := nofun
  deleted_lt := nofun
  moved_to := nofun
  unchanged := fun _ _ _ _ => rfl
  unique := by
    intro device other nodeId endpointId typeId first second
    have stored := settled.covers _ _ _ _ first
    rw [settled.covers _ _ _ _ second] at stored
    exact (Option.some.inj stored).symm
  covers := fun device nodeId endpointId typeId claims =>
    .inl (settled.covers device nodeId endpointId typeId claims)
  placed := by
    intro nodeId endpointId typeId device stored there
    rcases InsertionMap.mem_keys_iff.mp there with ⟨record, found⟩
    exact .inl ⟨record, found, settled.placed _ _ _ _ _ stored found⟩
  vacated := nofun

/-- Only what Indigo has, the index and the next id matter. -/
theorem congr (kept : SlotsKept original firstNew oldNode newNode deleted moved onTheMove world)
    {other : PluginWorld} (sameIndigo : other.indigo = world.indigo)
    (sameNextId : other.nextId = world.nextId) (sameIndex : other.sync.index = world.sync.index) :
    SlotsKept original firstNew oldNode newNode deleted moved onTheMove other := by
  have sameClaims : other.Claims = world.Claims := by
    unfold PluginWorld.Claims
    rw [sameIndigo]
  constructor
  · exact sameNextId ▸ kept.nextId_le
  · rw [sameIndigo, sameNextId]
    exact kept.existing_lt
  · rw [sameIndex, sameNextId]
    exact kept.indexed_lt
  · rw [sameIndigo]
    exact kept.deleted_gone
  · exact kept.deleted_lt
  · rw [sameIndigo]
    exact kept.moved_to
  · rw [sameIndigo]
    exact kept.unchanged
  · rw [sameClaims]
    exact kept.unique
  · rw [sameClaims, sameIndex]
    exact kept.covers
  · rw [sameClaims, sameIndex, sameIndigo]
    exact kept.placed
  · rw [sameClaims]
    exact kept.vacated

/-- A device that is new claims one slot, and the others claim what they did. -/
theorem claims_create {nodeId : NodeId} {endpointId : EndpointId} {typeId : TypeId}
    {node : NodeInfo} {pass : PrimePass}
    (kept : SlotsKept original firstNew oldNode newNode deleted moved onTheMove world)
    {device : DeviceId} {otherNode : NodeId} {otherEndpoint : EndpointId} {otherType : TypeId} :
    ((world.create nodeId endpointId typeId).prime node pass).Claims device otherNode otherEndpoint
        otherType ↔
      world.Claims device otherNode otherEndpoint otherType ∨
        (device = world.nextId ∧ otherNode = nodeId ∧ otherEndpoint = endpointId ∧
          otherType = typeId) := by
  have unused : world.indigo.get? world.nextId = none := by
    apply InsertionMap.get?_eq_none_iff.mpr
    intro there
    exact lt_irrefl _ (kept.existing_lt _ there)
  simp only [PluginWorld.Claims, PluginWorld.prime, PluginWorld.note, PluginWorld.create,
    InsertionMap.get?_set]
  by_cases new : device = world.nextId
  · subst new
    simp only [if_true, unused, Option.some.injEq, exists_eq_left', false_and, exists_false,
      false_or, true_and, IndigoDevice.location?_eq_some, reduceCtorEq]
    constructor
    · rintro ⟨⟨rfl, rfl⟩, rfl⟩
      exact ⟨rfl, rfl, rfl⟩
    · rintro ⟨rfl, rfl, rfl⟩
      exact ⟨⟨rfl, rfl⟩, rfl⟩
  · simp [new]

/-- A pass that creates a device in a slot the index shows empty keeps the slots, unless
the slot is one a moved device has come to or has left. -/
theorem create {node : NodeInfo} {endpointId : EndpointId} {typeId : TypeId} {pass : PrimePass}
    (kept : SlotsKept original firstNew oldNode newNode deleted moved onTheMove world)
    (isEmpty : (world.sync.index.typeMap node.nodeId endpointId).get? typeId = none)
    (arrived : node.nodeId = newNode → moved = [] ∨ onTheMove = false)
    (left : node.nodeId = oldNode → ∀ device ∈ moved, ¬world.Claims device newNode endpointId typeId) :
    SlotsKept original firstNew oldNode newNode deleted moved onTheMove
      ((world.create node.nodeId endpointId typeId).prime node pass) := by
  have unclaimed : ∀ device, ¬world.Claims device node.nodeId endpointId typeId := by
    intro device claims
    rcases kept.covers _ _ _ _ claims with stored | ⟨isMoved, moving⟩
    · rw [isEmpty] at stored
      cases stored
    · rcases kept.moved_to device isMoved with ⟨_, record, _, _, there, atNew, _⟩
      rcases claims with ⟨found, same, place, _⟩
      obtain rfl := Option.some.inj (there.symm.trans same)
      have here := (IndigoDevice.location?_eq_some.mp place).1
      rw [atNew] at here
      rcases arrived (Option.some.inj here).symm with none | settled
      · rw [none] at isMoved
        cases isMoved
      · rw [settled] at moving
        cases moving
  have older : ∀ device, device < world.nextId →
      ((world.create node.nodeId endpointId typeId).prime node pass).indigo.get? device =
        world.indigo.get? device := by
    intro device old
    simp [PluginWorld.prime, PluginWorld.note, PluginWorld.create, old.ne]
  have claims_iff := fun device otherNode otherEndpoint otherType =>
    @claims_create original firstNew oldNode newNode deleted moved onTheMove world node.nodeId
      endpointId typeId node pass kept device otherNode otherEndpoint otherType
  have slots : ∀ otherNode otherEndpoint otherType,
      (((world.create node.nodeId endpointId typeId).prime node pass).sync.index.typeMap otherNode
        otherEndpoint).get? otherType =
      if otherNode = node.nodeId ∧ otherEndpoint = endpointId ∧ otherType = typeId then
        some world.nextId
      else (world.sync.index.typeMap otherNode otherEndpoint).get? otherType :=
    PluginWorld.get?_create world node.nodeId endpointId typeId
  constructor
  · exact kept.nextId_le.trans (Nat.le_succ _)
  · intro device there
    rcases InsertionMap.mem_keys_set.mp there with rfl | earlier
    · exact Nat.lt_succ_self _
    · exact (kept.existing_lt _ earlier).trans (Nat.lt_succ_self _)
  · intro otherNode otherEndpoint otherType device stored
    rw [slots] at stored
    split at stored
    · rw [← Option.some.inj stored]
      exact Nat.lt_succ_self _
    · exact (kept.indexed_lt _ _ _ _ stored).trans (Nat.lt_succ_self _)
  · intro device gone
    rw [older _ ((kept.deleted_lt _ gone).trans_le kept.nextId_le)]
    exact kept.deleted_gone device gone
  · exact kept.deleted_lt
  · intro device isMoved
    rcases kept.moved_to device isMoved with ⟨first, record, wasThere, fromOld, there, arrived⟩
    refine ⟨first, record, wasThere, fromOld, ?_, arrived⟩
    rw [older _ (kept.existing_lt _ (InsertionMap.mem_keys_iff.mpr ⟨_, there⟩)), there]
  · intro device old undeleted unmoved
    rw [older _ (old.trans_le kept.nextId_le)]
    exact kept.unchanged device old undeleted unmoved
  · intro device other otherNode otherEndpoint otherType first second
    rw [claims_iff] at first second
    rcases first with first | ⟨rfl, rfl, rfl, rfl⟩
    · rcases second with second | ⟨_, rfl, rfl, rfl⟩
      · exact kept.unique _ _ _ _ _ first second
      · exact absurd first (unclaimed _)
    · rcases second with second | ⟨rfl, _⟩
      · exact absurd second (unclaimed _)
      · rfl
  · intro device otherNode otherEndpoint otherType claims
    rw [slots]
    rcases (claims_iff _ _ _ _).mp claims with earlier | ⟨rfl, rfl, rfl, rfl⟩
    · rw [if_neg]
      · exact kept.covers _ _ _ _ earlier
      · rintro ⟨rfl, rfl, rfl⟩
        exact unclaimed _ earlier
    · simp
  · intro otherNode otherEndpoint otherType device stored there
    simp only [claims_iff]
    rw [slots] at stored
    split at stored
    · rename_i here
      exact .inl (.inr ⟨(Option.some.inj stored).symm, here⟩)
    · have earlier : device ∈ world.indigo.keys := by
        have old := older device (kept.indexed_lt _ _ _ _ stored)
        rcases InsertionMap.mem_keys_iff.mp there with ⟨record, found⟩
        rw [old] at found
        exact InsertionMap.mem_keys_iff.mpr ⟨record, found⟩
      rcases kept.placed _ _ _ _ stored earlier with claims | ⟨isMoved, moving, atOld, claims⟩
      · exact .inl (.inl claims)
      · exact .inr ⟨isMoved, moving, atOld, .inl claims⟩
  · intro device isMoved otherEndpoint otherType claims other
    have wasThere : world.Claims device newNode otherEndpoint otherType := by
      rcases (claims_iff _ _ _ _).mp claims with earlier | ⟨rfl, _⟩
      · exact earlier
      · rcases kept.moved_to _ isMoved with ⟨_, _, _, _, there, _⟩
        exact absurd (kept.existing_lt _ (InsertionMap.mem_keys_iff.mpr ⟨_, there⟩)) (lt_irrefl _)
    rw [claims_iff]
    rintro (otherClaims | ⟨_, atOld, rfl, rfl⟩)
    · exact kept.vacated device isMoved _ _ wasThere other otherClaims
    · exact left atOld.symm device isMoved wasThere

/-- An index in which every other slot is as it was, and the changed ones tell who
claims them, keeps the slots. -/
theorem reindex (kept : SlotsKept original firstNew oldNode newNode deleted moved onTheMove world)
    {index : DeviceIndex} {still : Bool}
    (located : ∀ nodeId endpointId typeId device,
      (index.typeMap nodeId endpointId).get? typeId = some device →
        (still = onTheMove ∧
          (world.sync.index.typeMap nodeId endpointId).get? typeId = some device) ∨
          world.Claims device nodeId endpointId typeId)
    (claimed : ∀ device nodeId endpointId typeId, world.Claims device nodeId endpointId typeId →
      (index.typeMap nodeId endpointId).get? typeId = some device ∨
        (still = onTheMove ∧ (index.typeMap nodeId endpointId).get? typeId =
          (world.sync.index.typeMap nodeId endpointId).get? typeId)) :
    SlotsKept original firstNew oldNode newNode deleted moved still
      { world with sync := { world.sync with index } } where
  nextId_le := kept.nextId_le
  existing_lt := kept.existing_lt
  indexed_lt := by
    intro nodeId endpointId typeId device stored
    rcases located _ _ _ _ stored with ⟨_, earlier⟩ | ⟨record, there, _⟩
    · exact kept.indexed_lt _ _ _ _ earlier
    · exact kept.existing_lt _ (InsertionMap.mem_keys_iff.mpr ⟨record, there⟩)
  deleted_gone := kept.deleted_gone
  deleted_lt := kept.deleted_lt
  moved_to := kept.moved_to
  unchanged := kept.unchanged
  unique := kept.unique
  covers := by
    intro device nodeId endpointId typeId claims
    rcases claimed _ _ _ _ claims with stored | ⟨same, asBefore⟩
    · exact .inl stored
    · rw [asBefore, same]
      exact kept.covers _ _ _ _ claims
  placed := by
    intro nodeId endpointId typeId device stored there
    rcases located _ _ _ _ stored with ⟨same, earlier⟩ | claims
    · rw [same]
      exact kept.placed _ _ _ _ earlier there
    · exact .inl claims
  vacated := kept.vacated

theorem deviceStarted (kept : SlotsKept original firstNew oldNode newNode deleted moved onTheMove world)
    {device : DeviceId} {record : IndigoDevice} (there : world.indigo.get? device = some record) :
    SlotsKept original firstNew oldNode newNode deleted moved onTheMove
      { world with sync := { world.sync with index := world.sync.index.noteDevice device record } } := by
  cases place : record.location? with
  | none =>
      have same : world.sync.index.noteDevice device record = world.sync.index := by
        rw [DeviceIndex.noteDevice, place]
      exact kept.congr rfl rfl same
  | some key =>
      rcases key with ⟨ownNode, ownEndpoint⟩
      have own : world.Claims device ownNode ownEndpoint record.typeId := ⟨record, there, place, rfl⟩
      have slots : ∀ nodeId endpointId typeId,
          ((world.sync.index.noteDevice device record).typeMap nodeId endpointId).get? typeId =
            if nodeId = ownNode ∧ endpointId = ownEndpoint ∧ typeId = record.typeId then some device
            else (world.sync.index.typeMap nodeId endpointId).get? typeId := by
        intro nodeId endpointId typeId
        rw [DeviceIndex.typeMap_noteDevice place]
        by_cases here : nodeId = ownNode ∧ endpointId = ownEndpoint
        · rcases here with ⟨rfl, rfl⟩
          simp [InsertionMap.get?_set]
        · rw [if_neg here, if_neg fun both => here ⟨both.1, both.2.1⟩]
      apply kept.reindex
      · intro nodeId endpointId typeId other stored
        rw [slots] at stored
        split at stored
        · rename_i here
          rcases here with ⟨rfl, rfl, rfl⟩
          exact .inr (Option.some.inj stored ▸ own)
        · exact .inl ⟨rfl, stored⟩
      · intro other nodeId endpointId typeId claims
        rw [slots]
        split
        · rename_i here
          rcases here with ⟨rfl, rfl, rfl⟩
          exact .inl (congrArg some (kept.unique _ _ _ _ _ own claims))
        · exact .inr ⟨rfl, rfl⟩

/-- Once the index is rebuilt it tells of every slot who claims it. -/
theorem rebuild (kept : SlotsKept original firstNew oldNode newNode deleted moved onTheMove world) (still : Bool) :
    SlotsKept original firstNew oldNode newNode deleted moved still world.rebuild := by
  apply kept.reindex
  · intro nodeId endpointId typeId device stored
    exact .inr (located_rebuildIndex world.indigo _ _ _ _ stored)
  · intro device nodeId endpointId typeId claims
    exact .inl (get?_rebuildIndex_of_claims claims fun other otherClaims =>
      kept.unique _ _ _ _ _ otherClaims claims)

/-- A round of deletions, before anything moves, keeps the slots of the devices it
leaves. -/
theorem deleteDevices (kept : SlotsKept original firstNew oldNode newNode [] [] onTheMove world)
    {accepts : DeviceId → Bool} {candidates : List DeviceId} {after : PluginWorld}
    {log : List Deletion} (deletes : PluginWorld.Deletes accepts candidates world after log)
    (old : ∀ device ∈ candidates, device < firstNew) :
    SlotsKept original firstNew oldNode newNode (log.map Prod.fst) [] onTheMove after := by
  have nextId : after.nextId = world.nextId := by rw [deletes.frame]
  have reported_lt : ∀ device ∈ log.map Prod.fst, device < firstNew := by
    intro device reported
    rcases List.mem_map.mp reported with ⟨⟨_, record⟩, listed, rfl⟩
    exact old _ ((deletes.deleted _ _).mp listed).1
  have original : ∀ device record, after.indigo.get? device = some record →
      device ∉ log.map Prod.fst ∧ world.indigo.get? device = some record := by
    intro device record stored
    rw [deletes.indigo] at stored
    split at stored
    · cases stored
    · rename_i unreported
      exact ⟨unreported, stored⟩
  have claimed : ∀ device nodeId endpointId typeId, after.Claims device nodeId endpointId typeId →
      device ∉ log.map Prod.fst ∧ world.Claims device nodeId endpointId typeId := by
    rintro device nodeId endpointId typeId ⟨record, stored, place⟩
    rcases original _ _ stored with ⟨unreported, found⟩
    exact ⟨unreported, record, found, place⟩
  constructor
  · exact nextId ▸ kept.nextId_le
  · intro device there
    rcases InsertionMap.mem_keys_iff.mp there with ⟨record, stored⟩
    exact nextId ▸ kept.existing_lt _ (InsertionMap.mem_keys_iff.mpr ⟨record, (original _ _ stored).2⟩)
  · intro nodeId endpointId typeId device stored
    exact nextId ▸ kept.indexed_lt _ _ _ _ ((deletes.indexed _ _ _ _).mp stored).1
  · intro device reported
    rw [deletes.indigo, if_pos reported]
  · exact reported_lt
  · rintro _ ⟨⟩
  · intro device isOld unreported _
    rw [deletes.indigo, if_neg unreported]
    exact kept.unchanged device isOld (by rintro ⟨⟩) (by rintro ⟨⟩)
  · intro device other nodeId endpointId typeId first second
    exact kept.unique _ _ _ _ _ (claimed _ _ _ _ first).2 (claimed _ _ _ _ second).2
  · intro device nodeId endpointId typeId claims
    rcases claimed _ _ _ _ claims with ⟨unreported, earlier⟩
    rcases kept.covers _ _ _ _ earlier with stored | ⟨isMoved, _⟩
    · exact .inl ((deletes.indexed _ _ _ _).mpr ⟨stored, unreported⟩)
    · cases isMoved
  · intro nodeId endpointId typeId device stored there
    rcases (deletes.indexed _ _ _ _).mp stored with ⟨earlier, unreported⟩
    rcases InsertionMap.mem_keys_iff.mp there with ⟨record, found⟩
    have before := (original _ _ found).2
    rcases kept.placed _ _ _ _ earlier (InsertionMap.mem_keys_iff.mpr ⟨record, before⟩) with
      ⟨same, sameFound, place⟩ | ⟨isMoved, _⟩
    · obtain rfl := Option.some.inj (before.symm.trans sameFound)
      exact .inl ⟨record, found, place⟩
    · cases isMoved
  · rintro _ ⟨⟩

/-- A device of the old node that moves into a slot no device claims keeps the slots. -/
theorem rebind (kept : SlotsKept original firstNew oldNode newNode deleted moved true world)
    {device : DeviceId} {record : IndigoDevice} {endpointId : EndpointId} {version : Option String}
    (apart : oldNode ≠ newNode) (old : device < firstNew)
    (there : world.indigo.get? device = some record) (unmoved : device ∉ moved)
    (place : record.location? = some (oldNode, endpointId))
    (free : ∀ other, ¬world.Claims other newNode endpointId record.typeId) :
    SlotsKept original firstNew oldNode newNode deleted (moved ++ [device]) true
      { world with indigo := world.indigo.set device (reboundProps record newNode version) } := by
  have present : device ∈ world.indigo.keys := InsertionMap.mem_keys_iff.mpr ⟨record, there⟩
  have undeleted : device ∉ deleted := by
    intro gone
    rw [kept.deleted_gone device gone] at there
    cases there
  rcases IndigoDevice.location?_eq_some.mp place with ⟨atOld, atEndpoint⟩
  have own : world.Claims device oldNode endpointId record.typeId := ⟨record, there, place, rfl⟩
  have claims_iff : ∀ other nodeId otherEndpoint typeId,
      PluginWorld.Claims
          { world with indigo := world.indigo.set device (reboundProps record newNode version) }
          other nodeId otherEndpoint typeId ↔
        (other ≠ device ∧ world.Claims other nodeId otherEndpoint typeId) ∨
          (other = device ∧ nodeId = newNode ∧ otherEndpoint = endpointId ∧
            typeId = record.typeId) := by
    intro other nodeId otherEndpoint typeId
    simp only [PluginWorld.Claims, InsertionMap.get?_set]
    by_cases same : other = device
    · subst same
      simp only [if_true, Option.some.injEq, exists_eq_left', ne_eq, not_true_eq_false, false_and,
        false_or, true_and, IndigoDevice.location?_eq_some, reboundProps_nodeId,
        reboundProps_endpointId, reboundProps_typeId, atEndpoint]
      constructor
      · rintro ⟨⟨rfl, rfl⟩, rfl⟩
        exact ⟨rfl, rfl, rfl⟩
      · rintro ⟨rfl, rfl, rfl⟩
        exact ⟨⟨rfl, rfl⟩, rfl⟩
    · simp [same]
  constructor
  · exact kept.nextId_le
  · intro other found
    rcases InsertionMap.mem_keys_set.mp found with rfl | earlier
    · exact kept.existing_lt _ present
    · exact kept.existing_lt _ earlier
  · exact kept.indexed_lt
  · intro other gone
    rw [InsertionMap.get?_set, if_neg]
    · exact kept.deleted_gone other gone
    · rintro rfl
      exact undeleted gone
  · exact kept.deleted_lt
  · intro other isMoved
    rcases List.mem_append.mp isMoved with earlier | last
    · rcases kept.moved_to other earlier with ⟨first, otherRecord, wasThere, fromOld, found, arrived⟩
      refine ⟨first, otherRecord, wasThere, fromOld, ?_, arrived⟩
      rw [InsertionMap.get?_set, if_neg]
      · exact found
      · rintro rfl
        exact unmoved earlier
    · obtain rfl := List.mem_singleton.mp last
      refine ⟨record, reboundProps record newNode version, ?_, atOld, ?_, rfl, rfl, rfl⟩
      · rw [← kept.unchanged other old undeleted unmoved]
        exact there
      · rw [InsertionMap.get?_set, if_pos rfl]
  · intro other isOld kept' unmoved'
    rw [List.mem_append, not_or, List.mem_singleton] at unmoved'
    rw [InsertionMap.get?_set, if_neg unmoved'.2]
    exact kept.unchanged other isOld kept' unmoved'.1
  · intro first second nodeId otherEndpoint typeId firstClaims secondClaims
    rw [claims_iff] at firstClaims secondClaims
    rcases firstClaims with ⟨_, firstClaims⟩ | ⟨rfl, rfl, rfl, rfl⟩
    · rcases secondClaims with ⟨_, secondClaims⟩ | ⟨rfl, rfl, rfl, rfl⟩
      · exact kept.unique _ _ _ _ _ firstClaims secondClaims
      · exact absurd firstClaims (free first)
    · rcases secondClaims with ⟨_, secondClaims⟩ | ⟨rfl, _⟩
      · exact absurd secondClaims (free second)
      · rfl
  · intro other nodeId otherEndpoint typeId claims
    rcases (claims_iff _ _ _ _).mp claims with ⟨_, earlier⟩ | ⟨rfl, _⟩
    · rcases kept.covers _ _ _ _ earlier with stored | ⟨isMoved, moving⟩
      · exact .inl stored
      · exact .inr ⟨List.mem_append_left _ isMoved, moving⟩
    · exact .inr ⟨by simp, rfl⟩
  · intro nodeId otherEndpoint typeId other stored found
    by_cases same : other = device
    · subst same
      right
      rcases kept.placed _ _ _ _ stored present with ⟨sameRecord, sameThere, samePlace, rfl⟩ | ⟨isMoved, _⟩
      · obtain rfl := Option.some.inj (there.symm.trans sameThere)
        have here := Option.some.inj (place.symm.trans samePlace)
        obtain ⟨rfl, rfl⟩ := Prod.mk.inj here
        refine ⟨by simp, rfl, rfl, ?_⟩
        rw [claims_iff]
        exact .inr ⟨rfl, rfl, rfl, rfl⟩
      · exact absurd isMoved unmoved
    · have earlier : other ∈ world.indigo.keys := by
        rcases InsertionMap.mem_keys_set.mp found with rfl | earlier
        · exact absurd rfl same
        · exact earlier
      simp only [claims_iff]
      rcases kept.placed _ _ _ _ stored earlier with claims | ⟨isMoved, _, inOld, claims⟩
      · exact .inl (.inl ⟨same, claims⟩)
      · exact .inr ⟨List.mem_append_left _ isMoved, trivial, inOld, .inl ⟨same, claims⟩⟩
  · intro other isMoved otherEndpoint typeId claims third
    rw [claims_iff] at claims ⊢
    rintro (⟨different, thirdClaims⟩ | ⟨_, inNew, _⟩)
    · rcases claims with ⟨different', earlier⟩ | ⟨rfl, _, rfl, rfl⟩
      · have wasMoved : other ∈ moved := by
          rcases List.mem_append.mp isMoved with earlier | last
          · exact earlier
          · exact absurd (List.mem_singleton.mp last) different'
        exact kept.vacated other wasMoved _ _ earlier third thirdClaims
      · exact different (kept.unique _ _ _ _ _ thirdClaims own)
    · exact apart inNew

/-- A pass that writes a device's properties, not those that place it, keeps the slots;
the original devices count with what is so written to those that have not moved. -/
theorem writeProps (kept : SlotsKept original firstNew oldNode newNode deleted moved onTheMove world)
    {device : DeviceId} {record written : IndigoDevice}
    (there : world.indigo.get? device = some record) (sameType : written.typeId = record.typeId)
    (sameNode : written.nodeId = record.nodeId) (sameEndpoint : written.endpointId = record.endpointId) :
    SlotsKept (if device ∈ moved then original else original.set device written) firstNew oldNode
      newNode deleted moved onTheMove { world with indigo := world.indigo.set device written } := by
  have samePlace : written.location? = record.location? := by
    simp only [IndigoDevice.location?, sameNode, sameEndpoint]
  have sameClaims : PluginWorld.Claims { world with indigo := world.indigo.set device written } =
      world.Claims := by
    funext other nodeId endpointId typeId
    apply propext
    simp only [PluginWorld.Claims, InsertionMap.get?_set]
    by_cases same : other = device
    · subst same
      simp only [if_true, Option.some.injEq, exists_eq_left', there, samePlace, sameType]
    · simp [same]
  have sameKeys : ∀ other, other ∈ (world.indigo.set device written).keys → other ∈ world.indigo.keys := by
    intro other found
    rcases InsertionMap.mem_keys_set.mp found with rfl | earlier
    · exact InsertionMap.mem_keys_iff.mpr ⟨record, there⟩
    · exact earlier
  constructor
  · exact kept.nextId_le
  · exact fun other found => kept.existing_lt other (sameKeys other found)
  · exact kept.indexed_lt
  · intro other gone
    rw [InsertionMap.get?_set, if_neg]
    · exact kept.deleted_gone other gone
    · rintro rfl
      rw [kept.deleted_gone other gone] at there
      cases there
  · exact kept.deleted_lt
  · intro other isMoved
    rcases kept.moved_to other isMoved with
      ⟨first, found, wasThere, fromOld, foundThere, atNew, endpointKept, typeKept⟩
    have stillOriginal : (if device ∈ moved then original else original.set device written).get? other =
        some first := by
      split
      · exact wasThere
      · rename_i unmoved
        rw [InsertionMap.get?_set, if_neg]
        · exact wasThere
        · rintro rfl
          exact unmoved isMoved
    by_cases same : other = device
    · subst same
      obtain rfl := Option.some.inj (there.symm.trans foundThere)
      refine ⟨first, written, stillOriginal, fromOld, ?_, sameNode.trans atNew,
        sameEndpoint.trans endpointKept, sameType.trans typeKept⟩
      rw [InsertionMap.get?_set, if_pos rfl]
    · refine ⟨first, found, stillOriginal, fromOld, ?_, atNew, endpointKept, typeKept⟩
      rw [InsertionMap.get?_set, if_neg same]
      exact foundThere
  · intro other isOld undeleted unmoved
    rw [InsertionMap.get?_set]
    by_cases same : other = device
    · subst same
      rw [if_pos rfl, if_neg unmoved, InsertionMap.get?_set, if_pos rfl]
    · rw [if_neg same, kept.unchanged other isOld undeleted unmoved]
      split
      · rfl
      · rw [InsertionMap.get?_set, if_neg same]
  · rw [sameClaims]
    exact kept.unique
  · rw [sameClaims]
    exact kept.covers
  · rw [sameClaims]
    exact fun nodeId endpointId typeId other stored found =>
      kept.placed nodeId endpointId typeId other stored (sameKeys other found)
  · rw [sameClaims]
    exact kept.vacated

/-- A create pass keeps the slots: over the new node it creates nothing while devices
are on the move, and over the old one nothing in a slot that a device has left, which the
index must still have in it where Indigo would create another. -/
theorem createPass (kept : SlotsKept original firstNew oldNode newNode deleted moved onTheMove world)
    {accepts : Accepts?} {node : NodeInfo}
    (arrived : node.nodeId = newNode →
      moved = [] ∨ onTheMove = false ∨ newNode ∈ world.creationSuspended)
    (left : node.nodeId = oldNode → ∀ device ∈ moved, ∀ endpointId typeId,
      world.Claims device newNode endpointId typeId → accepts endpointId typeId = true →
        (world.sync.index.typeMap oldNode endpointId).get? typeId = some device) :
    SlotsKept original firstNew oldNode newNode deleted moved onTheMove
        (world.createUnlessSuspended accepts node) ∧
      ∀ device nodeId endpointId typeId, nodeId ≠ node.nodeId ∨ nodeId ∈ world.creationSuspended →
        (world.createUnlessSuspended accepts node).Claims device nodeId endpointId typeId →
          world.Claims device nodeId endpointId typeId := by
  by_cases suspended : node.nodeId ∈ world.creationSuspended
  · rw [PluginWorld.createUnlessSuspended, if_pos suspended]
    exact ⟨kept, fun _ _ _ _ _ claims => claims⟩
  · let inOldSlot (other : PluginWorld) : Prop := node.nodeId = oldNode →
      ∀ device ∈ moved, ∀ endpointId typeId, other.Claims device newNode endpointId typeId →
        accepts endpointId typeId = true →
          (other.sync.index.typeMap oldNode endpointId).get? typeId = some device
    have holds := PluginWorld.createUnlessSuspended_induction
      (fun other => SlotsKept original firstNew oldNode newNode deleted moved onTheMove other ∧
        inOldSlot other ∧ ∀ device nodeId endpointId typeId, nodeId ≠ node.nodeId →
          other.Claims device nodeId endpointId typeId → world.Claims device nodeId endpointId typeId)
      (by
        rintro other ⟨slots, still, others⟩
        refine ⟨slots.congr rfl rfl (by simp), ?_, others⟩
        intro here device isMoved endpointId typeId claims accepted
        simpa using still here device isMoved endpointId typeId claims accepted)
      (by
        rintro other endpointId typeId pass ⟨slots, still, others⟩ accepted isEmpty _
        have claims_iff := fun device nodeId otherEndpoint otherType =>
          @claims_create original firstNew oldNode newNode deleted moved onTheMove other node.nodeId
            endpointId typeId node pass slots device nodeId otherEndpoint otherType
        have earlier : ∀ device ∈ moved, ∀ otherEndpoint otherType,
            ((other.create node.nodeId endpointId typeId).prime node pass).Claims device newNode
              otherEndpoint otherType → other.Claims device newNode otherEndpoint otherType := by
          intro device isMoved otherEndpoint otherType claims
          rcases (claims_iff _ _ _ _).mp claims with earlier | ⟨rfl, _⟩
          · exact earlier
          · rcases slots.moved_to _ isMoved with ⟨_, _, _, _, there, _⟩
            exact absurd (slots.existing_lt _ (InsertionMap.mem_keys_iff.mpr ⟨_, there⟩)) (lt_irrefl _)
        refine ⟨?_, ?_, ?_⟩
        · apply slots.create isEmpty
          · intro here
            rcases arrived here with none | settled | suspendedNew
            · exact .inl none
            · exact .inr settled
            · exact absurd (here ▸ suspendedNew) suspended
          · intro here device isMoved claims
            have stored := still here device isMoved _ _ claims accepted
            rw [← here, isEmpty] at stored
            cases stored
        · intro here device isMoved otherEndpoint otherType claims otherAccepted
          have stored := still here device isMoved _ _ (earlier device isMoved _ _ claims) otherAccepted
          have slot := PluginWorld.get?_create other node.nodeId endpointId typeId oldNode
            otherEndpoint otherType
          rw [if_neg] at slot
          · exact slot.trans stored
          · rintro ⟨_, rfl, rfl⟩
            rw [← here, isEmpty] at stored
            cases stored
        · intro device nodeId otherEndpoint otherType apart claims
          rcases (claims_iff _ _ _ _).mp claims with earlier | ⟨_, same, _⟩
          · exact others _ _ _ _ apart earlier
          · exact absurd same apart)
      ⟨kept, left, fun _ _ _ _ _ claims => claims⟩
    refine ⟨holds.1, ?_⟩
    rintro device nodeId endpointId typeId (apart | alsoSuspended) claims
    · exact holds.2.2 _ _ _ _ apart claims
    · have apart : nodeId ≠ node.nodeId := by
        rintro rfl
        exact suspended alsoSuspended
      exact holds.2.2 _ _ _ _ apart claims

end SlotsKept

end IndigoMatter.Plugin
