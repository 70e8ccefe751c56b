import IndigoMatter.Plugin.DeviceRouting

/-!
# A create pass over one node

The pass plans the devices a node model asks for, endpoint by endpoint, and makes
the ones that are not indexed yet; Indigo may refuse any of them.  Besides the
endpoint devices there is one device for the node itself, which a user can delete
for good.

A pass does nothing for a node that a replacement has retired, or while one is
moving its devices.  Names, folders and groups are left out: they concern devices
that exist and read each of them under a guard.
-/

namespace IndigoMatter.Plugin

open IndigoMatter.Library

/-- What the plugin does to a device in Indigo. -/
inductive DeviceEffect
  | propsReasserted
  | primed (attributes : List (AttributePath × PyJson))
  | errorCleared
  | markedUnreachable
  | reachable (value : Bool)

/-- Indigo's devices of the plugin, and what the plugin keeps about them.  Indigo
gives each new device the next id. -/
structure PluginWorld where
  indigo : IndigoDevices
  nextId : DeviceId
  sync : DeviceSync
  nodeTombstones : List NodeId
  retiredNodes : List NodeId
  creationSuspended : List NodeId
  selfDeletedIds : List DeviceId
  effects : List (DeviceId × DeviceEffect)

/-- Which of the devices a pass asks for Indigo creates. -/
abbrev Accepts? := EndpointId → TypeId → Bool

/-! ## The plan -/

/-- `_unknown_spec`: whether an endpoint no handler claims gets a placeholder. -/
def needsPlaceholder (endpoint : EndpointInfo) : Bool :=
  endpoint.endpointId ≠ 0 && endpoint.clusterIds.any (· ∉ nonDeviceClusters)

/-- The device types a pass plans for one endpoint. -/
def DeviceSync.plannedTypes (sync : DeviceSync) (nodeId : NodeId) (endpoint : EndpointInfo) :
    List TypeId :=
  let specs := handlersForEndpoint endpoint
  if !specs.isEmpty then specs
  else if isMeterSourceCandidate endpoint specs then
    if endpoint.endpointId ≠ 0 ∧ sync.forwardLinks.get? (nodeId, endpoint.endpointId) = none then
      ["matterEnergyMeter"]
    else []
  else if needsPlaceholder endpoint then ["matterUnknown"]
  else []

/-- The plan of a pass: the devices it wants, in the order of the endpoints. -/
def DeviceSync.plan (sync : DeviceSync) (node : NodeInfo) : List (EndpointId × TypeId) :=
  node.endpoints.flatMap fun endpoint =>
    (sync.plannedTypes node.nodeId endpoint).map fun typeId => (endpoint.endpointId, typeId)

/-- `implements`: whether an attribute list names an attribute, where it says. -/
def implements? (attributeList : Option PyJson) (attributeId : Int) : Option Bool :=
  match attributeList with
  | some (.list entries) =>
      match entries.mapM PyJson.toInt? with
      | none => none
      | some [] => none
      | some ids => some (attributeId ∈ ids)
  | _ => none

/-- Whether the root endpoint reports a node label or a software version. -/
def NodeInfo.isConformant (node : NodeInfo) : Bool :=
  let attributeList := node.attributes.get? ⟨0, 0x0028, 0xFFFB⟩
  implements? attributeList 0x0005 = some true || implements? attributeList 0x000A = some true

/-! ## Creation -/

namespace PluginWorld

/-- Record an effect on a device. -/
def note (world : PluginWorld) (device : DeviceId) (effect : DeviceEffect) : PluginWorld :=
  { world with effects := world.effects ++ [(device, effect)] }

/-- The effect of `_prime_states` on a device that is there. -/
def prime (world : PluginWorld) (node : NodeInfo) (pass : PrimePass) : PluginWorld :=
  world.note pass.device (.primed (world.sync.primedAttributes node pass))

/-- `_create_one` where Indigo accepts, with the index entry that follows. -/
def create (world : PluginWorld) (nodeId : NodeId) (endpointId : EndpointId) (typeId : TypeId) :
    PluginWorld :=
  let device : IndigoDevice := ⟨typeId, some nodeId, some endpointId, ∅⟩
  { world with
    indigo := world.indigo.set world.nextId device
    nextId := world.nextId + 1
    sync := { world.sync with index := world.sync.index.noteDevice world.nextId device } }

/-- One device of the plan: nothing to do where its type is indexed, else create it
and prime it. -/
def ensureDevice (accepts : Accepts?) (node : NodeInfo) (siblings : List TypeId)
    (world : PluginWorld) (endpointId : EndpointId) (typeId : TypeId) : PluginWorld :=
  if ((world.sync.index.typeMap node.nodeId endpointId).get? typeId).isSome then world
  else if !accepts endpointId typeId then world
  else
    (world.create node.nodeId endpointId typeId).prime node
      { device := world.nextId, endpointId, ownType := typeId, siblings }

/-- `_ensure_node_device`. -/
def ensureNodeDevice (accepts : Accepts?) (node : NodeInfo) (plan : List (EndpointId × TypeId))
    (world : PluginWorld) : PluginWorld :=
  if node.nodeId ∈ world.nodeTombstones || plan.isEmpty || !node.isConformant then world
  else world.ensureDevice accepts node ["matterNode"] 0 "matterNode"

/-- The types a plan has for an endpoint. -/
def plannedOn (plan : List (EndpointId × TypeId)) (endpointId : EndpointId) : List TypeId :=
  (plan.filter (·.1 = endpointId)).map Prod.snd

/-- The part of `create_devices` that creates. -/
def carryOut (accepts : Accepts?) (node : NodeInfo) (plan : List (EndpointId × TypeId))
    (world : PluginWorld) : PluginWorld :=
  plan.foldl
    (fun world entry =>
      world.ensureDevice accepts node (plannedOn plan entry.1) entry.1 entry.2)
    (world.ensureNodeDevice accepts node plan)

/-- `create_devices`. -/
def createDevices (accepts : Accepts?) (node : NodeInfo) (world : PluginWorld) : PluginWorld :=
  if node.nodeId ∈ world.retiredNodes then world
  else if node.nodeId ∈ world.creationSuspended then world
  else
    let world := { world with sync := world.sync.recordNode node }
    world.carryOut accepts node (world.sync.plan node)

theorem typeMap_create (world : PluginWorld) (nodeId : NodeId) (endpointId : EndpointId)
    (typeId : TypeId) (otherNode : NodeId) (otherEndpoint : EndpointId) :
    (world.create nodeId endpointId typeId).sync.index.typeMap otherNode otherEndpoint =
      if otherNode = nodeId ∧ otherEndpoint = endpointId then
        (world.sync.index.typeMap nodeId endpointId).set typeId world.nextId
      else world.sync.index.typeMap otherNode otherEndpoint :=
  DeviceIndex.typeMap_noteDevice rfl otherNode otherEndpoint

theorem get?_create (world : PluginWorld) (nodeId : NodeId) (endpointId : EndpointId)
    (typeId : TypeId) (otherNode : NodeId) (otherEndpoint : EndpointId) (otherType : TypeId) :
    ((world.create nodeId endpointId typeId).sync.index.typeMap otherNode otherEndpoint).get?
        otherType =
      if otherNode = nodeId ∧ otherEndpoint = endpointId ∧ otherType = typeId then some world.nextId
      else (world.sync.index.typeMap otherNode otherEndpoint).get? otherType := by
  rw [typeMap_create]
  by_cases here : otherNode = nodeId ∧ otherEndpoint = endpointId
  · rcases here with ⟨rfl, rfl⟩
    simp [InsertionMap.get?_set]
  · rw [if_neg here, if_neg fun both => here ⟨both.1, both.2.1⟩]

/-! ## What a pass leaves as it was -/

/-- A pass over a node only adds: new devices under new ids, and index entries for
them on endpoints of the node. -/
structure Grows (node : NodeInfo) (before after : PluginWorld) : Prop where
  nextId_le : before.nextId ≤ after.nextId
  effects : ∃ log, after.effects = before.effects ++ log ∧ ∀ entry ∈ log, before.nextId ≤ entry.1
  older : ∀ device, device < before.nextId → after.indigo.get? device = before.indigo.get? device
  kept : ∀ nodeId endpointId typeId device,
    (before.sync.index.typeMap nodeId endpointId).get? typeId = some device →
      (after.sync.index.typeMap nodeId endpointId).get? typeId = some device
  added : ∀ nodeId endpointId typeId device,
    (after.sync.index.typeMap nodeId endpointId).get? typeId = some device →
      (before.sync.index.typeMap nodeId endpointId).get? typeId = some device ∨
        (before.nextId ≤ device ∧ device < after.nextId ∧ device ∈ after.indigo.keys ∧
          nodeId = node.nodeId ∧ endpointId ∈ node.endpoints.map (·.endpointId))
  routing : after.sync = { before.sync with index := after.sync.index }

namespace Grows

variable {node : NodeInfo} {before middle after : PluginWorld}

protected theorem refl (node : NodeInfo) (world : PluginWorld) : Grows node world world where
  nextId_le := le_rfl
  effects := ⟨[], by simp⟩
  older := fun _ _ => rfl
  kept := fun _ _ _ _ stored => stored
  added := fun _ _ _ _ stored => .inl stored
  routing := rfl

protected theorem trans (first : Grows node before middle) (second : Grows node middle after) :
    Grows node before after where
  nextId_le := first.nextId_le.trans second.nextId_le
  effects := by
    rcases first.effects with ⟨firstLog, firstEffects, firstFresh⟩
    rcases second.effects with ⟨secondLog, secondEffects, secondFresh⟩
    refine ⟨firstLog ++ secondLog, by rw [secondEffects, firstEffects, List.append_assoc], ?_⟩
    intro entry member
    rcases List.mem_append.mp member with earlier | later
    · exact firstFresh entry earlier
    · exact first.nextId_le.trans (secondFresh entry later)
  older := by
    intro device old
    rw [second.older device (old.trans_le first.nextId_le), first.older device old]
  kept := fun _ _ _ _ stored => second.kept _ _ _ _ (first.kept _ _ _ _ stored)
  added := by
    intro nodeId endpointId typeId device stored
    rcases second.added _ _ _ _ stored with earlier | ⟨fresh, isBelow, present, place⟩
    · rcases first.added _ _ _ _ earlier with original | ⟨fresh, isBelow, present, place⟩
      · exact .inl original
      · refine .inr ⟨fresh, isBelow.trans_le second.nextId_le, ?_, place⟩
        rcases InsertionMap.mem_keys_iff.mp present with ⟨record, found⟩
        rw [← second.older device isBelow] at found
        exact InsertionMap.mem_keys_iff.mpr ⟨record, found⟩
    · exact .inr ⟨first.nextId_le.trans fresh, isBelow, present, place⟩
  routing := by
    rw [second.routing, first.routing]

end Grows

theorem grows_create {node : NodeInfo} {world : PluginWorld} {endpointId : EndpointId}
    {typeId : TypeId} {pass : PrimePass} (own : pass.device = world.nextId)
    (listed : endpointId ∈ node.endpoints.map (·.endpointId))
    (absent : (world.sync.index.typeMap node.nodeId endpointId).get? typeId = none) :
    Grows node world ((world.create node.nodeId endpointId typeId).prime node pass) where
  nextId_le := Nat.le_succ _
  effects := by
    refine ⟨[(pass.device, _)], rfl, ?_⟩
    simp [own]
  older := by
    intro device old
    simp [create, prime, note, old.ne]
  kept := by
    intro nodeId otherEndpoint otherType device stored
    simp only [prime, note, typeMap_create]
    split
    · rename_i here
      rcases here with ⟨rfl, rfl⟩
      rw [InsertionMap.get?_set]
      split
      · rename_i same
        rw [same, absent] at stored
        cases stored
      · exact stored
    · exact stored
  added := by
    intro nodeId otherEndpoint otherType device stored
    simp only [prime, note, typeMap_create] at stored
    split at stored
    · rename_i here
      rcases here with ⟨rfl, rfl⟩
      rw [InsertionMap.get?_set] at stored
      split at stored
      · obtain rfl := Option.some.inj stored
        right
        simp [prime, note, create, listed]
      · exact .inl stored
    · exact .inl stored
  routing := rfl

theorem grows_ensureDevice {accepts : Accepts?} {node : NodeInfo} {siblings : List TypeId}
    {world : PluginWorld} {endpointId : EndpointId} {typeId : TypeId}
    (listed : endpointId ∈ node.endpoints.map (·.endpointId)) :
    Grows node world (world.ensureDevice accepts node siblings endpointId typeId) := by
  unfold ensureDevice
  split
  · exact .refl node world
  · rename_i missing
    split
    · exact .refl node world
    · exact grows_create rfl listed (by simpa using missing)

theorem mem_plan {sync : DeviceSync} {node : NodeInfo} {endpointId : EndpointId} {typeId : TypeId}
    (planned : (endpointId, typeId) ∈ sync.plan node) :
    endpointId ∈ node.endpoints.map (·.endpointId) := by
  simp only [DeviceSync.plan, List.mem_flatMap, List.mem_map, Prod.mk.injEq] at planned
  rcases planned with ⟨endpoint, listed, _, _, rfl, _⟩
  exact List.mem_map_of_mem listed

/-- No plan of an endpoint has a node device. -/
theorem ne_matterNode_of_mem_plan {sync : DeviceSync} {node : NodeInfo} {endpointId : EndpointId}
    {typeId : TypeId} (planned : (endpointId, typeId) ∈ sync.plan node) : typeId ≠ "matterNode" := by
  simp only [DeviceSync.plan, List.mem_flatMap, List.mem_map, Prod.mk.injEq] at planned
  rcases planned with ⟨endpoint, _, _, listed, _, rfl⟩
  simp only [DeviceSync.plannedTypes] at listed
  split at listed
  · exact ne_matterNode_of_mem_handlersForEndpoint listed
  · split at listed
    · split at listed
      · rw [List.mem_singleton.mp listed]
        decide
      · cases listed
    · split at listed
      · rw [List.mem_singleton.mp listed]
        decide
      · cases listed

/-- `create_devices` once past its test for a retirement, which it makes before it takes
the lock the rest runs under. -/
def createUnlessSuspended (accepts : Accepts?) (node : NodeInfo) (world : PluginWorld) : PluginWorld :=
  if node.nodeId ∈ world.creationSuspended then world
  else
    let world := { world with sync := world.sync.recordNode node }
    world.carryOut accepts node (world.sync.plan node)

theorem createDevices_eq (accepts : Accepts?) (node : NodeInfo) (world : PluginWorld) :
    world.createDevices accepts node =
      if node.nodeId ∈ world.retiredNodes then world else world.createUnlessSuspended accepts node :=
  rfl

/-- What holds of a plugin and is kept by each device created holds after the part of a
create pass that creates; only the root endpoint gets a node device. -/
theorem carryOut_induction (property : PluginWorld → Prop) {node : NodeInfo} {accepts : Accepts?}
    {plan : List (EndpointId × TypeId)} (planned : ∀ entry ∈ plan, entry.2 ≠ "matterNode")
    (creating : ∀ world endpointId typeId siblings, property world →
      accepts endpointId typeId = true →
      (world.sync.index.typeMap node.nodeId endpointId).get? typeId = none →
      (typeId = "matterNode" → endpointId = 0) →
      property ((world.create node.nodeId endpointId typeId).prime node
        ⟨world.nextId, endpointId, typeId, siblings⟩))
    {world : PluginWorld} (holds : property world) :
    property (world.carryOut accepts node plan) := by
  have ensuring (world : PluginWorld) (siblings : List TypeId) (endpointId : EndpointId)
      (typeId : TypeId) (root : typeId = "matterNode" → endpointId = 0) (holds : property world) :
      property (world.ensureDevice accepts node siblings endpointId typeId) := by
    unfold ensureDevice
    split
    · exact holds
    · rename_i missing
      split
      · exact holds
      · rename_i accepted
        exact creating world endpointId typeId _ holds (by simpa using accepted) (by simpa using missing)
          root
  have fold (entries plan : List (EndpointId × TypeId)) (start : PluginWorld) (holds : property start)
      (planned : ∀ entry ∈ entries, entry.2 ≠ "matterNode") :
      property (entries.foldl (fun world entry =>
        world.ensureDevice accepts node (plannedOn plan entry.1) entry.1 entry.2) start) := by
    induction entries generalizing start with
    | nil => exact holds
    | cons entry rest ih =>
        have first := ensuring start (plannedOn plan entry.1) entry.1 entry.2
          (fun own => absurd own (planned entry List.mem_cons_self)) holds
        exact ih _ first fun other member => planned other (List.mem_cons_of_mem _ member)
  apply fold _ _ _ _ planned
  unfold ensureNodeDevice
  split
  · exact holds
  · exact ensuring _ _ _ _ (fun _ => rfl) holds

/-- What is kept by recording a node as well holds after the locked part of a create
pass. -/
theorem createUnlessSuspended_induction (property : PluginWorld → Prop) {node : NodeInfo}
    {accepts : Accepts?}
    (recording : ∀ world, property world → property { world with sync := world.sync.recordNode node })
    (creating : ∀ world endpointId typeId pass, property world → accepts endpointId typeId = true →
      (world.sync.index.typeMap node.nodeId endpointId).get? typeId = none →
      (typeId = "matterNode" → endpointId = 0) →
      property ((world.create node.nodeId endpointId typeId).prime node pass))
    {world : PluginWorld} (holds : property world) :
    property (world.createUnlessSuspended accepts node) := by
  unfold createUnlessSuspended
  split
  · exact holds
  · apply carryOut_induction property _ _ (recording world holds)
    · intro entry planned
      exact ne_matterNode_of_mem_plan planned
    · intro world endpointId typeId siblings
      exact creating world endpointId typeId _

/-- And so after a whole one. -/
theorem createDevices_induction (property : PluginWorld → Prop) {node : NodeInfo}
    (recording : ∀ world, property world → property { world with sync := world.sync.recordNode node })
    (creating : ∀ world endpointId typeId pass, property world →
      (world.sync.index.typeMap node.nodeId endpointId).get? typeId = none →
      (typeId = "matterNode" → endpointId = 0) →
      property ((world.create node.nodeId endpointId typeId).prime node pass))
    {world : PluginWorld} (holds : property world) (accepts : Accepts?) :
    property (world.createDevices accepts node) := by
  rw [createDevices_eq]
  split
  · exact holds
  · apply createUnlessSuspended_induction property recording _ holds
    intro other endpointId typeId pass kept _
    exact creating other endpointId typeId pass kept

/-- A conformant node has a root endpoint. -/
theorem root_of_isConformant {node : NodeInfo} (derived : node.Derived)
    (conformant : node.isConformant = true) : 0 ∈ node.endpoints.map (·.endpointId) := by
  cases found : node.attributes.get? ⟨0, 0x0028, 0xFFFB⟩ with
  | none => simp [NodeInfo.isConformant, found, implements?] at conformant
  | some value =>
      rw [derived.endpointIds_eq, mem_endpointIds]
      exact ⟨_, InsertionMap.mem_keys_iff.mpr ⟨value, found⟩, rfl⟩

theorem grows_ensureNodeDevice {accepts : Accepts?} {node : NodeInfo} (derived : node.Derived)
    {plan : List (EndpointId × TypeId)} {world : PluginWorld} :
    Grows node world (world.ensureNodeDevice accepts node plan) := by
  unfold ensureNodeDevice
  split
  · exact .refl node world
  · rename_i wanted
    simp only [Bool.or_eq_true, not_or, Bool.not_eq_true', Bool.not_eq_false] at wanted
    exact grows_ensureDevice (root_of_isConformant derived wanted.2)

theorem grows_carryOut {accepts : Accepts?} {node : NodeInfo} (derived : node.Derived)
    {plan : List (EndpointId × TypeId)} {world : PluginWorld}
    (planned : ∀ entry ∈ plan, entry.1 ∈ node.endpoints.map (·.endpointId)) :
    Grows node world (world.carryOut accepts node plan) := by
  have fold (entries : List (EndpointId × TypeId)) (start : PluginWorld)
      (listed : ∀ entry ∈ entries, entry.1 ∈ node.endpoints.map (·.endpointId)) :
      Grows node start (entries.foldl (fun world entry =>
        world.ensureDevice accepts node (plannedOn plan entry.1) entry.1 entry.2) start) := by
    induction entries generalizing start with
    | nil => exact .refl node start
    | cons entry rest ih =>
        have first := @grows_ensureDevice accepts node (plannedOn plan entry.1) start entry.1 entry.2
          (listed entry List.mem_cons_self)
        exact first.trans (ih _ fun other member => listed other (List.mem_cons_of_mem _ member))
  exact (grows_ensureNodeDevice derived).trans (fold plan _ planned)

/-- The world a create pass plans from: the node's links and power sources are
recorded, unless the pass does nothing. -/
def recorded (world : PluginWorld) (node : NodeInfo) : PluginWorld :=
  if node.nodeId ∈ world.retiredNodes then world
  else if node.nodeId ∈ world.creationSuspended then world
  else { world with sync := world.sync.recordNode node }

@[simp]
theorem recorded_index (world : PluginWorld) (node : NodeInfo) :
    (world.recorded node).sync.index = world.sync.index := by
  unfold recorded
  split
  · rfl
  · split
    · rfl
    · exact DeviceSync.recordNode_index _ _

@[simp]
theorem recorded_indigo (world : PluginWorld) (node : NodeInfo) :
    (world.recorded node).indigo = world.indigo := by
  unfold recorded
  split
  · rfl
  · split <;> rfl

@[simp]
theorem recorded_nextId (world : PluginWorld) (node : NodeInfo) :
    (world.recorded node).nextId = world.nextId := by
  unfold recorded
  split
  · rfl
  · split <;> rfl

@[simp]
theorem recorded_effects (world : PluginWorld) (node : NodeInfo) :
    (world.recorded node).effects = world.effects := by
  unfold recorded
  split
  · rfl
  · split <;> rfl

theorem grows_createDevices {accepts : Accepts?} {node : NodeInfo} (derived : node.Derived)
    (world : PluginWorld) :
    Grows node (world.recorded node) (world.createDevices accepts node) := by
  unfold createDevices recorded
  split
  · exact .refl node world
  · split
    · exact .refl node world
    · exact grows_carryOut derived fun entry planned => mem_plan planned

/-! ## What a pass fills -/

/-- A device the pass asks for and Indigo accepts is indexed afterwards. -/
theorem isSome_ensureDevice {accepts : Accepts?} {node : NodeInfo} {siblings : List TypeId}
    {world : PluginWorld} {endpointId : EndpointId} {typeId : TypeId}
    (accepted : accepts endpointId typeId = true) :
    (((world.ensureDevice accepts node siblings endpointId typeId).sync.index.typeMap node.nodeId
      endpointId).get? typeId).isSome = true := by
  unfold ensureDevice
  split
  · rename_i already
    exact already
  · simp [accepted, prime, note, get?_create]

/-- A pass over a node fills every slot of its plan that Indigo accepts, and the slot of
the node's own device unless that is tombstoned. -/
theorem isSome_carryOut {accepts : Accepts?} {node : NodeInfo}
    {plan : List (EndpointId × TypeId)} {world : PluginWorld}
    (planned : ∀ entry ∈ plan, entry.1 ∈ node.endpoints.map (·.endpointId)) :
    (∀ entry ∈ plan, accepts entry.1 entry.2 = true →
      (((world.carryOut accepts node plan).sync.index.typeMap node.nodeId entry.1).get?
        entry.2).isSome = true) ∧
      (node.nodeId ∉ world.nodeTombstones → plan ≠ [] → node.isConformant = true →
        accepts 0 "matterNode" = true →
          (((world.carryOut accepts node plan).sync.index.typeMap node.nodeId 0).get?
            "matterNode").isSome = true) := by
  have keeps {before after : PluginWorld} (grows : Grows node before after) {endpointId : EndpointId}
      {typeId : TypeId}
      (filled : ((before.sync.index.typeMap node.nodeId endpointId).get? typeId).isSome = true) :
      ((after.sync.index.typeMap node.nodeId endpointId).get? typeId).isSome = true := by
    rcases Option.isSome_iff_exists.mp filled with ⟨device, stored⟩
    rw [grows.kept _ _ _ _ stored]
    rfl
  have fold (entries : List (EndpointId × TypeId)) (start : PluginWorld)
      (listed : ∀ entry ∈ entries, entry.1 ∈ node.endpoints.map (·.endpointId)) :
      let after := entries.foldl (fun world entry =>
        world.ensureDevice accepts node (plannedOn plan entry.1) entry.1 entry.2) start
      Grows node start after ∧ ∀ entry ∈ entries, accepts entry.1 entry.2 = true →
        ((after.sync.index.typeMap node.nodeId entry.1).get? entry.2).isSome = true := by
    induction entries generalizing start with
    | nil => exact ⟨.refl node start, by simp⟩
    | cons entry rest ih =>
        have first := @grows_ensureDevice accepts node (plannedOn plan entry.1) start entry.1 entry.2
          (listed entry List.mem_cons_self)
        rcases ih (start.ensureDevice accepts node (plannedOn plan entry.1) entry.1 entry.2)
          fun other member => listed other (List.mem_cons_of_mem _ member) with ⟨others, filled⟩
        refine ⟨first.trans others, ?_⟩
        intro other member accepted
        rcases List.mem_cons.mp member with rfl | later
        · exact keeps others (isSome_ensureDevice accepted)
        · exact filled other later accepted
  rcases fold plan (world.ensureNodeDevice accepts node plan) planned with ⟨grows, filled⟩
  refine ⟨filled, ?_⟩
  intro untombstoned wanted conformant accepted
  apply keeps grows
  have unskipped : (node.nodeId ∈ world.nodeTombstones || plan.isEmpty || !node.isConformant) = false := by
    simp [untombstoned, wanted, conformant]
  unfold ensureNodeDevice
  rw [unskipped]
  exact isSome_ensureDevice accepted

end PluginWorld

end IndigoMatter.Plugin
