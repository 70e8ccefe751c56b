import IndigoMatter.Plugin.DeviceLinks

/-!
# Two routers for one attribute

A refresh of a node goes over its devices and asks for each attribute of the model
whether the device is primed with it.  A live update goes the other way: it starts
from the path and resolves the devices it is delivered to.

The two agree on a path exactly when no device of the node would be primed besides
the one a live update resolves to; the condition is stated on the node model and
the index alone.
-/

namespace IndigoMatter.Plugin

open IndigoMatter.Library

/-! ## Priming -/

/-- One call of `_prime_states` from a refresh of the node. -/
structure PrimePass where
  device : DeviceId
  endpointId : EndpointId
  ownType : TypeId
  siblings : List TypeId

/-- `targets is not None and endpoint not in targets`. -/
def isOutside (endpoint : EndpointId) : Option (List EndpointId) → Bool
  | some targets => endpoint ∉ targets
  | none => false

/-- The loop body of `_prime_states` up to its handler call: whether an attribute
reaches the handler. -/
def DeviceSync.primes (sync : DeviceSync) (nodeId : NodeId) (pass : PrimePass)
    (path : AttributePath) : Bool :=
  match handlerForCluster path.cluster with
  | none => false
  | some handler =>
      if path.endpoint = pass.endpointId ∧ path.endpoint = 0 ∧
          (sync.forwardLinks.get? (nodeId, pass.endpointId)).isSome ∧ isElectrical path.cluster then
        false
      else if path.endpoint ≠ pass.endpointId ∧ ¬handler.nodeScoped ∧
          path.endpoint ∉ sync.linkedSources nodeId pass.endpointId then
        false
      else if path.endpoint ≠ pass.endpointId ∧ handler.nodeScoped ∧
          isOutside pass.endpointId (sync.batteryTargets nodeId path.endpoint) then
        false
      else if path.endpoint = pass.endpointId ∧ ¬handler.nodeScoped ∧
          handler.deviceTypeId ≠ "" ∧ handler.deviceTypeId ≠ pass.ownType ∧
          handler.deviceTypeId ∈ pass.siblings then
        false
      else true

/-- The attributes `_prime_states` passes to their handlers, in order. -/
def DeviceSync.primedAttributes (sync : DeviceSync) (node : NodeInfo) (pass : PrimePass) :
    List (AttributePath × PyJson) :=
  node.attributes.entries.filter fun entry => sync.primes node.nodeId pass entry.1

/-- The first type a device is indexed under. -/
def ownTypeIn (typeMap : InsertionMap TypeId DeviceId) (device : DeviceId) : TypeId :=
  ((typeMap.entries.find? (·.2 = device)).map Prod.fst).getD ""

/-- The passes of `_refresh_live_node` over one endpoint. -/
def endpointPasses (endpointId : EndpointId) (typeMap : InsertionMap TypeId DeviceId) :
    List PrimePass :=
  typeMap.values.map fun device =>
    { device, endpointId, ownType := ownTypeIn typeMap device, siblings := typeMap.keys }

/-- The passes of `_refresh_live_node`. -/
def DeviceSync.refreshPasses (sync : DeviceSync) (node : NodeInfo) : List PrimePass :=
  node.endpoints.flatMap fun endpoint =>
    endpointPasses endpoint.endpointId (sync.index.typeMap node.nodeId endpoint.endpointId)

/-- The devices a refresh of the node passes an attribute to. -/
def DeviceSync.primedDevices (sync : DeviceSync) (node : NodeInfo) (path : AttributePath) :
    List DeviceId :=
  ((sync.refreshPasses node).filter fun pass =>
    path ∈ (sync.primedAttributes node pass).map Prod.fst).map (·.device)

/-! ## Live routing -/

/-- The endpoint an electrical reading is rewritten to. -/
def DeviceSync.rewrittenTo? (sync : DeviceSync) (nodeId : NodeId) (endpointId : EndpointId)
    (cluster : ClusterId) : Option EndpointId :=
  if isElectrical cluster then sync.forwardLinks.get? (nodeId, endpointId) else none

/-- Steps 1 to 3 of `_lookup_for_cluster`: the device of the handler's type on the
endpoint, or else the first device there. -/
def DeviceIndex.resolve? (index : DeviceIndex) (nodeId : NodeId) (endpointId : EndpointId)
    (handler : ClusterHandler) : Option DeviceId :=
  if handler.deviceTypeId = "" then index.firstDevice? nodeId endpointId
  else
    match (index.typeMap nodeId endpointId).get? handler.deviceTypeId with
    | some device => some device
    | none => index.firstDevice? nodeId endpointId

/-- `_lookup_for_cluster`; `capable` lists the meter-capable types in the order the
frozen set is iterated. -/
def DeviceSync.lookupForCluster (capable : List TypeId) (sync : DeviceSync) (nodeId : NodeId)
    (endpointId : EndpointId) (cluster : ClusterId) : Option DeviceId :=
  let target := sync.rewrittenTo? nodeId endpointId cluster
  match target.bind fun target => capable.findSome? (sync.index.typeMap nodeId target).get? with
  | some device => some device
  | none =>
      (handlerForCluster cluster).bind fun handler =>
        sync.index.resolve? nodeId (target.getD endpointId) handler

/-- The devices `_on_attribute` resolves a live update to. -/
def DeviceSync.liveTargets (capable : List TypeId) (sync : DeviceSync) (nodeId : NodeId)
    (path : AttributePath) : List DeviceId :=
  match handlerForCluster path.cluster with
  | none => []
  | some handler =>
      if handler.nodeScoped then
        let targets := sync.batteryTargets nodeId path.endpoint
        (sync.index.entries.filter fun entry =>
          entry.1.1 = nodeId && !isOutside entry.1.2 targets).flatMap (·.2.values)
      else (sync.lookupForCluster capable nodeId path.endpoint path.cluster).toList

/-- The devices a live update reaches: those the gate lets through and Indigo
still has. -/
def DeviceSync.deliveredDevices (capable : List TypeId) (sync : DeviceSync)
    (devices : IndigoDevices) (nodeId : NodeId) (path : AttributePath) : List DeviceId :=
  (sync.liveTargets capable nodeId path).filter fun device =>
    (sync.active.isEmpty || device ∈ sync.active) && devices.has device

/-! ## The condition -/

/-- The devices indexed on an endpoint of a node. -/
def DeviceIndex.devicesOn (index : DeviceIndex) (nodeId : NodeId) (endpointId : EndpointId) :
    List DeviceId :=
  (index.typeMap nodeId endpointId).values

/-- One device on the endpoint is the one an attribute of the handler is for: the
device of the handler's type, or the only device there. -/
def ResolvesAlone (index : DeviceIndex) (nodeId : NodeId) (endpointId : EndpointId)
    (handler : ClusterHandler) : Prop :=
  (handler.deviceTypeId ≠ "" ∧ handler.deviceTypeId ∈ (index.typeMap nodeId endpointId).keys) ∨
    (index.devicesOn nodeId endpointId).length ≤ 1

/-- When priming and live routing feed the same devices.  A power source must not
power an endpoint the model lacks but the index has devices on.  An electrical
reading of a linked meter must find at most one device where it is linked to and,
off the root endpoint, none where it stands; any other attribute of a linked
endpoint must find no device where the link goes.  And but for a linked electrical
reading, the endpoint must have a device of the handler's type or at most one
device. -/
def RoutesAgree (index : DeviceIndex) (node : NodeInfo) (path : AttributePath)
    (handler : ClusterHandler) : Prop :=
  if handler.nodeScoped then
    ∀ targets, node.powerCoverage.get? path.endpoint = some targets →
      ∀ endpoint ∈ targets, endpoint ∉ node.endpoints.map (·.endpointId) →
        index.devicesOn node.nodeId endpoint = []
  else
    match node.linkTarget? path.endpoint with
    | some target =>
        if isElectrical path.cluster then
          (path.endpoint = 0 ∨ index.devicesOn node.nodeId path.endpoint = []) ∧
            (index.devicesOn node.nodeId target).length ≤ 1
        else
          ResolvesAlone index node.nodeId path.endpoint handler ∧
            index.devicesOn node.nodeId target = []
    | none => ResolvesAlone index node.nodeId path.endpoint handler

/-! ## Who is primed -/

/-- A choice from a list meets the whole list exactly when it has no second element. -/
theorem onlyChosen_iff {α : Type} {candidates others : List α} {chosen : Option α}
    (nodup : candidates.Nodup) (disjoint : ∀ device ∈ candidates, device ∉ others)
    (isChosen : ∀ device, chosen = some device → device ∈ candidates)
    (chooses : chosen = none → candidates = []) :
    (∀ device, (device ∈ candidates ∨ device ∈ others) ↔ chosen = some device) ↔
      candidates.length ≤ 1 ∧ others = [] := by
  constructor
  · intro meets
    have noOther : others = [] := by
      apply List.eq_nil_iff_forall_not_mem.mpr
      intro device member
      exact disjoint device (isChosen device ((meets device).mp (.inr member))) member
    constructor
    · cases candidates with
      | nil => simp
      | cons first rest =>
          have isFirst := (meets first).mp (.inl List.mem_cons_self)
          have noRest : rest = [] := by
            apply List.eq_nil_iff_forall_not_mem.mpr
            intro device member
            have same := (meets device).mp (.inl (List.mem_cons_of_mem _ member))
            obtain rfl := Option.some.inj (isFirst.symm.trans same)
            exact (List.nodup_cons.mp nodup).1 member
          simp [noRest]
    · exact noOther
  · rintro ⟨short, rfl⟩ device
    cases candidates with
    | nil =>
        cases choice : chosen with
        | none => simp
        | some other => exact absurd (isChosen other choice) List.not_mem_nil
    | cons first rest =>
        have noRest : rest = [] := by simpa using short
        cases choice : chosen with
        | none => exact absurd (chooses choice) (List.cons_ne_nil _ _)
        | some other =>
            obtain rfl : other = first := by simpa [noRest] using isChosen other choice
            simp [noRest, eq_comm]

section Routing

variable {devices : IndigoDevices} {sync : DeviceSync} {node : NodeInfo}

theorem mem_devicesOn {index : DeviceIndex} {nodeId : NodeId} {endpointId : EndpointId}
    {device : DeviceId} :
    device ∈ index.devicesOn nodeId endpointId ↔
      ∃ typeId, (index.typeMap nodeId endpointId).get? typeId = some device :=
  InsertionMap.mem_values_iff

/-- An endpoint lists each of its devices once. -/
theorem Located.devicesOn_nodup {index : DeviceIndex} (located : Located devices index)
    (nodeId : NodeId) (endpointId : EndpointId) : (index.devicesOn nodeId endpointId).Nodup := by
  refine List.Nodup.map_on ?_ (index.typeMap nodeId endpointId).nodupKeys.of_map
  rintro ⟨first, device⟩ firstListed ⟨second, _⟩ secondListed rfl
  have same := located.unique (InsertionMap.mem_entries_iff.mp firstListed)
    (InsertionMap.mem_entries_iff.mp secondListed)
  rw [same.2.2]

theorem Located.ownTypeIn_eq {index : DeviceIndex} (located : Located devices index)
    {nodeId : NodeId} {endpointId : EndpointId} {typeId : TypeId} {device : DeviceId}
    (stored : (index.typeMap nodeId endpointId).get? typeId = some device) :
    ownTypeIn (index.typeMap nodeId endpointId) device = typeId := by
  cases found : (index.typeMap nodeId endpointId).entries.find? (·.2 = device) with
  | none =>
      have listed := InsertionMap.mem_entries_iff.mpr stored
      simpa using List.find?_eq_none.mp found _ listed
  | some entry =>
      rcases entry with ⟨other, _⟩
      obtain rfl : _ = device := by simpa using List.find?_some found
      have same := located.unique
        (InsertionMap.mem_entries_iff.mp (List.mem_of_find?_eq_some found)) stored
      simp [ownTypeIn, found, same.2.2]

/-- The pass of the device of one type on one endpoint. -/
def passOf (index : DeviceIndex) (nodeId : NodeId) (endpointId : EndpointId) (typeId : TypeId)
    (device : DeviceId) : PrimePass :=
  { device, endpointId, ownType := typeId, siblings := (index.typeMap nodeId endpointId).keys }

theorem Located.mem_primedDevices (located : Located devices sync.index) {path : AttributePath}
    (present : path ∈ node.attributes.keys) {device : DeviceId} :
    device ∈ sync.primedDevices node path ↔
      ∃ endpoint ∈ node.endpoints, ∃ typeId,
        (sync.index.typeMap node.nodeId endpoint.endpointId).get? typeId = some device ∧
          sync.primes node.nodeId
            (passOf sync.index node.nodeId endpoint.endpointId typeId device) path = true := by
  have reaches (pass : PrimePass) :
      path ∈ (sync.primedAttributes node pass).map Prod.fst ↔
        sync.primes node.nodeId pass path = true := by
    rcases List.mem_map.mp present with ⟨⟨_, value⟩, listed, rfl⟩
    simp only [DeviceSync.primedAttributes, List.mem_map, List.mem_filter, Prod.exists,
      exists_and_right, exists_eq_right]
    constructor
    · exact And.right
    · intro primed
      exact ⟨⟨value, listed⟩, primed⟩
  simp only [DeviceSync.primedDevices, DeviceSync.refreshPasses, endpointPasses, List.mem_map,
    List.mem_filter, List.mem_flatMap, decide_eq_true_eq, reaches]
  constructor
  · rintro ⟨_, ⟨⟨endpoint, listed, other, member, rfl⟩, primed⟩, rfl⟩
    rcases InsertionMap.mem_values_iff.mp member with ⟨typeId, stored⟩
    refine ⟨endpoint, listed, typeId, stored, ?_⟩
    rw [located.ownTypeIn_eq stored] at primed
    exact primed
  · rintro ⟨endpoint, listed, typeId, stored, primed⟩
    refine ⟨_, ⟨⟨endpoint, listed, device, InsertionMap.mem_values_iff.mpr ⟨typeId, stored⟩, rfl⟩, ?_⟩,
      rfl⟩
    rw [located.ownTypeIn_eq stored]
    exact primed

/-- Away from the root endpoint and from links, an attribute primes the devices of
its endpoint that its handler does not leave to a sibling. -/
def Accepts (typeMap : InsertionMap TypeId DeviceId) (handler : ClusterHandler) (typeId : TypeId) :
    Prop :=
  handler.deviceTypeId = "" ∨ handler.deviceTypeId = typeId ∨ handler.deviceTypeId ∉ typeMap.keys

variable {path : AttributePath} {handler : ClusterHandler}

theorem primes_nodeScoped (derived : node.Derived) (present : path ∈ node.attributes.keys)
    (handled : handlerForCluster path.cluster = some handler) (wholeNode : handler.nodeScoped = true)
    {targets : List EndpointId} (covered : node.powerCoverage.get? path.endpoint = some targets)
    (pass : PrimePass) :
    (sync.recordNode node).primes node.nodeId pass path = true ↔ pass.endpointId ∈ targets := by
  have isPower := (nodeScoped_iff handled).mp wholeNode
  have notElectrical : isElectrical path.cluster = false := by
    rw [isPower]
    decide
  rcases batteryTargets_recordNode sync derived present isPower with ⟨_, found, read, own⟩
  obtain rfl := Option.some.inj (found.symm.trans covered)
  simp only [DeviceSync.primes, handled, wholeNode, read, notElectrical, isOutside]
  grind

theorem primes_own (derived : node.Derived) (informative : node.attributes.entries.isEmpty = false)
    (handled : handlerForCluster path.cluster = some handler)
    (ordinary : handler.nodeScoped = false) {typeId : TypeId} {device : DeviceId} :
    (sync.recordNode node).primes node.nodeId
        (passOf sync.index node.nodeId path.endpoint typeId device) path = true ↔
      ¬(path.endpoint = 0 ∧ (node.linkTarget? path.endpoint).isSome ∧
          isElectrical path.cluster = true) ∧
        Accepts (sync.index.typeMap node.nodeId path.endpoint) handler typeId := by
  simp only [DeviceSync.primes, handled, passOf, forwardLinks_recordNode sync derived informative,
    ordinary, Accepts]
  grind

theorem primes_other (derived : node.Derived) (informative : node.attributes.entries.isEmpty = false)
    (handled : handlerForCluster path.cluster = some handler)
    (ordinary : handler.nodeScoped = false) {pass : PrimePass}
    (elsewhere : path.endpoint ≠ pass.endpointId) :
    (sync.recordNode node).primes node.nodeId pass path = true ↔
      node.linkTarget? path.endpoint = some pass.endpointId := by
  simp only [DeviceSync.primes, handled, ordinary, elsewhere,
    mem_linkedSources_recordNode sync derived informative]
  grind

/-! ## Who a live update is delivered to -/

theorem mem_liveTargets_nodeScoped {capable : List TypeId}
    (handled : handlerForCluster path.cluster = some handler) (wholeNode : handler.nodeScoped = true)
    {targets : List EndpointId} {nodeId : NodeId}
    (read : sync.batteryTargets nodeId path.endpoint = some targets) {device : DeviceId} :
    device ∈ sync.liveTargets capable nodeId path ↔
      ∃ endpoint ∈ targets, device ∈ sync.index.devicesOn nodeId endpoint := by
  simp only [DeviceSync.liveTargets, handled, wholeNode, read, isOutside, List.mem_flatMap,
    List.mem_filter, Prod.exists, if_true]
  constructor
  · rintro ⟨_, endpoint, typeMap, ⟨listed, selected⟩, member⟩
    simp only [Bool.and_eq_true, decide_eq_true_eq, Bool.not_eq_true', decide_eq_false_iff_not,
      not_not] at selected
    rcases selected with ⟨rfl, covered⟩
    refine ⟨endpoint, covered, ?_⟩
    simpa [DeviceIndex.devicesOn, DeviceIndex.typeMap, InsertionMap.mem_entries_iff.mp listed]
      using member
  · rintro ⟨endpoint, covered, member⟩
    cases stored : sync.index.get? (nodeId, endpoint) with
    | none => simp [DeviceIndex.devicesOn, DeviceIndex.typeMap, stored] at member
    | some typeMap =>
        refine ⟨nodeId, endpoint, typeMap, ⟨InsertionMap.mem_entries_iff.mpr stored, ?_⟩, ?_⟩
        · simp [covered]
        · simpa [DeviceIndex.devicesOn, DeviceIndex.typeMap, stored] using member

theorem mem_devicesOn_of_firstDevice? {index : DeviceIndex} {nodeId : NodeId}
    {endpointId : EndpointId} {device : DeviceId}
    (first : index.firstDevice? nodeId endpointId = some device) :
    device ∈ index.devicesOn nodeId endpointId :=
  List.mem_of_mem_head? first

/-- The devices of an endpoint that priming would pass an attribute of the handler. -/
def acceptedOn (index : DeviceIndex) (nodeId : NodeId) (endpointId : EndpointId)
    (handler : ClusterHandler) : List DeviceId :=
  let typeMap := index.typeMap nodeId endpointId
  if handler.deviceTypeId = "" then typeMap.values
  else
    match typeMap.get? handler.deviceTypeId with
    | some device => [device]
    | none => typeMap.values

theorem mem_acceptedOn {index : DeviceIndex} {nodeId : NodeId} {endpointId : EndpointId}
    {device : DeviceId} :
    device ∈ acceptedOn index nodeId endpointId handler ↔
      ∃ typeId, (index.typeMap nodeId endpointId).get? typeId = some device ∧
        Accepts (index.typeMap nodeId endpointId) handler typeId := by
  simp only [acceptedOn, Accepts]
  split
  · rename_i untyped
    simp [InsertionMap.mem_values_iff, untyped]
  · rename_i typed
    split
    · rename_i own stored
      have present : handler.deviceTypeId ∈ (index.typeMap nodeId endpointId).keys :=
        InsertionMap.mem_keys_iff.mpr ⟨own, stored⟩
      simp only [List.mem_singleton, typed, present, not_true_eq_false, or_false, false_or]
      constructor
      · rintro rfl
        exact ⟨_, stored, rfl⟩
      · rintro ⟨_, other, rfl⟩
        exact Option.some.inj (other.symm.trans stored)
    · rename_i absent
      simp [InsertionMap.mem_values_iff, InsertionMap.get?_eq_none_iff.mp absent]

theorem acceptedOn_length {index : DeviceIndex} {nodeId : NodeId} {endpointId : EndpointId} :
    (acceptedOn index nodeId endpointId handler).length ≤ 1 ↔
      ResolvesAlone index nodeId endpointId handler := by
  simp only [acceptedOn, ResolvesAlone, DeviceIndex.devicesOn]
  split
  · rename_i untyped
    simp [untyped]
  · rename_i typed
    split
    · rename_i own stored
      have present : handler.deviceTypeId ∈ (index.typeMap nodeId endpointId).keys :=
        InsertionMap.mem_keys_iff.mpr ⟨own, stored⟩
      simp [typed, present]
    · rename_i absent
      simp [InsertionMap.get?_eq_none_iff.mp absent]

theorem acceptedOn_sublist {index : DeviceIndex} {nodeId : NodeId} {endpointId : EndpointId} :
    ∀ device ∈ acceptedOn index nodeId endpointId handler,
      device ∈ index.devicesOn nodeId endpointId := by
  intro device accepted
  rcases mem_acceptedOn.mp accepted with ⟨typeId, stored, _⟩
  exact mem_devicesOn.mpr ⟨typeId, stored⟩

theorem acceptedOn_nodup {index : DeviceIndex} (located : Located devices index) {nodeId : NodeId}
    {endpointId : EndpointId} : (acceptedOn index nodeId endpointId handler).Nodup := by
  have nodup := located.devicesOn_nodup nodeId endpointId
  simp only [acceptedOn]
  split
  · exact nodup
  · split
    · exact List.nodup_singleton _
    · exact nodup

/-- A live update goes to one of the devices priming accepts, if there is any. -/
theorem resolve?_mem {index : DeviceIndex} {nodeId : NodeId} {endpointId : EndpointId} :
    (∀ device, index.resolve? nodeId endpointId handler = some device →
      device ∈ acceptedOn index nodeId endpointId handler) ∧
    (index.resolve? nodeId endpointId handler = none →
      acceptedOn index nodeId endpointId handler = []) := by
  simp only [DeviceIndex.resolve?, acceptedOn]
  split
  · constructor
    · intro device first
      exact mem_devicesOn_of_firstDevice? first
    · exact List.head?_eq_none_iff.mp
  · split
    · simp
    · constructor
      · intro device first
        exact mem_devicesOn_of_firstDevice? first
      · exact List.head?_eq_none_iff.mp

theorem rewritten_mem {capable : List TypeId} {index : DeviceIndex} {nodeId : NodeId}
    {target : EndpointId} (untyped : handler.deviceTypeId = "") :
    let chosen :=
      match capable.findSome? (index.typeMap nodeId target).get? with
      | some device => some device
      | none => index.resolve? nodeId target handler
    (∀ device, chosen = some device → device ∈ index.devicesOn nodeId target) ∧
      (chosen = none → index.devicesOn nodeId target = []) := by
  simp only [DeviceIndex.resolve?, untyped]
  split
  · rename_i device found
    rcases List.exists_of_findSome?_eq_some found with ⟨typeId, _, stored⟩
    have member := mem_devicesOn.mpr ⟨typeId, stored⟩
    constructor
    · rintro _ ⟨⟩
      exact member
    · simp
  · constructor
    · intro device first
      exact mem_devicesOn_of_firstDevice? first
    · exact List.head?_eq_none_iff.mp

theorem mem_deliveredDevices {capable : List TypeId} (located : Located devices sync.index)
    (allActive : ∀ device ∈ devices.keys, device ∈ sync.active) {nodeId : NodeId}
    {device : DeviceId}
    (indexed : device ∈ sync.liveTargets capable nodeId path →
      ∃ endpoint, device ∈ sync.index.devicesOn nodeId endpoint) :
    device ∈ sync.deliveredDevices capable devices nodeId path ↔
      device ∈ sync.liveTargets capable nodeId path := by
  simp only [DeviceSync.deliveredDevices, List.mem_filter, and_iff_left_iff_imp, Bool.and_eq_true,
    Bool.or_eq_true, decide_eq_true_eq, InsertionMap.has_iff]
  intro member
  rcases indexed member with ⟨endpoint, onEndpoint⟩
  rcases mem_devicesOn.mp onEndpoint with ⟨typeId, stored⟩
  rcases located _ _ _ _ stored with ⟨record, found, _⟩
  have known : device ∈ devices.keys := InsertionMap.mem_keys_iff.mpr ⟨record, found⟩
  exact ⟨.inr (allActive device known), known⟩

/-! ## Agreement -/

private theorem agree_nodeScoped {capable : List TypeId} (derived : node.Derived)
    (located : Located devices sync.index)
    (allActive : ∀ device ∈ devices.keys, device ∈ sync.active)
    (present : path ∈ node.attributes.keys)
    (handled : handlerForCluster path.cluster = some handler)
    (wholeNode : handler.nodeScoped = true) :
    (∀ device, device ∈ (sync.recordNode node).primedDevices node path ↔
        device ∈ (sync.recordNode node).deliveredDevices capable devices node.nodeId path) ↔
      RoutesAgree sync.index node path handler := by
  have isPower := (nodeScoped_iff handled).mp wholeNode
  rcases batteryTargets_recordNode sync derived present isPower with ⟨targets, covered, read, _⟩
  have primed (device : DeviceId) :
      device ∈ (sync.recordNode node).primedDevices node path ↔
        ∃ endpoint ∈ node.endpoints, endpoint.endpointId ∈ targets ∧
          device ∈ sync.index.devicesOn node.nodeId endpoint.endpointId := by
    rw [Located.mem_primedDevices (by simpa using located) present]
    simp only [primes_nodeScoped derived present handled wholeNode covered, passOf,
      DeviceSync.recordNode_index, mem_devicesOn]
    grind
  have delivered (device : DeviceId) :
      device ∈ (sync.recordNode node).deliveredDevices capable devices node.nodeId path ↔
        ∃ endpoint ∈ targets, device ∈ sync.index.devicesOn node.nodeId endpoint := by
    have reached := @mem_liveTargets_nodeScoped (sync.recordNode node) path handler capable handled
      wholeNode targets node.nodeId read device
    rw [DeviceSync.recordNode_index] at reached
    rw [mem_deliveredDevices (by simpa using located) (by simpa using allActive), reached]
    intro member
    rcases reached.mp member with ⟨endpoint, _, onEndpoint⟩
    exact ⟨endpoint, by simpa using onEndpoint⟩
  simp only [primed, delivered, RoutesAgree, wholeNode, if_true, covered, Option.some.injEq,
    forall_eq']
  constructor
  · intro agree endpoint powered missing
    apply List.eq_nil_iff_forall_not_mem.mpr
    intro device member
    rcases (agree device).mpr ⟨endpoint, powered, member⟩ with ⟨other, listed, _, onOther⟩
    rcases mem_devicesOn.mp member with ⟨typeId, stored⟩
    rcases mem_devicesOn.mp onOther with ⟨otherType, otherStored⟩
    have same := (located.unique stored otherStored).2.1
    exact missing (List.mem_map.mpr ⟨other, listed, same.symm⟩)
  · intro covers device
    constructor
    · rintro ⟨endpoint, _, powered, member⟩
      exact ⟨endpoint.endpointId, powered, member⟩
    · rintro ⟨endpoint, powered, member⟩
      by_cases listed : endpoint ∈ node.endpoints.map (·.endpointId)
      · rcases List.mem_map.mp listed with ⟨info, onNode, rfl⟩
        exact ⟨info, onNode, powered, member⟩
      · rw [covers endpoint powered listed] at member
        cases member

/-- Priming goes over the devices of the path's own endpoint, and over those of the
endpoint it is linked to. -/
private theorem mem_primed_ordinary (derived : node.Derived) (located : Located devices sync.index)
    (present : path ∈ node.attributes.keys)
    (informative : node.attributes.entries.isEmpty = false)
    (handled : handlerForCluster path.cluster = some handler)
    (ordinary : handler.nodeScoped = false) (device : DeviceId) :
    device ∈ (sync.recordNode node).primedDevices node path ↔
      (¬(path.endpoint = 0 ∧ (node.linkTarget? path.endpoint).isSome ∧
          isElectrical path.cluster = true) ∧
        device ∈ acceptedOn sync.index node.nodeId path.endpoint handler) ∨
      ∃ target, node.linkTarget? path.endpoint = some target ∧
        device ∈ sync.index.devicesOn node.nodeId target := by
  rw [Located.mem_primedDevices (by simpa using located) present]
  simp only [DeviceSync.recordNode_index, mem_acceptedOn, mem_devicesOn]
  constructor
  · rintro ⟨endpoint, _, typeId, stored, primed⟩
    by_cases own : path.endpoint = endpoint.endpointId
    · rw [← own] at stored primed
      have accepted := (primes_own derived informative handled ordinary).mp primed
      exact .inl ⟨accepted.1, typeId, stored, accepted.2⟩
    · have linked := (primes_other derived informative handled ordinary (by exact own)).mp primed
      exact .inr ⟨_, linked, typeId, stored⟩
  · rintro (⟨unlinked, typeId, stored, accepted⟩ | ⟨target, linked, typeId, stored⟩)
    · rcases derived.exists_endpoint present with ⟨endpoint, listed, same⟩
      refine ⟨endpoint, listed, typeId, same ▸ stored, ?_⟩
      rw [same]
      exact (primes_own derived informative handled ordinary).mpr ⟨unlinked, accepted⟩
    · rcases target_of_linkTarget? derived linked with ⟨differs, endpoint, listed, rfl, _⟩
      refine ⟨endpoint, listed, typeId, stored, ?_⟩
      exact (primes_other derived informative handled ordinary (by exact differs)).mpr linked

private theorem mem_delivered_ordinary {capable : List TypeId} (located : Located devices sync.index)
    (allActive : ∀ device ∈ devices.keys, device ∈ sync.active)
    (handled : handlerForCluster path.cluster = some handler)
    (ordinary : handler.nodeScoped = false) {chosen : Option DeviceId}
    (lookup : (sync.recordNode node).lookupForCluster capable node.nodeId path.endpoint
      path.cluster = chosen) {endpoint : EndpointId}
    (indexed : ∀ device, chosen = some device → device ∈ sync.index.devicesOn node.nodeId endpoint)
    (device : DeviceId) :
    device ∈ (sync.recordNode node).deliveredDevices capable devices node.nodeId path ↔
      chosen = some device := by
  have reached : device ∈ (sync.recordNode node).liveTargets capable node.nodeId path ↔
      chosen = some device := by
    simp [DeviceSync.liveTargets, handled, ordinary, lookup, Option.mem_toList]
  rw [mem_deliveredDevices (by simpa using located) (by simpa using allActive), reached]
  intro member
  exact ⟨endpoint, by simpa using indexed device (reached.mp member)⟩

private theorem agree_rewritten {capable : List TypeId} (derived : node.Derived)
    (located : Located devices sync.index)
    (allActive : ∀ device ∈ devices.keys, device ∈ sync.active)
    (present : path ∈ node.attributes.keys)
    (informative : node.attributes.entries.isEmpty = false)
    (handled : handlerForCluster path.cluster = some handler)
    (ordinary : handler.nodeScoped = false) {target : EndpointId}
    (linked : node.linkTarget? path.endpoint = some target)
    (electrical : isElectrical path.cluster = true) :
    (∀ device, device ∈ (sync.recordNode node).primedDevices node path ↔
        device ∈ (sync.recordNode node).deliveredDevices capable devices node.nodeId path) ↔
      RoutesAgree sync.index node path handler := by
  have untyped := deviceTypeId_of_isElectrical handled electrical
  have lookup : (sync.recordNode node).lookupForCluster capable node.nodeId path.endpoint
      path.cluster = match capable.findSome? (sync.index.typeMap node.nodeId target).get? with
        | some device => some device
        | none => sync.index.resolve? node.nodeId target handler := by
    simp [DeviceSync.lookupForCluster, DeviceSync.rewrittenTo?, electrical,
      forwardLinks_recordNode sync derived informative, linked, handled]
  rcases @rewritten_mem handler capable sync.index node.nodeId target untyped with ⟨isOn, none_⟩
  have delivered := mem_delivered_ordinary located allActive handled ordinary lookup isOn
  -- Off the root endpoint the meter's own devices are primed as well.
  have primed (device : DeviceId) :
      device ∈ (sync.recordNode node).primedDevices node path ↔
        device ∈ sync.index.devicesOn node.nodeId target ∨
          device ∈ if path.endpoint = 0 then [] else
            sync.index.devicesOn node.nodeId path.endpoint := by
    rw [mem_primed_ordinary derived located present informative handled ordinary]
    simp only [linked, electrical, acceptedOn, untyped, Option.isSome_some, DeviceIndex.devicesOn]
    by_cases root : path.endpoint = 0 <;> simp [root, or_comm]
  have elsewhere : ∀ device ∈ sync.index.devicesOn node.nodeId target,
      device ∉ if path.endpoint = 0 then [] else
        sync.index.devicesOn node.nodeId path.endpoint := by
    intro device onTarget
    split
    · exact List.not_mem_nil
    · intro onMeter
      rcases mem_devicesOn.mp onTarget with ⟨_, stored⟩
      rcases mem_devicesOn.mp onMeter with ⟨_, otherStored⟩
      exact (target_of_linkTarget? derived linked).1 (located.unique otherStored stored).2.1
  simp only [primed, delivered]
  rw [onlyChosen_iff (located.devicesOn_nodup _ _) elsewhere isOn none_]
  simp only [RoutesAgree, ordinary, linked, electrical]
  by_cases root : path.endpoint = 0 <;> simp [root, and_comm]

private theorem agree_resolved {capable : List TypeId} (derived : node.Derived)
    (located : Located devices sync.index)
    (allActive : ∀ device ∈ devices.keys, device ∈ sync.active)
    (present : path ∈ node.attributes.keys)
    (informative : node.attributes.entries.isEmpty = false)
    (handled : handlerForCluster path.cluster = some handler)
    (ordinary : handler.nodeScoped = false)
    (here : isElectrical path.cluster = true → node.linkTarget? path.endpoint = none) :
    (∀ device, device ∈ (sync.recordNode node).primedDevices node path ↔
        device ∈ (sync.recordNode node).deliveredDevices capable devices node.nodeId path) ↔
      RoutesAgree sync.index node path handler := by
  have lookup : (sync.recordNode node).lookupForCluster capable node.nodeId path.endpoint
      path.cluster = sync.index.resolve? node.nodeId path.endpoint handler := by
    by_cases electrical : isElectrical path.cluster = true
    · simp [DeviceSync.lookupForCluster, DeviceSync.rewrittenTo?, electrical,
        forwardLinks_recordNode sync derived informative, here electrical, handled]
    · simp [DeviceSync.lookupForCluster, DeviceSync.rewrittenTo?, electrical, handled]
  rcases @resolve?_mem handler sync.index node.nodeId path.endpoint with ⟨isAccepted, none_⟩
  have delivered := mem_delivered_ordinary located allActive handled ordinary lookup
    fun device resolved => acceptedOn_sublist device (isAccepted device resolved)
  let linkedOn := match node.linkTarget? path.endpoint with
    | some target => sync.index.devicesOn node.nodeId target
    | none => []
  have primed (device : DeviceId) :
      device ∈ (sync.recordNode node).primedDevices node path ↔
        device ∈ acceptedOn sync.index node.nodeId path.endpoint handler ∨ device ∈ linkedOn := by
    rw [mem_primed_ordinary derived located present informative handled ordinary]
    cases linked : node.linkTarget? path.endpoint with
    | none => simp [linkedOn, linked]
    | some target =>
        have notElectrical : isElectrical path.cluster = false := by
          by_contra electrical
          rw [here (by simpa using electrical)] at linked
          cases linked
        simp [linkedOn, linked, notElectrical]
  have elsewhere : ∀ device ∈ acceptedOn sync.index node.nodeId path.endpoint handler,
      device ∉ linkedOn := by
    intro device accepted
    cases linked : node.linkTarget? path.endpoint with
    | none => simp [linkedOn, linked]
    | some target =>
        simp only [linkedOn, linked]
        intro onTarget
        rcases mem_devicesOn.mp (acceptedOn_sublist device accepted) with ⟨_, stored⟩
        rcases mem_devicesOn.mp onTarget with ⟨_, otherStored⟩
        exact (target_of_linkTarget? derived linked).1 (located.unique stored otherStored).2.1
  simp only [primed, delivered]
  rw [onlyChosen_iff (acceptedOn_nodup located) elsewhere isAccepted none_, acceptedOn_length]
  cases linked : node.linkTarget? path.endpoint with
  | none => simp [RoutesAgree, ordinary, linked, linkedOn]
  | some target =>
      have notElectrical : isElectrical path.cluster = false := by
        by_contra electrical
        rw [here (by simpa using electrical)] at linked
        cases linked
      simp [RoutesAgree, ordinary, linked, linkedOn, notElectrical]

end Routing

/-- Priming and live routing feed the same devices exactly when `RoutesAgree`. -/
theorem primed_iff_delivered_iff_routesAgree (capable : List TypeId) (sync : DeviceSync)
    (devices : IndigoDevices) {raw : List (String × PyJson)} {node : NodeInfo}
    (parsed : parseNode? raw = some node) {path : AttributePath}
    (present : path ∈ node.attributes.keys) {handler : ClusterHandler}
    (handled : handlerForCluster path.cluster = some handler)
    (allActive : ∀ device ∈ devices.keys, device ∈ sync.active) :
    let refreshed := DeviceSync.recordNode { sync with index := rebuildIndex devices } node
    (∀ device, device ∈ refreshed.primedDevices node path ↔
        device ∈ refreshed.deliveredDevices capable devices node.nodeId path) ↔
      RoutesAgree (rebuildIndex devices) node path handler := by
  have derived := derived_of_parseNode? parsed
  have located := located_rebuildIndex devices
  have informative : node.attributes.entries.isEmpty = false := isEmpty_entries_of_mem_keys present
  cases wholeNode : handler.nodeScoped with
  | true => exact agree_nodeScoped derived located allActive present handled wholeNode
  | false =>
      by_cases electrical : isElectrical path.cluster = true
      · cases linked : node.linkTarget? path.endpoint with
        | some target =>
            exact agree_rewritten derived located allActive present informative handled wholeNode
              linked electrical
        | none =>
            exact agree_resolved derived located allActive present informative handled wholeNode
              fun _ => linked
      · exact agree_resolved derived located allActive present informative handled wholeNode
          fun is => absurd is electrical

/-! ## A meter that stands beside the plug it is linked to -/

/-- A plug on endpoint 1 and its meter on endpoint 2. -/
def meteredPlug : List (String × PyJson) :=
  [("node_id", .int 5),
    ("attributes", .dict [("1/6/0", .bool true), ("2/144/8", .int 1500)])]

/-- The relay of the plug, and the meter device from before the link was known. -/
def plugAndMeter : IndigoDevices :=
  .ofList [(10, ⟨"matterRelay", some 5, some 1, ∅⟩), (11, ⟨"matterEnergyMeter", some 5, some 2, ∅⟩)]

/-- A plugin that has started these devices and seen no node yet. -/
def startedSync : DeviceSync := ⟨∅, [10, 11], ∅, ∅, ∅⟩

theorem routesAgree_on_plug :
    ∃ node, parseNode? meteredPlug = some node ∧
      ((∀ device,
        device ∈ (DeviceSync.recordNode
            { startedSync with index := rebuildIndex plugAndMeter } node).primedDevices node ⟨1, 6, 0⟩ ↔
          device ∈ (DeviceSync.recordNode
            { startedSync with index := rebuildIndex plugAndMeter } node).deliveredDevices
              meterCapableTypes plugAndMeter node.nodeId ⟨1, 6, 0⟩) ↔
        RoutesAgree (rebuildIndex plugAndMeter) node ⟨1, 6, 0⟩ onOffHandler) :=
  ⟨_, rfl, primed_iff_delivered_iff_routesAgree meterCapableTypes startedSync plugAndMeter
    (show parseNode? meteredPlug = some _ from rfl) (by decide) rfl (by decide)⟩

/-- The meter device is primed with its reading, which live updates take to the
relay alone. -/
theorem meter_primed_not_delivered :
    ∃ node, parseNode? meteredPlug = some node ∧
      (DeviceSync.recordNode { startedSync with index := rebuildIndex plugAndMeter }
        node).primedDevices node ⟨2, 0x0090, 8⟩ = [10, 11] ∧
      (DeviceSync.recordNode { startedSync with index := rebuildIndex plugAndMeter }
        node).deliveredDevices meterCapableTypes plugAndMeter node.nodeId ⟨2, 0x0090, 8⟩ = [10] :=
  ⟨_, rfl, by decide, by decide⟩

end IndigoMatter.Plugin
