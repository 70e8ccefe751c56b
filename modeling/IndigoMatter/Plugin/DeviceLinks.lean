import IndigoMatter.Plugin.DeviceIndex

/-!
# Power sources and linked meters

Two facts about a node are read off its model and kept for routing.  A power
source says which endpoints it powers, and a meter that stands on an endpoint of
its own is linked to the endpoint whose consumption it measures.

Both are rebuilt from the model whenever it carries any attribute; a model without
attributes says nothing and leaves them as they are.
-/

namespace IndigoMatter.Plugin

open IndigoMatter.Library

/-- `DeviceSync`, as far as routing reads it. -/
structure DeviceSync where
  index : DeviceIndex
  active : List DeviceId
  forwardLinks : InsertionMap (NodeId × EndpointId) EndpointId
  reverseLinks : InsertionMap (NodeId × EndpointId) (List EndpointId)
  powerCoverage : InsertionMap NodeId (InsertionMap EndpointId (List EndpointId))

/-! ## Power coverage -/

/-- `ATTR_ENDPOINT_LIST` of a power source. -/
def endpointListPath (endpoint : EndpointId) : AttributePath :=
  ⟨endpoint, clusterPowerSource, 0x001F⟩

/-- `_parse_endpoint_list`. -/
def parseEndpointList? : Option PyJson → Option (List EndpointId)
  | some (.list entries) =>
      if entries.any PyJson.isBool then none else entries.mapM PyJson.toInt?
  | _ => none

/-- What one power source powers, `heuristic` standing in where it does not say. -/
def sourceTargets (allEndpoints heuristic : List EndpointId) (source : EndpointId)
    (listed : Option (List EndpointId)) : List EndpointId :=
  match listed with
  | none => heuristic
  | some [] => allEndpoints
  | some listed => source :: listed

/-- `resolve_power_coverage`, its `by_source`. -/
def resolvePowerCoverage (powerSourceEps : List EndpointId)
    (endpointLists : EndpointId → Option PyJson) (nodeEndpointIds : List EndpointId) :
    InsertionMap EndpointId (List EndpointId) :=
  let sources := powerSourceEps.insertionSort (· ≤ ·)
  .ofList (sources.map fun source =>
    (source, sourceTargets nodeEndpointIds
      (if sources.length > 1 then [source] else nodeEndpointIds) source
      (parseEndpointList? (endpointLists source))))

/-- The endpoints of a node that carry a power source. -/
def NodeInfo.powerSourceEps (node : NodeInfo) : List EndpointId :=
  (node.endpoints.filter (·.has clusterPowerSource)).map (·.endpointId)

/-- The coverage `create_devices` resolves for a node. -/
def NodeInfo.powerCoverage (node : NodeInfo) : InsertionMap EndpointId (List EndpointId) :=
  resolvePowerCoverage node.powerSourceEps (fun source => node.attributes.get? (endpointListPath source))
    (node.endpoints.map (·.endpointId))

/-- `_battery_targets`; `none` where there is no authority. -/
def DeviceSync.batteryTargets (sync : DeviceSync) (nodeId : NodeId) (source : EndpointId) :
    Option (List EndpointId) :=
  match sync.powerCoverage.get? nodeId with
  | none => none
  | some bySource =>
      if bySource.entries.isEmpty then none
      else
        match bySource.get? source with
        | some targets => some targets
        | none => if bySource.size > 1 then some [source] else none

/-! ## Meter links -/

/-- `_METER_CAPABLE_TYPES`. -/
def meterCapableTypes : List TypeId := ["matterRelay", "matterDimmer", "matterColorDimmer"]

/-- `_NON_DEVICE_CLUSTERS`. -/
def nonDeviceClusters : List ClusterId :=
  [0x0003, 0x0004, 0x0005, 0x001D, 0x001E, 0x0028, 0x002F, 0x0039, 0x0040, 0x0041, 0x0062,
    0x0090, 0x0091, 0x009C]

/-- Whether an endpoint measures electricity. -/
def EndpointInfo.isMetering (endpoint : EndpointInfo) : Bool :=
  endpoint.has clusterElectricalPower || endpoint.has clusterElectricalEnergy

/-- `_is_meter_source_candidate`. -/
def isMeterSourceCandidate (endpoint : EndpointInfo) (specs : List TypeId) : Bool :=
  if !specs.isEmpty then false
  else if !endpoint.isMetering then false
  else if endpoint.endpointId = 0 then true
  else endpoint.clusterIds.all (· ∈ nonDeviceClusters)

/-- The endpoints a meter may be linked to: they host a device that shows a
reading, and do not measure on their own. -/
def NodeInfo.meterCapableEps (node : NodeInfo) : List EndpointId :=
  (node.endpoints.filter fun endpoint =>
    (handlersForEndpoint endpoint).any (· ∈ meterCapableTypes) && !endpoint.isMetering).map
      (·.endpointId)

/-- An attribute of the `PowerTopology` cluster. -/
def powerTopologyPath (endpoint : EndpointId) (attributeId : Int) : AttributePath :=
  ⟨endpoint, clusterPowerTopology, attributeId⟩

/-- Whether a bit of the feature map is set. -/
def hasFeature (features : Int) (bit : Nat) : Bool := (features / 2 ^ bit) % 2 = 1

/-- The endpoints the topology of a meter lists, where it lists any. -/
def listedEndpoints? (node : NodeInfo) (source : EndpointInfo) : Option (List EndpointId) :=
  let eid := source.endpointId
  match (node.attributes.get? (powerTopologyPath eid 0xFFFC)).bind PyJson.instInt? with
  | some features =>
      if source.has clusterPowerTopology && hasFeature features 2 then
        let listed := if hasFeature features 3 then 0x0001 else 0x0000
        match node.attributes.get? (powerTopologyPath eid listed) with
        | some (.list entries) => entries.mapM PyJson.toInt?
        | _ => none
      else none
  | none => none

/-- `_resolve_meter_target`: the one endpoint a meter's readings belong to. -/
def resolveMeterTarget (node : NodeInfo) (source : EndpointInfo)
    (meterCapableEps : List EndpointId) : Option EndpointId :=
  let candidates :=
    match listedEndpoints? node source with
    | some listed => meterCapableEps.filter (· ∈ listed)
    | none => meterCapableEps
  match candidates with
  | [target] => some target
  | _ => none

/-- The links of a node, from meter to target. -/
def NodeInfo.meterLinks (node : NodeInfo) : List (EndpointId × EndpointId) :=
  node.endpoints.filterMap fun endpoint =>
    if isMeterSourceCandidate endpoint (handlersForEndpoint endpoint) then
      (resolveMeterTarget node endpoint node.meterCapableEps).map fun target =>
        (endpoint.endpointId, target)
    else none

/-- The endpoint a meter's endpoint is linked to. -/
def NodeInfo.linkTarget? (node : NodeInfo) (source : EndpointId) : Option EndpointId :=
  node.meterLinks.lookup source

/-- The endpoints linked to a target. -/
def DeviceSync.linkedSources (sync : DeviceSync) (nodeId : NodeId) (target : EndpointId) :
    List EndpointId :=
  (sync.reverseLinks.get? (nodeId, target)).getD []

/-- `reverse.setdefault(key, set()).add(source)`. -/
def addSource (found : Option (List EndpointId)) (source : EndpointId) : List EndpointId :=
  let sources := found.getD []
  if source ∈ sources then sources else sources ++ [source]

/-- `_resolve_meter_links`. -/
def DeviceSync.resolveMeterLinks (sync : DeviceSync) (node : NodeInfo) : DeviceSync :=
  { sync with
    forwardLinks := (sync.forwardLinks.filterKeys (·.1 ≠ node.nodeId)).upsertAll
      (fun link => (node.nodeId, link.1)) (fun _ link => link.2) node.meterLinks
    reverseLinks := (sync.reverseLinks.filterKeys (·.1 ≠ node.nodeId)).upsertAll
      (fun link => (node.nodeId, link.2)) (fun found link => addSource found link.1)
      node.meterLinks }

/-- What `create_devices` records about a node before it plans any device. -/
def DeviceSync.recordNode (sync : DeviceSync) (node : NodeInfo) : DeviceSync :=
  if node.attributes.entries.isEmpty then sync
  else
    DeviceSync.resolveMeterLinks
      { sync with
        powerCoverage :=
          if node.powerCoverage.entries.isEmpty then sync.powerCoverage.delete node.nodeId
          else sync.powerCoverage.set node.nodeId node.powerCoverage }
      node

@[simp]
theorem DeviceSync.recordNode_index (sync : DeviceSync) (node : NodeInfo) :
    (sync.recordNode node).index = sync.index := by
  unfold recordNode
  split <;> rfl

@[simp]
theorem DeviceSync.recordNode_active (sync : DeviceSync) (node : NodeInfo) :
    (sync.recordNode node).active = sync.active := by
  unfold recordNode
  split <;> rfl

/-! ## The recorded coverage -/

theorem isEmpty_entries_of_mem_keys {κ ν : Type} {map : InsertionMap κ ν} {key : κ}
    (present : key ∈ map.keys) : map.entries.isEmpty = false := by
  rcases List.mem_map.mp present with ⟨entry, stored, _⟩
  exact List.isEmpty_eq_false_iff.mpr (List.ne_nil_of_mem stored)

private theorem resolvePowerCoverage_of_mem {sources endpoints : List EndpointId}
    (endpointLists : EndpointId → Option PyJson) {source : EndpointId} (isSource : source ∈ sources)
    (onNode : source ∈ endpoints) :
    ∃ targets, (resolvePowerCoverage sources endpointLists endpoints).get? source = some targets ∧
      source ∈ targets := by
  have stored : source ∈ (resolvePowerCoverage sources endpointLists endpoints).keys := by
    simp [resolvePowerCoverage, InsertionMap.mem_keys_ofList, isSource]
  rcases InsertionMap.mem_keys_iff.mp stored with ⟨targets, found⟩
  have listed := InsertionMap.mem_of_get?_ofList found
  simp only [List.mem_map, Prod.mk.injEq] at listed
  rcases listed with ⟨_, _, rfl, rfl⟩
  refine ⟨_, found, ?_⟩
  unfold sourceTargets
  split
  · split
    · exact List.mem_singleton_self _
    · exact onNode
  · exact onNode
  · exact List.mem_cons_self

/-- The targets of a power source the node model carries are recorded, itself among
them. -/
theorem batteryTargets_recordNode (sync : DeviceSync) {node : NodeInfo} (derived : node.Derived)
    {path : AttributePath} (present : path ∈ node.attributes.keys)
    (isPower : path.cluster = clusterPowerSource) :
    ∃ targets, node.powerCoverage.get? path.endpoint = some targets ∧
      (sync.recordNode node).batteryTargets node.nodeId path.endpoint = some targets ∧
        path.endpoint ∈ targets := by
  rcases derived.exists_endpoint present with ⟨endpoint, listed, same⟩
  have carries : endpoint.has clusterPowerSource = true :=
    (derived.has_iff listed).mpr ⟨path, present, same.symm, isPower⟩
  have isSource : path.endpoint ∈ node.powerSourceEps :=
    List.mem_map.mpr ⟨endpoint, List.mem_filter.mpr ⟨listed, carries⟩, same⟩
  have onNode : path.endpoint ∈ node.endpoints.map (·.endpointId) :=
    List.mem_map.mpr ⟨endpoint, listed, same⟩
  rcases resolvePowerCoverage_of_mem (fun source => node.attributes.get? (endpointListPath source))
    isSource onNode with ⟨targets, found, own⟩
  have found : node.powerCoverage.get? path.endpoint = some targets := found
  have covered : node.powerCoverage.entries.isEmpty = false :=
    isEmpty_entries_of_mem_keys (InsertionMap.mem_keys_iff.mpr ⟨targets, found⟩)
  have recorded : (sync.recordNode node).powerCoverage.get? node.nodeId = some node.powerCoverage := by
    simp [DeviceSync.recordNode, isEmpty_entries_of_mem_keys present, covered,
      DeviceSync.resolveMeterLinks]
  refine ⟨targets, found, ?_, own⟩
  simp [DeviceSync.batteryTargets, recorded, covered, found]

/-! ## The recorded links -/

@[simp]
theorem mem_addSource {found : Option (List EndpointId)} {source other : EndpointId} :
    other ∈ addSource found source ↔ other = source ∨ other ∈ found.getD [] := by
  simp only [addSource]
  split
  · constructor
    · exact .inr
    · rintro (rfl | earlier)
      · assumption
      · exact earlier
  · simp [or_comm]

private theorem mem_sources_upsertAll {nodeId : NodeId} {target : EndpointId}
    {source : EndpointId} {links : List (EndpointId × EndpointId)}
    {reverse : InsertionMap (NodeId × EndpointId) (List EndpointId)} :
    source ∈ ((reverse.upsertAll (fun link => (nodeId, link.2))
        (fun found link => addSource found link.1) links).get? (nodeId, target)).getD [] ↔
      source ∈ (reverse.get? (nodeId, target)).getD [] ∨ (source, target) ∈ links := by
  induction links generalizing reverse with
  | nil => simp [InsertionMap.upsertAll]
  | cons link rest ih =>
      rcases link with ⟨first, second⟩
      have step := @ih (reverse.set (nodeId, second)
        (addSource (reverse.get? (nodeId, second)) first))
      refine step.trans ?_
      by_cases same : target = second
      · subst second
        simp [or_assoc, or_left_comm]
      · simp [same]

/-- Links run from an endpoint of the node to another one that does not measure. -/
theorem mem_meterLinks {node : NodeInfo} {source target : EndpointId}
    (linked : (source, target) ∈ node.meterLinks) :
    ∃ meter ∈ node.endpoints, meter.endpointId = source ∧
      isMeterSourceCandidate meter (handlersForEndpoint meter) = true ∧
      target ∈ node.meterCapableEps ∧
      resolveMeterTarget node meter node.meterCapableEps = some target := by
  simp only [NodeInfo.meterLinks, List.mem_filterMap] at linked
  rcases linked with ⟨meter, listed, made⟩
  split at made
  · rename_i candidate
    simp only [Option.map_eq_some_iff, Prod.mk.injEq] at made
    rcases made with ⟨_, resolved, rfl, rfl⟩
    refine ⟨meter, listed, rfl, candidate, ?_, resolved⟩
    simp only [resolveMeterTarget] at resolved
    split at resolved
    · rename_i only single
      obtain rfl := Option.some.inj resolved
      split at single
      · have member : only ∈ node.meterCapableEps.filter _ := single ▸ List.mem_singleton_self only
        exact List.mem_of_mem_filter member
      · exact single ▸ List.mem_singleton_self only
    · cases resolved
  · cases made

private theorem filterMap_fst_sublist {f : EndpointInfo → Option (EndpointId × EndpointId)}
    (keeps : ∀ endpoint link, f endpoint = some link → link.1 = endpoint.endpointId)
    (endpoints : List EndpointInfo) :
    ((endpoints.filterMap f).map Prod.fst).Sublist (endpoints.map (·.endpointId)) := by
  induction endpoints with
  | nil => exact .slnil
  | cons endpoint rest ih =>
      cases made : f endpoint with
      | none => simpa [List.filterMap_cons, made] using ih.cons _
      | some link =>
          simpa [List.filterMap_cons, made, keeps endpoint link made] using ih

/-- A meter has one link. -/
theorem meterLinks_sources_nodup {node : NodeInfo} (derived : node.Derived) :
    (node.meterLinks.map Prod.fst).Nodup := by
  have nodup : (node.endpoints.map (·.endpointId)).Nodup := by
    rw [derived.endpointIds_eq]
    exact endpointIds_nodup _
  refine List.Nodup.sublist ?_ nodup
  apply filterMap_fst_sublist
  intro endpoint link made
  split at made
  · simp only [Option.map_eq_some_iff] at made
    rcases made with ⟨_, _, rfl⟩
    rfl
  · cases made

private theorem lookup_of_nodup {κ ν : Type} [DecidableEq κ] {entries : List (κ × ν)}
    (nodup : (entries.map Prod.fst).Nodup) {key : κ} {value : ν} :
    entries.lookup key = some value ↔ (key, value) ∈ entries :=
  (@InsertionMap.mem_entries_iff _ _ _ ⟨entries, nodup⟩ key value).symm

theorem linkTarget?_eq_some {node : NodeInfo} (derived : node.Derived)
    {source target : EndpointId} :
    node.linkTarget? source = some target ↔ (source, target) ∈ node.meterLinks :=
  lookup_of_nodup (meterLinks_sources_nodup derived)

/-- After a model with attributes the forward links are those of the model. -/
theorem forwardLinks_recordNode (sync : DeviceSync) {node : NodeInfo} (derived : node.Derived)
    (informative : node.attributes.entries.isEmpty = false) (source : EndpointId) :
    (sync.recordNode node).forwardLinks.get? (node.nodeId, source) = node.linkTarget? source := by
  simp only [DeviceSync.recordNode, informative, DeviceSync.resolveMeterLinks]
  have distinct : (node.meterLinks.map fun link => (node.nodeId, link.1)).Nodup := by
    have sources := (meterLinks_sources_nodup derived).map
      (f := fun source : EndpointId => (node.nodeId, source))
      fun _ _ equal => congrArg Prod.snd equal
    simpa [List.map_map, Function.comp_def] using sources
  cases linked : node.linkTarget? source with
  | some target =>
      have member := (linkTarget?_eq_some derived).mp linked
      exact InsertionMap.get?_upsertAll_of_mem distinct member _
  | none =>
      have absent : (node.nodeId, source) ∉ node.meterLinks.map fun link => (node.nodeId, link.1) := by
        simp only [List.mem_map, Prod.mk.injEq, true_and, not_exists, not_and]
        rintro ⟨_, target⟩ member rfl
        rw [(linkTarget?_eq_some derived).mpr member] at linked
        cases linked
      exact (InsertionMap.get?_upsertAll_of_notMem absent _).trans (by simp)

/-- After a model with attributes the sources linked to an endpoint are those the
model links to it. -/
theorem mem_linkedSources_recordNode (sync : DeviceSync) {node : NodeInfo} (derived : node.Derived)
    (informative : node.attributes.entries.isEmpty = false) {source target : EndpointId} :
    source ∈ (sync.recordNode node).linkedSources node.nodeId target ↔
      node.linkTarget? source = some target := by
  rw [linkTarget?_eq_some derived]
  simp [DeviceSync.recordNode, informative, DeviceSync.resolveMeterLinks, DeviceSync.linkedSources,
    mem_sources_upsertAll]

/-- A link runs to another endpoint of the node, which does not measure itself. -/
theorem target_of_linkTarget? {node : NodeInfo} (derived : node.Derived)
    {source target : EndpointId} (linked : node.linkTarget? source = some target) :
    source ≠ target ∧ ∃ endpoint ∈ node.endpoints, endpoint.endpointId = target ∧
      endpoint.isMetering = false := by
  rcases mem_meterLinks ((linkTarget?_eq_some derived).mp linked) with
    ⟨meter, listed, rfl, candidate, capable, _⟩
  simp only [NodeInfo.meterCapableEps, List.mem_map, List.mem_filter, Bool.and_eq_true,
    Bool.not_eq_true'] at capable
  rcases capable with ⟨endpoint, ⟨targetListed, _, quiet⟩, rfl⟩
  constructor
  · intro same
    rw [derived.eq_of_endpointId_eq listed targetListed same, isMeterSourceCandidate, quiet] at candidate
    simp at candidate
  · exact ⟨endpoint, targetListed, rfl, quiet⟩

end IndigoMatter.Plugin
