import IndigoMatter.Library.Transition
import IndigoMatter.Plugin.BridgedLiveness
import IndigoMatter.Plugin.DeviceDeletion

/-!
# Where a reading of electricity comes from

A device shows the electrical readings of its own endpoint and of the meters linked to
that endpoint.  Priming takes the meters from the reverse links and a live update takes
the endpoint from the forward links; both links are those of the model that described
the node last, and none once the node is removed.

An endpoint that measures is never linked to, so that its own readings are not
overwritten.  Two meters without a device of their own are not kept apart in the same
way: both may be linked to one endpoint, and where they carry the same cluster the
device there has two sources.
-/

namespace IndigoMatter.Plugin

open IndigoMatter.Library

/-! ## What a model says about meters -/

/-- Whether an endpoint of the model carries an attribute of a cluster. -/
def NodeInfo.measures (node : NodeInfo) (source : EndpointId) (cluster : ClusterId) : Bool :=
  node.attributes.keys.any fun path => path.endpoint = source && path.cluster = cluster

/-- The clusters of electrical readings. -/
def electricalClusters : List ClusterId := [clusterElectricalPower, clusterElectricalEnergy]

/-- A meter whose readings have no device of their own. -/
def EndpointInfo.isOrphanMeter (endpoint : EndpointInfo) : Bool :=
  isMeterSourceCandidate endpoint (handlersForEndpoint endpoint)

/-- An endpoint with a device that can show readings, which has none of its own. -/
def EndpointInfo.isActuator (endpoint : EndpointInfo) : Bool :=
  (handlersForEndpoint endpoint).any (· ∈ meterCapableTypes) && !endpoint.isMetering

/-- The actuators a meter may be for: those its topology lists, or all where it lists none. -/
def NodeInfo.inReach (node : NodeInfo) (meter actuator : EndpointInfo) : Bool :=
  actuator.isActuator && (listedEndpoints? node meter).all (actuator.endpointId ∈ ·)

/-- The only actuator a meter may be for. -/
def NodeInfo.soleActuator (node : NodeInfo) (meter actuator : EndpointInfo) : Bool :=
  node.inReach meter actuator && node.endpoints.all fun other =>
    !node.inReach meter other || other.endpointId = actuator.endpointId

/-- No two orphan meters of one electrical cluster have the same sole actuator. -/
def NodeInfo.unshared (node : NodeInfo) : Bool :=
  electricalClusters.all fun cluster =>
    let meters := node.endpoints.filter fun meter => meter.isOrphanMeter && meter.has cluster
    meters.all fun first => meters.all fun second => node.endpoints.all fun actuator =>
      first.endpointId = second.endpointId ||
        !(node.soleActuator first actuator && node.soleActuator second actuator)

/-- What an endpoint measures is for its own device or, if it is an orphan meter, for its
sole actuator. -/
def NodeInfo.measuresFor (node : NodeInfo) (meter : EndpointInfo) (target : EndpointId) : Bool :=
  meter.endpointId = target || (meter.isOrphanMeter && node.endpoints.any fun actuator =>
    actuator.endpointId = target && node.soleActuator meter actuator)

/-- No two different endpoints, one of each model, measure one electrical cluster for the
same endpoint. -/
def NodeInfo.agreesWith (first second : NodeInfo) : Bool :=
  electricalClusters.all fun cluster =>
    (first.endpoints.filter (·.has cluster)).all fun meter =>
      (second.endpoints.filter (·.has cluster)).all fun other =>
        meter.endpointId = other.endpointId || first.endpoints.all fun target =>
          !(first.measuresFor meter target.endpointId && second.measuresFor other target.endpointId)

theorem mem_electricalClusters {cluster : ClusterId} :
    cluster ∈ electricalClusters ↔ isElectrical cluster = true := by
  simp [electricalClusters, isElectrical]

theorem measures_iff {node : NodeInfo} {source : EndpointId} {cluster : ClusterId} :
    node.measures source cluster = true ↔
      ∃ path ∈ node.attributes.keys, path.endpoint = source ∧ path.cluster = cluster := by
  simp [NodeInfo.measures]

theorem measures_of_mem {node : NodeInfo} {path : AttributePath}
    (present : path ∈ node.attributes.keys) : node.measures path.endpoint path.cluster = true :=
  measures_iff.mpr ⟨path, present, rfl, rfl⟩

/-- An endpoint that is linked to does not measure. -/
theorem not_measures_of_linked {node : NodeInfo} (derived : node.Derived)
    {source target : EndpointId} (linked : node.linkTarget? source = some target)
    {cluster : ClusterId} (electrical : isElectrical cluster = true) :
    node.measures target cluster = false := by
  rcases target_of_linkTarget? derived linked with ⟨-, endpoint, listed, rfl, quiet⟩
  apply Bool.eq_false_iff.mpr
  intro measured
  have carries := (derived.has_iff listed).mpr (measures_iff.mp measured)
  simp only [EndpointInfo.isMetering, Bool.or_eq_false_iff] at quiet
  simp only [isElectrical, Bool.or_eq_true, decide_eq_true_eq] at electrical
  rcases electrical with rfl | rfl
  · rw [quiet.1] at carries
    cases carries
  · rw [quiet.2] at carries
    cases carries

/-- An endpoint that measures, as the model has it. -/
theorem exists_meter {node : NodeInfo} (derived : node.Derived) {source : EndpointId}
    {cluster : ClusterId} (measured : node.measures source cluster = true) :
    ∃ meter ∈ node.endpoints, meter.endpointId = source ∧ meter.has cluster = true := by
  rcases measures_iff.mp measured with ⟨path, present, rfl, carried⟩
  rcases derived.exists_endpoint present with ⟨meter, listed, same⟩
  exact ⟨meter, listed, same, (derived.has_iff listed).mpr ⟨path, present, same.symm, carried⟩⟩

theorem mem_meterCapableEps {node : NodeInfo} {target : EndpointId} :
    target ∈ node.meterCapableEps ↔
      ∃ actuator ∈ node.endpoints, actuator.isActuator = true ∧ actuator.endpointId = target := by
  simp only [NodeInfo.meterCapableEps, EndpointInfo.isActuator, List.mem_map, List.mem_filter,
    and_assoc]

/-- A meter is linked to its sole actuator. -/
theorem soleActuator_of_resolve {node : NodeInfo} {meter : EndpointInfo} {target : EndpointId}
    (resolved : resolveMeterTarget node meter node.meterCapableEps = some target) :
    ∃ actuator ∈ node.endpoints, actuator.endpointId = target ∧
      node.soleActuator meter actuator = true := by
  have reached : ∀ id, (∃ actuator ∈ node.endpoints, node.inReach meter actuator = true ∧
      actuator.endpointId = id) ↔ id = target := by
    intro id
    simp only [resolveMeterTarget] at resolved
    split at resolved
    · rename_i only single
      obtain rfl := Option.some.inj resolved
      rw [← List.mem_singleton, ← single]
      cases listed : listedEndpoints? node meter with
      | none => simp [NodeInfo.inReach, listed, mem_meterCapableEps]
      | some endpoints =>
          simp only [NodeInfo.inReach, listed, List.mem_filter, mem_meterCapableEps,
            Option.all_some, Bool.and_eq_true, decide_eq_true_eq]
          constructor
          · rintro ⟨actuator, member, ⟨acts, reaches⟩, rfl⟩
            exact ⟨⟨actuator, member, acts, rfl⟩, reaches⟩
          · rintro ⟨⟨actuator, member, acts, rfl⟩, reaches⟩
            exact ⟨actuator, member, ⟨acts, reaches⟩, rfl⟩
    · cases resolved
  obtain ⟨actuator, member, reaches, same⟩ := (reached target).mpr rfl
  refine ⟨actuator, member, same, ?_⟩
  simp only [NodeInfo.soleActuator, reaches, Bool.true_and, List.all_eq_true, Bool.or_eq_true,
    Bool.not_eq_true', decide_eq_true_eq]
  intro other listed
  rw [← Bool.not_eq_true, same, ← imp_iff_not_or]
  exact fun otherReaches => (reached other.endpointId).mp ⟨other, listed, otherReaches, rfl⟩

/-- A link of the model runs from an orphan meter to its sole actuator. -/
theorem soleActuator_of_linkTarget? {node : NodeInfo} (derived : node.Derived)
    {meter : EndpointInfo} (listed : meter ∈ node.endpoints) {target : EndpointId}
    (linked : node.linkTarget? meter.endpointId = some target) :
    meter.isOrphanMeter = true ∧ ∃ actuator ∈ node.endpoints, actuator.endpointId = target ∧
      node.soleActuator meter actuator = true := by
  rcases mem_meterLinks ((linkTarget?_eq_some derived).mp linked) with
    ⟨other, otherListed, same, candidate, -, resolved⟩
  obtain rfl := derived.eq_of_endpointId_eq otherListed listed same
  exact ⟨candidate, soleActuator_of_resolve resolved⟩

/-- What an endpoint supplies by the links is what it measures for. -/
theorem measuresFor_of_supplies {node : NodeInfo} (derived : node.Derived) {meter : EndpointInfo}
    (listed : meter ∈ node.endpoints) {target : EndpointId}
    (supplies : meter.endpointId = target ∨ node.linkTarget? meter.endpointId = some target) :
    node.measuresFor meter target = true ∧
      ∃ endpoint ∈ node.endpoints, endpoint.endpointId = target := by
  rcases supplies with own | linked
  · exact ⟨by simp [NodeInfo.measuresFor, own], meter, listed, own⟩
  · rcases soleActuator_of_linkTarget? derived listed linked with ⟨orphan, actuator, member, same, sole⟩
    refine ⟨?_, actuator, member, same⟩
    simp only [NodeInfo.measuresFor, orphan, Bool.true_and, Bool.or_eq_true, List.any_eq_true,
      Bool.and_eq_true, decide_eq_true_eq]
    exact .inr ⟨actuator, member, same, sole⟩

/-- What two models name as the source of a cluster for one endpoint is one endpoint. -/
def NameOneSource (first second : NodeInfo) : Prop :=
  ∀ target source other cluster, isElectrical cluster = true →
    first.measures source cluster = true → second.measures other cluster = true →
      (source = target ∨ first.linkTarget? source = some target) →
        (other = target ∨ second.linkTarget? other = some target) → source = other

theorem NameOneSource.symm {first second : NodeInfo} (agree : NameOneSource first second) :
    NameOneSource second first :=
  fun target source other cluster electrical firstMeasures secondMeasures firstSupplies
      secondSupplies =>
    (agree target other source cluster electrical secondMeasures firstMeasures secondSupplies
      firstSupplies).symm

/-- A model whose orphan meters of a cluster do not share a sole actuator names one source
for each endpoint and cluster. -/
theorem nameOneSource_of_unshared {node : NodeInfo} (derived : node.Derived)
    (unshared : node.unshared = true) : NameOneSource node node := by
  intro target first second cluster electrical firstMeasures secondMeasures firstSupplies
    secondSupplies
  rcases firstSupplies with rfl | firstLinked
  · rcases secondSupplies with rfl | secondLinked
    · rfl
    · rw [not_measures_of_linked derived secondLinked electrical] at firstMeasures
      cases firstMeasures
  · rcases secondSupplies with rfl | secondLinked
    · rw [not_measures_of_linked derived firstLinked electrical] at secondMeasures
      cases secondMeasures
    · rcases exists_meter derived firstMeasures with ⟨meter, listed, rfl, carries⟩
      rcases exists_meter derived secondMeasures with ⟨other, otherListed, rfl, otherCarries⟩
      rcases soleActuator_of_linkTarget? derived listed firstLinked with
        ⟨orphan, actuator, member, rfl, sole⟩
      rcases soleActuator_of_linkTarget? derived otherListed secondLinked with
        ⟨otherOrphan, otherActuator, otherMember, same, otherSole⟩
      obtain rfl := derived.eq_of_endpointId_eq otherMember member same
      have apart := List.all_eq_true.mp unshared cluster (mem_electricalClusters.mpr electrical)
      simp only [List.all_eq_true, List.mem_filter, Bool.and_eq_true, Bool.or_eq_true,
        Bool.not_eq_true', decide_eq_true_eq] at apart
      refine (apart meter ⟨listed, orphan, carries⟩ other ⟨otherListed, otherOrphan, otherCarries⟩
        otherActuator otherMember).resolve_right ?_
      simp [sole, otherSole]

theorem nameOneSource_of_agreesWith {first second : NodeInfo} (firstDerived : first.Derived)
    (secondDerived : second.Derived) (agree : first.agreesWith second = true) :
    NameOneSource first second := by
  intro target source other cluster electrical firstMeasures secondMeasures firstSupplies
    secondSupplies
  rcases exists_meter firstDerived firstMeasures with ⟨meter, listed, rfl, carries⟩
  rcases exists_meter secondDerived secondMeasures with ⟨otherMeter, otherListed, rfl, otherCarries⟩
  rcases measuresFor_of_supplies firstDerived listed firstSupplies with
    ⟨firstFor, endpoint, member, rfl⟩
  have secondFor := (measuresFor_of_supplies secondDerived otherListed secondSupplies).1
  have apart := List.all_eq_true.mp agree cluster (mem_electricalClusters.mpr electrical)
  simp only [List.all_eq_true, List.mem_filter, Bool.or_eq_true, Bool.not_eq_true',
    decide_eq_true_eq] at apart
  refine (apart meter ⟨listed, carries⟩ otherMeter ⟨otherListed, otherCarries⟩).resolve_right ?_
  intro none
  have missed := none endpoint member
  simp [firstFor, secondFor] at missed

/-! ## The links in force -/

/-- The first locked part of `_resolve_meter_links`: the links of a node are dropped. -/
def DeviceSync.clearMeterLinks (sync : DeviceSync) (nodeId : NodeId) : DeviceSync :=
  { sync with
    forwardLinks := sync.forwardLinks.filterKeys (·.1 ≠ nodeId)
    reverseLinks := sync.reverseLinks.filterKeys (·.1 ≠ nodeId) }

/-- The links are those of the models in force, in both directions. -/
structure DeviceSync.LinksOf (sync : DeviceSync) (described : InsertionMap NodeId NodeInfo) :
    Prop where
  forward : ∀ nodeId source, sync.forwardLinks.get? (nodeId, source) =
    (described.get? nodeId).bind (·.linkTarget? source)
  reverse : ∀ nodeId source target, source ∈ sync.linkedSources nodeId target ↔
    (described.get? nodeId).bind (·.linkTarget? source) = some target

/-- The reverse links are the inverse of the forward links. -/
def DeviceSync.LinksInverse (sync : DeviceSync) : Prop :=
  ∀ nodeId source target, source ∈ sync.linkedSources nodeId target ↔
    sync.forwardLinks.get? (nodeId, source) = some target

theorem forwardLinks_recordNode_of_ne (sync : DeviceSync) {node : NodeInfo} {nodeId : NodeId}
    (different : nodeId ≠ node.nodeId) (source : EndpointId) :
    (sync.recordNode node).forwardLinks.get? (nodeId, source) =
      sync.forwardLinks.get? (nodeId, source) := by
  unfold DeviceSync.recordNode
  split
  · rfl
  · have absent : (nodeId, source) ∉ node.meterLinks.map fun link => (node.nodeId, link.1) := by
      simp [Ne.symm different]
    exact (InsertionMap.get?_upsertAll_of_notMem absent _).trans
      (by simp [InsertionMap.get?_filterKeys, different])

theorem linkedSources_recordNode_of_ne (sync : DeviceSync) {node : NodeInfo} {nodeId : NodeId}
    (different : nodeId ≠ node.nodeId) (target : EndpointId) :
    (sync.recordNode node).linkedSources nodeId target = sync.linkedSources nodeId target := by
  unfold DeviceSync.recordNode
  split
  · rfl
  · have absent : (nodeId, target) ∉ node.meterLinks.map fun link => (node.nodeId, link.2) := by
      simp [Ne.symm different]
    exact congrArg (Option.getD · []) ((InsertionMap.get?_upsertAll_of_notMem absent _).trans
      (by simp [InsertionMap.get?_filterKeys, different]))

namespace DeviceSync.LinksOf

variable {sync : DeviceSync} {described : InsertionMap NodeId NodeInfo}

theorem inverse (links : sync.LinksOf described) : sync.LinksInverse := by
  intro nodeId source target
  rw [links.reverse, links.forward]

/-- A model with attributes replaces the one in force for its node. -/
theorem recordNode (links : sync.LinksOf described) {node : NodeInfo} (derived : node.Derived)
    (informative : node.attributes.entries.isEmpty = false) :
    (sync.recordNode node).LinksOf (described.set node.nodeId node) := by
  constructor
  · intro nodeId source
    rw [InsertionMap.get?_set]
    by_cases own : nodeId = node.nodeId
    · subst own
      rw [if_pos rfl, Option.bind_some]
      exact forwardLinks_recordNode sync derived informative source
    · rw [if_neg own, forwardLinks_recordNode_of_ne sync own]
      exact links.forward nodeId source
  · intro nodeId source target
    rw [InsertionMap.get?_set]
    by_cases own : nodeId = node.nodeId
    · subst own
      rw [if_pos rfl, Option.bind_some]
      exact mem_linkedSources_recordNode sync derived informative
    · rw [if_neg own, linkedSources_recordNode_of_ne sync own]
      exact links.reverse nodeId source target

/-- Dropping the links of a node leaves no model in force for it. -/
theorem clearMeterLinks (links : sync.LinksOf described) (nodeId : NodeId) :
    (sync.clearMeterLinks nodeId).LinksOf (described.delete nodeId) := by
  constructor
  · intro otherNode source
    rw [InsertionMap.get?_delete, DeviceSync.clearMeterLinks, InsertionMap.get?_filterKeys]
    by_cases own : otherNode = nodeId
    · simp [own]
    · simpa [own] using links.forward otherNode source
  · intro otherNode source target
    rw [InsertionMap.get?_delete, DeviceSync.clearMeterLinks, DeviceSync.linkedSources,
      InsertionMap.get?_filterKeys]
    by_cases own : otherNode = nodeId
    · simp [own]
    · simpa [own, DeviceSync.linkedSources] using links.reverse otherNode source target

end DeviceSync.LinksOf

/-! ## What a pass primes -/

/-- Whether a create pass resolves the links of the node anew. -/
def PluginWorld.describes (world : PluginWorld) (node : NodeInfo) : Bool :=
  node.nodeId ∉ world.retiredNodes && node.nodeId ∉ world.creationSuspended &&
    !node.attributes.entries.isEmpty

theorem recorded_sync (world : PluginWorld) (node : NodeInfo) :
    (world.recorded node).sync =
      if world.describes node then world.sync.recordNode node else world.sync := by
  unfold PluginWorld.recorded PluginWorld.describes
  by_cases retired : node.nodeId ∈ world.retiredNodes
  · simp [retired]
  · by_cases suspended : node.nodeId ∈ world.creationSuspended
    · simp [retired, suspended]
    · by_cases silent : node.attributes.entries.isEmpty = true
      · simp [retired, suspended, silent, DeviceSync.recordNode]
      · simp [retired, suspended, silent]

/-- Indigo has the device, at an endpoint of a node. -/
def PluginWorld.StandsAt (world : PluginWorld) (device : DeviceId) (nodeId : NodeId)
    (endpointId : EndpointId) : Prop :=
  ∃ record, world.indigo.get? device = some record ∧ record.location? = some (nodeId, endpointId)

theorem PluginWorld.StandsAt.unique {world : PluginWorld} {device : DeviceId}
    {nodeId otherNode : NodeId} {endpointId otherEndpoint : EndpointId}
    (first : world.StandsAt device nodeId endpointId)
    (second : world.StandsAt device otherNode otherEndpoint) :
    nodeId = otherNode ∧ endpointId = otherEndpoint := by
  rcases first with ⟨record, stored, place⟩
  rcases second with ⟨other, otherStored, otherPlace⟩
  obtain rfl := Option.some.inj (stored.symm.trans otherStored)
  have same := Option.some.inj (place.symm.trans otherPlace)
  exact ⟨congrArg Prod.fst same, congrArg Prod.snd same⟩

theorem PluginWorld.Consistent.standsAt {world : PluginWorld} (consistent : world.Consistent)
    {device : DeviceId} {nodeId : NodeId} {endpointId : EndpointId}
    (stored : device ∈ world.sync.index.devicesOn nodeId endpointId) :
    world.StandsAt device nodeId endpointId := by
  rcases mem_devicesOn.mp stored with ⟨typeId, found⟩
  rcases consistent.located _ _ _ _ found with ⟨record, there, place, -⟩
  exact ⟨record, there, place⟩

/-- An electrical attribute primes a device from its own endpoint or from one that is
linked to it. -/
theorem source_of_primes {sync : DeviceSync} {nodeId : NodeId} {pass : PrimePass}
    {path : AttributePath} (primed : sync.primes nodeId pass path = true)
    (electrical : isElectrical path.cluster = true) :
    path.endpoint = pass.endpointId ∨ path.endpoint ∈ sync.linkedSources nodeId pass.endpointId := by
  by_contra neither
  rw [not_or] at neither
  cases handled : handlerForCluster path.cluster with
  | none => simp [DeviceSync.primes, handled] at primed
  | some handler =>
      have ordinary : handler.nodeScoped = false := by
        apply Bool.eq_false_iff.mpr
        intro wholeNode
        rw [(nodeScoped_iff handled).mp wholeNode] at electrical
        revert electrical
        decide
      simp [DeviceSync.primes, handled, neither.1, neither.2, ordinary] at primed

/-- What a log primes are devices of the node, each with attributes of the model and with
the electrical ones of its endpoint and of those linked to it. -/
def PrimesNode (node : NodeInfo) (sync : DeviceSync) (world : PluginWorld)
    (log : List (DeviceId × DeviceEffect)) : Prop :=
  ∀ device attributes, (device, .primed attributes) ∈ log → ∃ endpointId,
    world.StandsAt device node.nodeId endpointId ∧
      ∀ entry ∈ attributes, entry.1 ∈ node.attributes.keys ∧
        (isElectrical entry.1.cluster = true → entry.1.endpoint = endpointId ∨
          entry.1.endpoint ∈ sync.linkedSources node.nodeId endpointId)

theorem primedAttributes_sound {sync : DeviceSync} {node : NodeInfo} {pass : PrimePass}
    {entry : AttributePath × PyJson} (member : entry ∈ sync.primedAttributes node pass) :
    entry.1 ∈ node.attributes.keys ∧
      (isElectrical entry.1.cluster = true → entry.1.endpoint = pass.endpointId ∨
        entry.1.endpoint ∈ sync.linkedSources node.nodeId pass.endpointId) := by
  rw [DeviceSync.primedAttributes, List.mem_filter] at member
  exact ⟨List.mem_map_of_mem member.1, source_of_primes member.2⟩

/-- From one plugin to another nothing is done but for devices of the node: those that were
there stand where they stood, and what is primed is of the node. -/
structure PassesNode (node : NodeInfo) (before after : PluginWorld) : Prop where
  consistent : after.Consistent
  forwardLinks : after.sync.forwardLinks = (before.recorded node).sync.forwardLinks
  reverseLinks : after.sync.reverseLinks = (before.recorded node).sync.reverseLinks
  stands : ∀ device nodeId endpointId, before.StandsAt device nodeId endpointId →
    after.StandsAt device nodeId endpointId
  primes : ∃ log, after.effects = before.effects ++ log ∧ PrimesNode node after.sync after log

namespace PassesNode

variable {node : NodeInfo} {world : PluginWorld}

theorem stands_create (consistent : world.Consistent) {node : NodeInfo} {endpointId : EndpointId}
    {typeId : TypeId} {pass : PrimePass} {device : DeviceId} {otherNode : NodeId}
    {otherEndpoint : EndpointId} (stands : world.StandsAt device otherNode otherEndpoint) :
    ((world.create node.nodeId endpointId typeId).prime node pass).StandsAt device otherNode
      otherEndpoint := by
  rcases stands with ⟨record, stored, place⟩
  refine ⟨record, ?_, place⟩
  have old : device ≠ world.nextId :=
    (consistent.existing_lt _ (InsertionMap.mem_keys_iff.mpr ⟨record, stored⟩)).ne
  simpa [PluginWorld.create, PluginWorld.prime, PluginWorld.note, InsertionMap.get?_set, old] using
    stored

/-- Creating a device and priming it passes over the node only. -/
theorem create {start : PluginWorld} (passes : PassesNode node start world)
    {endpointId : EndpointId} {typeId : TypeId} {siblings : List TypeId} :
    PassesNode node start ((world.create node.nodeId endpointId typeId).prime node
      ⟨world.nextId, endpointId, typeId, siblings⟩) where
  consistent := passes.consistent.create node endpointId typeId _
  forwardLinks := passes.forwardLinks
  reverseLinks := passes.reverseLinks
  stands := fun device nodeId endpointId stands =>
    stands_create passes.consistent (passes.stands device nodeId endpointId stands)
  primes := by
    rcases passes.primes with ⟨log, effects, primes⟩
    refine ⟨log ++ [(world.nextId, .primed ((world.create node.nodeId endpointId typeId).sync.primedAttributes
      node ⟨world.nextId, endpointId, typeId, siblings⟩))], ?_, ?_⟩
    · rw [← List.append_assoc, ← effects]
      rfl
    · intro device attributes member
      rcases List.mem_append.mp member with earlier | last
      · rcases primes device attributes earlier with ⟨endpointId, stands, sound⟩
        exact ⟨endpointId, stands_create passes.consistent stands, sound⟩
      · simp only [List.mem_singleton, Prod.mk.injEq, DeviceEffect.primed.injEq] at last
        rcases last with ⟨rfl, rfl⟩
        refine ⟨endpointId, ⟨⟨typeId, some node.nodeId, some endpointId, ∅⟩, ?_, rfl⟩, ?_⟩
        · simp [PluginWorld.create, PluginWorld.prime, PluginWorld.note]
        · exact fun entry primed => primedAttributes_sound primed

theorem recorded (consistent : world.Consistent) (node : NodeInfo) :
    PassesNode node world (world.recorded node) where
  consistent := ⟨by simpa using consistent.located, by simpa using consistent.existing_lt⟩
  forwardLinks := rfl
  reverseLinks := rfl
  stands := by
    intro device nodeId endpointId stands
    simpa [PluginWorld.StandsAt] using stands
  primes := ⟨[], by simp, by simp [PrimesNode]⟩

/-- So does a create pass. -/
theorem createDevices (consistent : world.Consistent) (accepts : Accepts?) (node : NodeInfo) :
    PassesNode node world (world.createDevices accepts node) := by
  have start := PassesNode.recorded consistent node
  unfold PluginWorld.createDevices
  unfold PluginWorld.recorded at start
  split at start
  · rename_i retired
    rw [if_pos retired]
    exact start
  · rename_i present
    rw [if_neg present]
    split at start
    · rename_i suspended
      rw [if_pos suspended]
      exact start
    · rename_i resumed
      rw [if_neg resumed]
      apply PluginWorld.carryOut_induction fun after => PassesNode node world after
      · exact fun entry planned => PluginWorld.ne_matterNode_of_mem_plan planned
      · exact fun _ _ _ _ passes _ _ _ => passes.create
      · exact start

/-- Further effects that prime nothing but devices of the node, too. -/
theorem append {after : PluginWorld} (passes : PassesNode node world after)
    {log : List (DeviceId × DeviceEffect)} (primes : PrimesNode node after.sync after log) :
    PassesNode node world (after.append log) where
  consistent := passes.consistent.append log
  forwardLinks := passes.forwardLinks
  reverseLinks := passes.reverseLinks
  stands := passes.stands
  primes := by
    rcases passes.primes with ⟨earlier, effects, earlierPrimes⟩
    refine ⟨earlier ++ log, ?_, ?_⟩
    · rw [← List.append_assoc, ← effects]
      rfl
    · intro device attributes member
      rcases List.mem_append.mp member with before | new
      · exact earlierPrimes device attributes before
      · exact primes device attributes new

end PassesNode

theorem primesNode_of_silent {node : NodeInfo} {sync : DeviceSync} {world : PluginWorld}
    {log : List (DeviceId × DeviceEffect)} (silent : ∀ device attributes, (device, .primed attributes) ∉ log) :
    PrimesNode node sync world log :=
  fun device attributes member => absurd member (silent device attributes)

/-- So does handling a node update, whether or not it runs to its end. -/
theorem PassesNode.onNodeAdded {world : PluginWorld} (consistent : world.Consistent)
    (accepts : Accepts?) (node : NodeInfo) :
    PassesNode node world (finalState (onNodeAdded accepts node world)) := by
  have created := PassesNode.createDevices consistent accepts node
  cases available : node.available with
  | true =>
      rcases @final_onNodeAdded accepts node world available with ⟨written, reachable, final⟩
      rw [final]
      apply created.append
      intro device attributes member
      rcases List.mem_append.mp member with refreshed | reached
      · rcases List.mem_append.mp refreshed with reasserted | primed
        · rcases List.mem_flatMap.mp reasserted with ⟨pass, -, recorded⟩
          cases congrArg Prod.snd (mem_effectOn.mp recorded).2
        · rcases List.mem_flatMap.mp primed with ⟨pass, met, recorded⟩
          simp only [primeLog, List.mem_cons, Prod.mk.injEq, DeviceEffect.primed.injEq, reduceCtorEq,
            and_false, List.not_mem_nil, or_false] at recorded
          rcases recorded with ⟨rfl, rfl⟩
          have listed := (mem_refreshPasses_iff.mp
            ⟨pass, (List.takeWhile_sublist _).subset met, rfl, rfl⟩).2
          exact ⟨pass.endpointId, created.consistent.standsAt listed,
            fun entry primed => primedAttributes_sound primed⟩
      · cases reachable _ reached
  | false =>
      have final : finalState (Plugin.onNodeAdded accepts node world) =
          (world.createDevices accepts node).append
            ((unreachableLog (world.createDevices accepts node)
                ((world.createDevices accepts node).sync.index.devicesOf node.nodeId) ++
              reachableLog (world.createDevices accepts node) node.nodeId false) ++
            reachableLog (world.createDevices accepts node) node.nodeId false) := by
        simp only [Plugin.onNodeAdded, applyReachability, available, bind, EStateM.bind, modify,
          modifyGet, MonadStateOf.modifyGet, EStateM.modifyGet, Bool.false_eq_true, if_false,
          run_markUnreachable, run_writeNodeReachable, PluginWorld.append_append, finalState_ok]
        rfl
      rw [final]
      apply created.append
      apply primesNode_of_silent
      intro device attributes member
      rcases List.mem_append.mp member with marked | reached
      · rcases List.mem_append.mp marked with marked | reached
        · rcases List.mem_flatMap.mp marked with ⟨other, -, recorded⟩
          cases congrArg Prod.snd (mem_effectOn.mp recorded).2
        · cases (mem_reachableLog.mp reached).2.2
      · cases (mem_reachableLog.mp reached).2.2

/-! ## What a live update is delivered to -/

/-- A live electrical update goes to devices of the endpoint it is linked to, or else of
its own. -/
theorem source_of_delivered {capable : List TypeId} {world : PluginWorld}
    (consistent : world.Consistent) {nodeId : NodeId} {path : AttributePath} {device : DeviceId}
    (delivered : device ∈ world.sync.deliveredDevices capable world.indigo nodeId path)
    (electrical : isElectrical path.cluster = true) :
    ∃ endpointId, world.StandsAt device nodeId endpointId ∧
      (path.endpoint = endpointId ∨
        world.sync.forwardLinks.get? (nodeId, path.endpoint) = some endpointId) := by
  have target := List.mem_of_mem_filter delivered
  unfold DeviceSync.liveTargets at target
  cases handled : handlerForCluster path.cluster with
  | none => simp [handled] at target
  | some handler =>
      have ordinary : handler.nodeScoped = false := by
        apply Bool.eq_false_iff.mpr
        intro wholeNode
        rw [(nodeScoped_iff handled).mp wholeNode] at electrical
        revert electrical
        decide
      have untyped := deviceTypeId_of_isElectrical handled electrical
      simp only [handled, ordinary, Bool.false_eq_true, if_false, Option.mem_toList,
        DeviceSync.lookupForCluster, DeviceSync.rewrittenTo?, electrical, if_true] at target
      cases linked : world.sync.forwardLinks.get? (nodeId, path.endpoint) with
      | none =>
          simp only [linked, Option.bind_none, Option.bind_some, Option.getD_none,
            DeviceIndex.resolve?, untyped, if_true] at target
          exact ⟨path.endpoint, consistent.standsAt (mem_devicesOn_of_firstDevice? target), .inl rfl⟩
      | some endpointId =>
          have onTarget := (@rewritten_mem handler capable world.sync.index nodeId endpointId untyped).1
            device
          simp only [linked, Option.bind_some, Option.getD_some] at target
          exact ⟨endpointId, consistent.standsAt (onTarget target), .inr rfl⟩

/-! ## A history of readings -/

/-- An electrical reading a device was given: the endpoint it comes from, and the model in
force for the node. -/
structure Reading where
  node : NodeId
  device : DeviceId
  cluster : ClusterId
  source : EndpointId
  model : Option NodeInfo

/-- The readings among the attributes a device is given. -/
def readingsFrom (node : NodeId) (model : Option NodeInfo) (device : DeviceId)
    (paths : List AttributePath) : List Reading :=
  (paths.filter fun path => isElectrical path.cluster).map fun path =>
    ⟨node, device, path.cluster, path.endpoint, model⟩

/-- The attributes an effect gives a device. -/
def DeviceEffect.paths : DeviceEffect → List AttributePath
  | .primed attributes => attributes.map Prod.fst
  | _ => []

/-- The plugin, the model in force for each node, every model there has been, and the
readings so far. -/
structure MeterHistory where
  world : PluginWorld
  described : InsertionMap NodeId NodeInfo
  models : List NodeInfo
  readings : List Reading

/-- What happens to a plugin, as far as readings go. -/
inductive MeterEvent
  | rebuilt
  | commissioned (accepts : Accepts?) (raw : List (String × PyJson))
  | updated (accepts : Accepts?) (raw : List (String × PyJson))
  | removed (nodeId : NodeId)
  | live (nodeId : NodeId) (path : AttributePath)

namespace MeterHistory

/-- The plugin as it starts: the index is rebuilt and no link is known. -/
def initial (world : PluginWorld) : MeterHistory where
  world := { world.rebuild with
    sync := { world.rebuild.sync with forwardLinks := ∅, reverseLinks := ∅ } }
  described := ∅
  models := []
  readings := []

/-- The history after a pass over a node. -/
def afterPass (history : MeterHistory) (node : NodeInfo) (before after : PluginWorld) :
    MeterHistory :=
  let described :=
    if before.describes node then history.described.set node.nodeId node else history.described
  { world := after
    described
    models := if before.describes node then history.models ++ [node] else history.models
    readings := history.readings ++ (after.effects.drop before.effects.length).flatMap fun entry =>
      readingsFrom node.nodeId (described.get? node.nodeId) entry.1 entry.2.paths }

/-- `rebuild_index`, `create_from_raw`, `_on_node_added`, `node_removed` and
`_on_attribute`. -/
def step (capable : List TypeId) : LabelledStep MeterHistory MeterEvent
  | history, .rebuilt => some { history with world := history.world.rebuild }
  | history, .commissioned accepts raw =>
      match parseNode? raw with
      | none => some history
      | some node => some (history.afterPass node (history.world.unretire node.nodeId)
          (history.world.createFromRaw accepts node))
  | history, .updated accepts raw =>
      match parseNode? raw with
      | none => some history
      | some node => some (history.afterPass node history.world
          (finalState (onNodeAdded accepts node history.world)))
  | history, .removed nodeId =>
      some { history with
        world := (finalState (markUnreachable nodeId history.world)).forgetNodeCapabilities nodeId
        described := history.described.delete nodeId }
  | history, .live nodeId path =>
      some { history with
        readings := history.readings ++
          (history.world.sync.deliveredDevices capable history.world.indigo nodeId path).flatMap
            fun device => readingsFrom nodeId (history.described.get? nodeId) device [path] }

end MeterHistory

/-- Two readings that a device has of one cluster come from one endpoint, where the same
model was in force. -/
def OneSource (readings : List Reading) : Prop :=
  ∀ first ∈ readings, ∀ second ∈ readings, first.device = second.device →
    first.cluster = second.cluster → first.model = second.model → first.source = second.source

/-- They do so whatever model was in force. -/
def OneSourceEver (readings : List Reading) : Prop :=
  ∀ first ∈ readings, ∀ second ∈ readings, first.device = second.device →
    first.cluster = second.cluster → first.source = second.source

/-! ## The condition on a history -/

namespace MeterHistory

/-- An electrical path is one of the model in force, if there is one. -/
def lists (history : MeterHistory) (nodeId : NodeId) (path : AttributePath) : Bool :=
  !isElectrical path.cluster ||
    (history.described.get? nodeId).all fun model => model.measures path.endpoint path.cluster

/-- A model that comes into force has no two orphan meters of one cluster with the same sole
actuator; one that does not come into force has no electrical attribute beyond the model
that is. -/
def passNames (history : MeterHistory) (world : PluginWorld) (node : NodeInfo) : Bool :=
  if world.describes node then node.unshared
  else node.attributes.keys.all (history.lists node.nodeId)

/-- No model that comes into force has two orphan meters of one cluster with the same sole
actuator, and no other electrical attribute is beyond the model in force. -/
def namesOneSource (history : MeterHistory) : MeterEvent → Bool
  | .rebuilt => true
  | .commissioned _ raw =>
      (parseNode? raw).all fun node => history.passNames (history.world.unretire node.nodeId) node
  | .updated _ raw => (parseNode? raw).all fun node => history.passNames history.world node
  | .removed _ => true
  | .live nodeId path => history.lists nodeId path

/-- There is a model in force for an electrical path. -/
def covers (history : MeterHistory) (nodeId : NodeId) (path : AttributePath) : Bool :=
  !isElectrical path.cluster || (history.described.get? nodeId).isSome

/-- A model that comes into force agrees with the earlier ones of its node. -/
def passAgrees (history : MeterHistory) (world : PluginWorld) (node : NodeInfo) : Bool :=
  if world.describes node then
    history.models.all fun earlier => earlier.nodeId ≠ node.nodeId || earlier.agreesWith node
  else node.attributes.keys.all (history.covers node.nodeId)

/-- The models of a node that come into force agree, and one is in force for every
electrical attribute. -/
def keepsModel (history : MeterHistory) : MeterEvent → Bool
  | .rebuilt => true
  | .commissioned _ raw =>
      (parseNode? raw).all fun node => history.passAgrees (history.world.unretire node.nodeId) node
  | .updated _ raw => (parseNode? raw).all fun node => history.passAgrees history.world node
  | .removed _ => true
  | .live nodeId path => history.covers nodeId path

end MeterHistory

/-! ## What one event does -/

theorem DeviceSync.LinksOf.congr {sync other : DeviceSync} {described : InsertionMap NodeId NodeInfo}
    (links : sync.LinksOf described) (forwardLinks : other.forwardLinks = sync.forwardLinks)
    (reverseLinks : other.reverseLinks = sync.reverseLinks) : other.LinksOf described where
  forward := by
    rw [forwardLinks]
    exact links.forward
  reverse := by
    intro nodeId source target
    rw [DeviceSync.linkedSources, reverseLinks]
    exact links.reverse nodeId source target

/-- What an event does to a history: nothing that readings depend on, a pass over a node, the
removal of one, or a live update. -/
inductive MeterMove (capable : List TypeId) (history : MeterHistory) (event : MeterEvent) :
    MeterHistory → Prop
  | quiet (world : PluginWorld) (consistent : world.Consistent)
      (forwardLinks : world.sync.forwardLinks = history.world.sync.forwardLinks)
      (reverseLinks : world.sync.reverseLinks = history.world.sync.reverseLinks)
      (indigo : world.indigo = history.world.indigo) :
      MeterMove capable history event { history with world }
  | passed (node : NodeInfo) (before after : PluginWorld) (derived : node.Derived)
      (passes : PassesNode node before after) (sync : before.sync = history.world.sync)
      (indigo : before.indigo = history.world.indigo)
      (names : history.namesOneSource event = history.passNames before node)
      (agrees : history.keepsModel event = history.passAgrees before node) :
      MeterMove capable history event (history.afterPass node before after)
  | removed (nodeId : NodeId) (world : PluginWorld) (consistent : world.Consistent)
      (sync : world.sync = history.world.sync.clearMeterLinks nodeId)
      (indigo : world.indigo = history.world.indigo) :
      MeterMove capable history event
        { history with world, described := history.described.delete nodeId }
  | live (nodeId : NodeId) (path : AttributePath)
      (names : history.namesOneSource event = history.lists nodeId path)
      (agrees : history.keepsModel event = history.covers nodeId path) :
      MeterMove capable history event
        { history with
          readings := history.readings ++
            (history.world.sync.deliveredDevices capable history.world.indigo nodeId path).flatMap
              fun device => readingsFrom nodeId (history.described.get? nodeId) device [path] }

theorem meterMove_of_step {capable : List TypeId} {history next : MeterHistory} {event : MeterEvent}
    (consistent : history.world.Consistent) (taken : history.step capable event = some next) :
    MeterMove capable history event next := by
  cases event with
  | rebuilt =>
      obtain rfl := Option.some.inj taken
      exact .quiet _ (.rebuild consistent.existing_lt) rfl rfl rfl
  | commissioned accepts raw =>
      cases parsed : parseNode? raw with
      | none =>
          simp only [MeterHistory.step, parsed, Option.some.injEq] at taken
          subst next
          exact .quiet _ consistent rfl rfl rfl
      | some node =>
          simp only [MeterHistory.step, parsed, Option.some.injEq] at taken
          subst next
          have unretired : (history.world.unretire node.nodeId).Consistent :=
            ⟨consistent.located, consistent.existing_lt⟩
          exact .passed node _ _ (derived_of_parseNode? parsed) (.createDevices unretired accepts node)
            rfl rfl (by simp [MeterHistory.namesOneSource, parsed])
            (by simp [MeterHistory.keepsModel, parsed])
  | updated accepts raw =>
      cases parsed : parseNode? raw with
      | none =>
          simp only [MeterHistory.step, parsed, Option.some.injEq] at taken
          subst next
          exact .quiet _ consistent rfl rfl rfl
      | some node =>
          simp only [MeterHistory.step, parsed, Option.some.injEq] at taken
          subst next
          exact .passed node _ _ (derived_of_parseNode? parsed) (.onNodeAdded consistent accepts node)
            rfl rfl (by simp [MeterHistory.namesOneSource, parsed])
            (by simp [MeterHistory.keepsModel, parsed])
  | removed nodeId =>
      obtain rfl := Option.some.inj taken
      rw [run_markUnreachable, finalState_ok]
      exact .removed nodeId _ ⟨consistent.located, consistent.existing_lt⟩ rfl rfl
  | live nodeId path =>
      obtain rfl := Option.some.inj taken
      exact .live nodeId path rfl rfl

theorem mem_readingsFrom {node : NodeId} {model : Option NodeInfo} {device : DeviceId}
    {paths : List AttributePath} {reading : Reading} :
    reading ∈ readingsFrom node model device paths ↔
      ∃ path ∈ paths, isElectrical path.cluster = true ∧
        ⟨node, device, path.cluster, path.endpoint, model⟩ = reading := by
  simp [readingsFrom, and_assoc]

/-- A reading of a pass comes from the model, and from the endpoint of its device or one
that is linked to it. -/
theorem reading_of_pass {node : NodeInfo} {before after : PluginWorld}
    (passes : PassesNode node before after) {model : Option NodeInfo} {reading : Reading}
    (member : reading ∈ (after.effects.drop before.effects.length).flatMap fun entry =>
      readingsFrom node.nodeId model entry.1 entry.2.paths) :
    reading.node = node.nodeId ∧ reading.model = model ∧ isElectrical reading.cluster = true ∧
      node.measures reading.source reading.cluster = true ∧
      ∃ endpointId, after.StandsAt reading.device node.nodeId endpointId ∧
        (reading.source = endpointId ∨
          reading.source ∈ after.sync.linkedSources node.nodeId endpointId) := by
  rcases passes.primes with ⟨log, effects, primes⟩
  rw [effects, List.drop_left] at member
  rcases List.mem_flatMap.mp member with ⟨⟨device, effect⟩, logged, given⟩
  rcases mem_readingsFrom.mp given with ⟨path, listed, electrical, rfl⟩
  cases effect with
  | primed attributes =>
      rcases List.mem_map.mp listed with ⟨entry, primed, rfl⟩
      rcases primes device attributes logged with ⟨endpointId, stands, sound⟩
      rcases sound entry primed with ⟨present, source⟩
      exact ⟨rfl, rfl, electrical, measures_of_mem present, endpointId, stands, source electrical⟩
  | propsReasserted => cases listed
  | errorCleared => cases listed
  | markedUnreachable => cases listed
  | reachable value => cases listed

/-! ## What every run keeps -/

/-- The device of a reading stands at the endpoint the reading comes from, or at the one
that the model in force linked it to. -/
def Reading.Supplied (reading : Reading) (world : PluginWorld) : Prop :=
  isElectrical reading.cluster = true ∧ ∃ endpointId,
    world.StandsAt reading.device reading.node endpointId ∧
      (reading.source = endpointId ∨
        reading.model.bind (·.linkTarget? reading.source) = some endpointId)

theorem Reading.Supplied.of_indigo {reading : Reading} {world other : PluginWorld}
    (supplied : reading.Supplied world) (indigo : other.indigo = world.indigo) :
    reading.Supplied other := by
  rcases supplied with ⟨electrical, endpointId, stands, source⟩
  refine ⟨electrical, endpointId, ?_, source⟩
  rw [PluginWorld.StandsAt, indigo]
  exact stands

namespace MeterHistory

/-- The links are those of the models in force, and each reading was supplied along them. -/
structure Tracked (history : MeterHistory) : Prop where
  consistent : history.world.Consistent
  links : history.world.sync.LinksOf history.described
  derived : ∀ model ∈ history.models, model.Derived
  inForce : ∀ nodeId model, history.described.get? nodeId = some model →
    model ∈ history.models ∧ model.nodeId = nodeId
  supplied : ∀ reading ∈ history.readings, reading.Supplied history.world
  wasInForce : ∀ reading ∈ history.readings, ∀ model, reading.model = some model →
    model ∈ history.models ∧ model.nodeId = reading.node

theorem tracked_initial {world : PluginWorld}
    (existing : ∀ device ∈ world.indigo.keys, device < world.nextId) : (initial world).Tracked where
  consistent := ⟨located_rebuildIndex world.indigo, existing⟩
  links := ⟨by simp [initial], by simp [initial, DeviceSync.linkedSources]⟩
  derived := by simp [initial]
  inForce := by simp [initial]
  supplied := by simp [initial]
  wasInForce := by simp [initial]

theorem tracked_afterPass {history : MeterHistory} (tracked : history.Tracked) {node : NodeInfo}
    (derived : node.Derived) {before after : PluginWorld} (passes : PassesNode node before after)
    (sync : before.sync = history.world.sync) (indigo : before.indigo = history.world.indigo) :
    (history.afterPass node before after).Tracked := by
  have links : after.sync.LinksOf (history.afterPass node before after).described := by
    apply DeviceSync.LinksOf.congr _ passes.forwardLinks passes.reverseLinks
    rw [recorded_sync, sync, afterPass]
    cases describes : before.describes node with
    | true =>
        have informative : node.attributes.entries.isEmpty = false := by
          simp only [PluginWorld.describes, Bool.and_eq_true, Bool.not_eq_true'] at describes
          exact describes.2
        simpa using tracked.links.recordNode derived informative
    | false => simpa using tracked.links
  have kept : ∀ model ∈ history.models, model ∈ (history.afterPass node before after).models := by
    intro model member
    simp only [afterPass]
    split
    · exact List.mem_append_left _ member
    · exact member
  have inForce : ∀ nodeId model,
      (history.afterPass node before after).described.get? nodeId = some model →
        model ∈ (history.afterPass node before after).models ∧ model.nodeId = nodeId := by
    intro nodeId model stored
    simp only [afterPass] at stored ⊢
    cases describes : before.describes node with
    | true =>
        simp only [describes, if_true, InsertionMap.get?_set] at stored ⊢
        split at stored
        · rename_i own
          obtain rfl := Option.some.inj stored
          exact ⟨List.mem_append_right _ List.mem_cons_self, own.symm⟩
        · rcases tracked.inForce nodeId model stored with ⟨member, own⟩
          exact ⟨List.mem_append_left _ member, own⟩
    | false =>
        simp only [describes, Bool.false_eq_true, if_false] at stored ⊢
        exact tracked.inForce nodeId model stored
  constructor
  · exact passes.consistent
  · exact links
  · intro model member
    simp only [afterPass] at member
    split at member
    · rcases List.mem_append.mp member with earlier | last
      · exact tracked.derived model earlier
      · rw [List.mem_singleton.mp last]
        exact derived
    · exact tracked.derived model member
  · exact inForce
  · intro reading member
    rcases List.mem_append.mp member with earlier | new
    · rcases tracked.supplied reading earlier with ⟨electrical, endpointId, stands, source⟩
      refine ⟨electrical, endpointId, passes.stands _ _ _ ?_, source⟩
      rw [PluginWorld.StandsAt, indigo]
      exact stands
    · rcases reading_of_pass passes new with ⟨ofNode, model, electrical, -, endpointId, stands, source⟩
      refine ⟨electrical, endpointId, ofNode ▸ stands, ?_⟩
      rw [links.reverse] at source
      rw [model]
      exact source
  · intro reading member model found
    rcases List.mem_append.mp member with earlier | new
    · rcases tracked.wasInForce reading earlier model found with ⟨listed, own⟩
      exact ⟨kept model listed, own⟩
    · rcases reading_of_pass passes new with ⟨ofNode, same, -⟩
      rw [ofNode]
      exact inForce node.nodeId model (same.symm.trans found)

/-- A live update supplies its devices along the links. -/
theorem tracked_live {capable : List TypeId} {history : MeterHistory} (tracked : history.Tracked)
    (nodeId : NodeId) (path : AttributePath) :
    Tracked { history with
      readings := history.readings ++
        (history.world.sync.deliveredDevices capable history.world.indigo nodeId path).flatMap
          fun device => readingsFrom nodeId (history.described.get? nodeId) device [path] } where
  consistent := tracked.consistent
  links := tracked.links
  derived := tracked.derived
  inForce := tracked.inForce
  supplied := by
    intro reading member
    rcases List.mem_append.mp member with earlier | new
    · exact tracked.supplied reading earlier
    · rcases List.mem_flatMap.mp new with ⟨device, delivered, given⟩
      rcases mem_readingsFrom.mp given with ⟨_, listed, electrical, rfl⟩
      obtain rfl := List.mem_singleton.mp listed
      rcases source_of_delivered tracked.consistent delivered electrical with
        ⟨endpointId, stands, source⟩
      rw [tracked.links.forward] at source
      exact ⟨electrical, endpointId, stands, source⟩
  wasInForce := by
    intro reading member model found
    rcases List.mem_append.mp member with earlier | new
    · exact tracked.wasInForce reading earlier model found
    · rcases List.mem_flatMap.mp new with ⟨device, -, given⟩
      rcases mem_readingsFrom.mp given with ⟨_, -, -, rfl⟩
      exact tracked.inForce nodeId model found

theorem tracked_step {capable : List TypeId} {history next : MeterHistory} {event : MeterEvent}
    (tracked : history.Tracked) (taken : history.step capable event = some next) : next.Tracked := by
  cases meterMove_of_step tracked.consistent taken with
  | quiet world consistent forwardLinks reverseLinks indigo =>
      exact ⟨consistent, tracked.links.congr forwardLinks reverseLinks, tracked.derived,
        tracked.inForce, fun reading member => (tracked.supplied reading member).of_indigo indigo,
        tracked.wasInForce⟩
  | passed node before after derived passes sync indigo _ _ =>
      exact tracked_afterPass tracked derived passes sync indigo
  | removed nodeId world consistent sync indigo =>
      have links := tracked.links.clearMeterLinks nodeId
      rw [← sync] at links
      refine ⟨consistent, links, tracked.derived, ?_,
        fun reading member => (tracked.supplied reading member).of_indigo indigo, tracked.wasInForce⟩
      intro otherNode model stored
      rw [InsertionMap.get?_delete] at stored
      split at stored
      · cases stored
      · exact tracked.inForce otherNode model stored
  | live nodeId path _ _ => exact tracked_live tracked nodeId path

/-! ## What a history that meets the condition keeps -/

/-- Every model there has been names one source, and each reading is one the model then in
force lists. -/
structure Named (history : MeterHistory) : Prop where
  unshared : ∀ model ∈ history.models, NameOneSource model model
  listed : ∀ reading ∈ history.readings, ∀ model, reading.model = some model →
    model.measures reading.source reading.cluster = true

/-- The models of each node name one source, and each reading has one in force. -/
structure Agreed (history : MeterHistory) : Prop where
  agree : ∀ first ∈ history.models, ∀ second ∈ history.models, first.nodeId = second.nodeId →
    NameOneSource first second
  covered : ∀ reading ∈ history.readings, reading.model ≠ none

theorem lists_iff {history : MeterHistory} {nodeId : NodeId} {path : AttributePath}
    (electrical : isElectrical path.cluster = true) :
    history.lists nodeId path = true ↔ ∀ model, history.described.get? nodeId = some model →
      model.measures path.endpoint path.cluster = true := by
  simp [lists, electrical, Option.all_eq_true]

theorem covers_iff {history : MeterHistory} {nodeId : NodeId} {path : AttributePath}
    (electrical : isElectrical path.cluster = true) :
    history.covers nodeId path = true ↔ history.described.get? nodeId ≠ none := by
  simp [covers, electrical, Option.isSome_iff_ne_none]

theorem named_step {capable : List TypeId} {history next : MeterHistory} {event : MeterEvent}
    (tracked : history.Tracked) (named : history.Named) (names : history.namesOneSource event = true)
    (taken : history.step capable event = some next) : next.Named := by
  cases meterMove_of_step tracked.consistent taken with
  | quiet => exact ⟨named.unshared, named.listed⟩
  | removed => exact ⟨named.unshared, named.listed⟩
  | passed node before after derived passes _ _ condition _ =>
      rw [condition, passNames] at names
      cases describes : before.describes node with
      | true =>
          simp only [describes, if_true] at names
          simp only [afterPass, describes, if_true]
          constructor
          · intro model member
            rcases List.mem_append.mp member with earlier | last
            · exact named.unshared model earlier
            · rw [List.mem_singleton.mp last]
              exact nameOneSource_of_unshared derived names
          · intro reading member model found
            rcases List.mem_append.mp member with earlier | new
            · exact named.listed reading earlier model found
            · rcases reading_of_pass passes new with ⟨-, same, -, measured, -⟩
              rw [same, InsertionMap.get?_set, if_pos rfl] at found
              exact Option.some.inj found ▸ measured
      | false =>
          simp only [describes, Bool.false_eq_true, if_false] at names
          simp only [afterPass, describes, Bool.false_eq_true, if_false]
          refine ⟨named.unshared, ?_⟩
          intro reading member model found
          rcases List.mem_append.mp member with earlier | new
          · exact named.listed reading earlier model found
          · rcases reading_of_pass passes new with ⟨-, same, electrical, measured, -⟩
            rcases measures_iff.mp measured with ⟨path, present, source, cluster⟩
            rw [← source, ← cluster]
            rw [← cluster] at electrical
            exact (lists_iff electrical).mp (List.all_eq_true.mp names path present) model
              (same.symm.trans found)
  | live nodeId path condition _ =>
      rw [condition] at names
      refine ⟨named.unshared, ?_⟩
      intro reading member model found
      rcases List.mem_append.mp member with earlier | new
      · exact named.listed reading earlier model found
      · rcases List.mem_flatMap.mp new with ⟨device, -, given⟩
        rcases mem_readingsFrom.mp given with ⟨_, listed, electrical, rfl⟩
        obtain rfl := List.mem_singleton.mp listed
        exact (lists_iff electrical).mp names model found

theorem agreed_step {capable : List TypeId} {history next : MeterHistory} {event : MeterEvent}
    (tracked : history.Tracked) (agreed : history.Agreed) (names : history.namesOneSource event = true)
    (keeps : history.keepsModel event = true) (taken : history.step capable event = some next) :
    next.Agreed := by
  cases meterMove_of_step tracked.consistent taken with
  | quiet => exact ⟨agreed.agree, agreed.covered⟩
  | removed => exact ⟨agreed.agree, agreed.covered⟩
  | passed node before after derived passes _ _ condition agrees =>
      rw [condition, passNames] at names
      rw [agrees, passAgrees] at keeps
      cases describes : before.describes node with
      | true =>
          simp only [describes, if_true] at names keeps
          simp only [afterPass, describes, if_true]
          have withNew : ∀ first ∈ history.models, first.nodeId = node.nodeId →
              NameOneSource first node := by
            intro first member own
            have agree := List.all_eq_true.mp keeps first member
            simp only [own, ne_eq, not_true_eq_false, decide_false, Bool.false_or] at agree
            exact nameOneSource_of_agreesWith (tracked.derived first member) derived agree
          constructor
          · intro first firstMember second secondMember own
            rcases List.mem_append.mp firstMember with firstEarlier | firstLast
            · rcases List.mem_append.mp secondMember with secondEarlier | secondLast
              · exact agreed.agree first firstEarlier second secondEarlier own
              · obtain rfl := List.mem_singleton.mp secondLast
                exact withNew first firstEarlier own
            · obtain rfl := List.mem_singleton.mp firstLast
              rcases List.mem_append.mp secondMember with secondEarlier | secondLast
              · exact (withNew second secondEarlier own.symm).symm
              · obtain rfl := List.mem_singleton.mp secondLast
                exact nameOneSource_of_unshared derived names
          · intro reading member
            rcases List.mem_append.mp member with earlier | new
            · exact agreed.covered reading earlier
            · rcases reading_of_pass passes new with ⟨-, same, -⟩
              rw [same, InsertionMap.get?_set, if_pos rfl]
              exact Option.some_ne_none node
      | false =>
          simp only [describes, Bool.false_eq_true, if_false] at keeps
          simp only [afterPass, describes, Bool.false_eq_true, if_false]
          refine ⟨agreed.agree, ?_⟩
          intro reading member
          rcases List.mem_append.mp member with earlier | new
          · exact agreed.covered reading earlier
          · rcases reading_of_pass passes new with ⟨-, same, electrical, measured, -⟩
            rcases measures_iff.mp measured with ⟨path, present, -, cluster⟩
            rw [← cluster] at electrical
            rw [same]
            exact (covers_iff electrical).mp (List.all_eq_true.mp keeps path present)
  | live nodeId path _ condition =>
      rw [condition] at keeps
      refine ⟨agreed.agree, ?_⟩
      intro reading member
      rcases List.mem_append.mp member with earlier | new
      · exact agreed.covered reading earlier
      · rcases List.mem_flatMap.mp new with ⟨device, -, given⟩
        rcases mem_readingsFrom.mp given with ⟨_, listed, electrical, rfl⟩
        obtain rfl := List.mem_singleton.mp listed
        exact (covers_iff electrical).mp keeps

/-- Two readings of one device are of one node, and each comes from the endpoint where the
device stands or from one that is linked to it. -/
theorem Tracked.sources {history : MeterHistory} (tracked : history.Tracked) {first second : Reading}
    (firstMember : first ∈ history.readings) (secondMember : second ∈ history.readings)
    (device : first.device = second.device) :
    first.node = second.node ∧ isElectrical first.cluster = true ∧ ∃ endpointId,
      (first.source = endpointId ∨
        first.model.bind (·.linkTarget? first.source) = some endpointId) ∧
      (second.source = endpointId ∨
        second.model.bind (·.linkTarget? second.source) = some endpointId) := by
  rcases tracked.supplied first firstMember with ⟨electrical, endpointId, stands, source⟩
  rcases tracked.supplied second secondMember with ⟨-, otherEndpoint, otherStands, otherSource⟩
  rw [device] at stands
  rcases stands.unique otherStands with ⟨sameNode, rfl⟩
  exact ⟨sameNode, electrical, endpointId, source, otherSource⟩

theorem oneSource_of_named {history : MeterHistory} (tracked : history.Tracked)
    (named : history.Named) : OneSource history.readings := by
  intro first firstMember second secondMember device cluster model
  rcases tracked.sources firstMember secondMember device with
    ⟨-, electrical, endpointId, source, otherSource⟩
  cases found : first.model with
  | none =>
      rw [← model, found] at otherSource
      rw [found] at source
      simp only [Option.bind_none, reduceCtorEq, or_false] at source otherSource
      exact source.trans otherSource.symm
  | some inForce =>
      rw [← model, found] at otherSource
      rw [found] at source
      have listed := (tracked.wasInForce first firstMember inForce found).1
      have measured := named.listed first firstMember inForce found
      have otherMeasured := named.listed second secondMember inForce (model ▸ found)
      rw [← cluster] at otherMeasured
      exact named.unshared inForce listed endpointId _ _ _ electrical measured otherMeasured source
        otherSource

theorem oneSourceEver_of_agreed {history : MeterHistory} (tracked : history.Tracked)
    (named : history.Named) (agreed : history.Agreed) : OneSourceEver history.readings := by
  intro first firstMember second secondMember device cluster
  rcases tracked.sources firstMember secondMember device with
    ⟨sameNode, electrical, endpointId, source, otherSource⟩
  rcases Option.ne_none_iff_exists'.mp (agreed.covered first firstMember) with ⟨model, found⟩
  rcases Option.ne_none_iff_exists'.mp (agreed.covered second secondMember) with ⟨other, otherFound⟩
  rw [found] at source
  rw [otherFound] at otherSource
  rcases tracked.wasInForce first firstMember model found with ⟨listed, own⟩
  rcases tracked.wasInForce second secondMember other otherFound with ⟨otherListed, otherOwn⟩
  have measured := named.listed first firstMember model found
  have otherMeasured := named.listed second secondMember other otherFound
  rw [← cluster] at otherMeasured
  exact agreed.agree model listed other otherListed (own.trans (sameNode.trans otherOwn.symm))
    endpointId _ _ _ electrical measured otherMeasured source otherSource

end MeterHistory

/-! ## Each reading has one source -/

/-- The reverse links are the inverse of the forward links, also while the links of a node
are resolved anew; links are those of nodes a model is in force for, and no endpoint that
measures by that model is linked to. -/
structure MeterHistory.LinksSound (history : MeterHistory) : Prop where
  inverse : history.world.sync.LinksInverse
  between : ∀ nodeId, (history.world.sync.clearMeterLinks nodeId).LinksInverse
  quiet : ∀ nodeId source target,
    history.world.sync.forwardLinks.get? (nodeId, source) = some target →
      ∃ model, history.described.get? nodeId = some model ∧
        ∀ cluster, isElectrical cluster = true → model.measures target cluster = false

theorem MeterHistory.Tracked.linksSound {history : MeterHistory} (tracked : history.Tracked) :
    history.LinksSound where
  inverse := tracked.links.inverse
  between := fun nodeId => (tracked.links.clearMeterLinks nodeId).inverse
  quiet := by
    intro nodeId source target linked
    rw [tracked.links.forward, Option.bind_eq_some_iff] at linked
    rcases linked with ⟨model, found, linked⟩
    have derived := tracked.derived model (tracked.inForce nodeId model found).1
    exact ⟨model, found, fun cluster electrical => not_measures_of_linked derived linked electrical⟩

/-- The links are sound in every run.  Where no model that comes into force has two orphan
meters of one cluster with the same sole actuator, and no other electrical attribute is
beyond the model in force, a device has its readings of a cluster from one endpoint as long as the
model stays in force, and for good where the models of a node agree. -/
theorem oneSource_run (capable : List TypeId) {world : PluginWorld}
    (existing : ∀ device ∈ world.indigo.keys, device < world.nextId) (events : List MeterEvent)
    (history : MeterHistory) :
    (Run (MeterHistory.step capable) (.initial world) events history → history.LinksSound) ∧
      (RunWhere (MeterHistory.step capable) (fun history event => history.namesOneSource event = true)
        (.initial world) events history → OneSource history.readings) ∧
      (RunWhere (MeterHistory.step capable)
        (fun history event => history.namesOneSource event = true ∧ history.keepsModel event = true)
        (.initial world) events history → OneSourceEver history.readings) := by
  have initially := MeterHistory.tracked_initial existing
  have unnamed : (MeterHistory.initial world).Named := ⟨by simp [MeterHistory.initial],
    by simp [MeterHistory.initial]⟩
  refine ⟨?_, ?_, ?_⟩
  · intro run
    apply MeterHistory.Tracked.linksSound
    exact run.invariant initially fun _ _ _ tracked _ taken => MeterHistory.tracked_step tracked taken
  · intro run
    have kept : history.Tracked ∧ history.Named := by
      apply @RunWhere.invariant _ _ _ _ _ (fun history => history.Tracked ∧ history.Named) _ _ _ _ run
      · exact ⟨initially, unnamed⟩
      · rintro state event next ⟨tracked, named⟩ names taken
        exact ⟨MeterHistory.tracked_step tracked taken,
          MeterHistory.named_step tracked named names taken⟩
    exact MeterHistory.oneSource_of_named kept.1 kept.2
  · intro run
    have kept : history.Tracked ∧ history.Named ∧ history.Agreed := by
      apply @RunWhere.invariant _ _ _ _ _
        (fun history => history.Tracked ∧ history.Named ∧ history.Agreed) _ _ _ _ run
      · exact ⟨initially, unnamed, by simp [MeterHistory.initial], by simp [MeterHistory.initial]⟩
      · rintro state event next ⟨tracked, named, agreed⟩ ⟨names, keeps⟩ taken
        exact ⟨MeterHistory.tracked_step tracked taken,
          MeterHistory.named_step tracked named names taken,
          MeterHistory.agreed_step tracked agreed names keeps taken⟩
    exact MeterHistory.oneSourceEver_of_agreed kept.1 kept.2.1 kept.2.2

/-- A plugin without devices. -/
def emptyPlugin : PluginWorld where
  indigo := ∅
  nextId := 1
  sync := ⟨∅, [], ∅, ∅, ∅⟩
  nodeTombstones := []
  retiredNodes := []
  creationSuspended := []
  selfDeletedIds := []
  effects := []

/-- The plug is commissioned, its meter reports, and the node is updated. -/
def plugEvents : List MeterEvent :=
  [.commissioned (fun _ _ => true) meteredPlug, .live 5 ⟨2, 0x0090, 8⟩,
    .updated (fun _ _ => true) meteredPlug]

theorem oneSource_run_plug :
    ∃ history : MeterHistory, history.readings.length = 3 ∧ history.LinksSound ∧ OneSource history.readings ∧
      OneSourceEver history.readings := by
  have start : ∀ device ∈ emptyPlugin.indigo.keys, device < emptyPlugin.nextId := by decide
  refine ⟨_, ?_, (oneSource_run meterCapableTypes start plugEvents _).1 (runWhere_of_follow (by rfl)),
    (oneSource_run meterCapableTypes start plugEvents _).2.1 (runWhere_of_follow (by rfl)),
    (oneSource_run meterCapableTypes start plugEvents _).2.2 (runWhere_of_follow (by rfl))⟩
  decide +kernel

/-- A plug on endpoint 1, and meters on endpoints 2 and 3. -/
def doubleMeteredPlug : List (String × PyJson) :=
  [("node_id", .int 5),
    ("attributes", .dict [("1/6/0", .bool true), ("2/144/8", .int 1500), ("3/144/8", .int 20)])]

theorem two_meters_supply_one_relay :
    ∃ history, Run (MeterHistory.step meterCapableTypes) (.initial emptyPlugin)
        [.commissioned (fun _ _ => true) doubleMeteredPlug, .live 5 ⟨2, 0x0090, 8⟩,
          .live 5 ⟨3, 0x0090, 8⟩] history ∧
      ¬ OneSource history.readings := by
  refine ⟨_, runWhere_of_follow (by rfl), ?_⟩
  intro one
  have same := one _ (List.getElem_mem (show 0 < _ by decide +kernel)) _
    (List.getElem_mem (show 1 < _ by decide +kernel)) (by decide +kernel) (by decide +kernel) rfl
  revert same
  decide +kernel

end IndigoMatter.Plugin
