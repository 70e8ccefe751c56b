import IndigoMatter.Library.Fallible
import IndigoMatter.Plugin.DeviceCreation
import Mathlib

/-!
# Refreshing a node whose devices may be gone

A user can delete a device in Indigo while the index still lists it.  Most lookups
of a refresh are guarded: they skip a device that is gone.  The one that opens
`_prime_states` is not, and what it throws ends the refresh of the whole node.

A reconcile pass rebuilds the index from Indigo first, so it never meets such a
device.
-/

namespace IndigoMatter.Plugin

open IndigoMatter.Library

/-- Computations on the plugin that may throw the id of a device Indigo lacks. -/
abbrev Refresh := EStateM DeviceId PluginWorld

/-- `indigo.devices[dev_id]`. -/
def lookupDevice (device : DeviceId) : Refresh Unit := do
  let world ← get
  if world.indigo.has device then pure () else throw device

/-- A lookup and an effect on the device, skipped where the device is gone:
`_safe_unreachable`, `_clear_error`, one device of `_reassert_capability_props`. -/
def guardedEffect (device : DeviceId) (effect : DeviceEffect) : Refresh Unit :=
  tryCatch
    (do lookupDevice device
        modify (·.note device effect))
    fun _ => pure ()

/-- `_reassert_capability_props`. -/
def reassertCapabilityProps (node : NodeInfo) : Refresh Unit := do
  let world ← get
  forM (world.sync.refreshPasses node) fun pass => guardedEffect pass.device .propsReasserted

/-- `_prime_states`: its lookup is not guarded. -/
def primeStates (node : NodeInfo) (pass : PrimePass) : Refresh Unit := do
  lookupDevice pass.device
  modify (·.prime node pass)

/-- `_refresh_live_node`. -/
def refreshLiveNode (node : NodeInfo) : Refresh Unit := do
  reassertCapabilityProps node
  let world ← get
  forM (world.sync.refreshPasses node) fun pass => do
    primeStates node pass
    guardedEffect pass.device .errorCleared

/-- `_write_node_reachable`. -/
def writeNodeReachable (nodeId : NodeId) (value : Bool) : Refresh Unit := do
  let world ← get
  match (world.sync.index.typeMap nodeId 0).get? "matterNode" with
  | some device => guardedEffect device (.reachable value)
  | none => pure ()

/-- The devices indexed for a node. -/
def DeviceIndex.devicesOf (index : DeviceIndex) (nodeId : NodeId) : List DeviceId :=
  (index.entries.filter (·.1.1 = nodeId)).flatMap (·.2.values)

/-- `mark_unreachable`. -/
def markUnreachable (nodeId : NodeId) : Refresh Unit := do
  let world ← get
  forM (world.sync.index.devicesOf nodeId) fun device => guardedEffect device .markedUnreachable
  writeNodeReachable nodeId false

/-- `_apply_reachability`. -/
def applyReachability (node : NodeInfo) : Refresh Unit := do
  if node.available then refreshLiveNode node else markUnreachable node.nodeId
  writeNodeReachable node.nodeId node.available

/-- `_on_node_added`, once the node is parsed. -/
def onNodeAdded (accepts : Accepts?) (node : NodeInfo) : Refresh Unit := do
  modify (·.createDevices accepts node)
  applyReachability node

/-- One node of a reconcile pass, with the guard around it. -/
def reconcileNode (accepts : Accepts?) (node : NodeInfo) : Refresh Unit :=
  tryCatch (onNodeAdded accepts node) fun _ => pure ()

/-- Whether one of the nodes has the endpoint. -/
def isLive (nodes : List NodeInfo) (place : NodeId × EndpointId) : Bool :=
  nodes.any fun node =>
    node.nodeId = place.1 && node.endpoints.any (·.endpointId = place.2)

/-- The devices indexed where no node has an endpoint. -/
def orphans (nodes : List NodeInfo) (index : DeviceIndex) : List DeviceId :=
  (index.entries.filter fun entry => !isLive nodes entry.1).flatMap (·.2.values)

/-- The nodes whose own device is an orphan. -/
def orphanNodes (nodes : List NodeInfo) (index : DeviceIndex) : List NodeId :=
  (index.entries.filter fun entry =>
    entry.1.2 = 0 && !isLive nodes entry.1 && entry.2.has "matterNode").map (·.1.1)

/-- `rebuild_index`. -/
def PluginWorld.rebuild (world : PluginWorld) : PluginWorld :=
  { world with sync := { world.sync with index := rebuildIndex world.indigo } }

/-- `reconcile_all` over the nodes that parse. -/
def reconcileAll (accepts : NodeId → Accepts?) (nodes : List NodeInfo) : Refresh Unit := do
  modify PluginWorld.rebuild
  forM nodes fun node => reconcileNode (accepts node.nodeId) node
  let world ← get
  forM (orphans nodes world.sync.index) fun device => guardedEffect device .markedUnreachable
  forM (orphanNodes nodes world.sync.index) fun nodeId => writeNodeReachable nodeId false

/-! ## Effects are appended -/

namespace PluginWorld

/-- Record several effects. -/
def append (world : PluginWorld) (log : List (DeviceId × DeviceEffect)) : PluginWorld :=
  { world with effects := world.effects ++ log }

@[simp]
theorem append_nil (world : PluginWorld) : world.append [] = world := by
  simp [append]

@[simp]
theorem append_append (world : PluginWorld) (first second : List (DeviceId × DeviceEffect)) :
    (world.append first).append second = world.append (first ++ second) := by
  simp [append]

@[simp]
theorem append_indigo (world : PluginWorld) (log : List (DeviceId × DeviceEffect)) :
    (world.append log).indigo = world.indigo := rfl

@[simp]
theorem append_sync (world : PluginWorld) (log : List (DeviceId × DeviceEffect)) :
    (world.append log).sync = world.sync := rfl

theorem note_eq_append (world : PluginWorld) (device : DeviceId) (effect : DeviceEffect) :
    world.note device effect = world.append [(device, effect)] := rfl

end PluginWorld

/-- The effect of a guarded step, if the device is there. -/
def effectOn (world : PluginWorld) (device : DeviceId) (effect : DeviceEffect) :
    List (DeviceId × DeviceEffect) :=
  if world.indigo.has device then [(device, effect)] else []

theorem run_lookupDevice (device : DeviceId) (world : PluginWorld) :
    lookupDevice device world =
      if world.indigo.has device then .ok () world else .error device world := by
  simp only [lookupDevice, bind, EStateM.bind, get, getThe, MonadStateOf.get, EStateM.get]
  split <;> rfl

theorem run_guardedEffect (device : DeviceId) (effect : DeviceEffect) (world : PluginWorld) :
    guardedEffect device effect world = .ok () (world.append (effectOn world device effect)) := by
  simp only [guardedEffect, tryCatch, tryCatchThe, MonadExceptOf.tryCatch, EStateM.tryCatch, bind,
    EStateM.bind, run_lookupDevice]
  cases there : world.indigo.has device with
  | true =>
      simp only [effectOn, there, if_true]
      rfl
  | false =>
      simp only [effectOn, there, Bool.false_eq_true, if_false, PluginWorld.append_nil]
      rfl

/-- A loop whose body appends to the effects appends what its elements do. -/
theorem run_forM_append {α : Type} {items : List α} {body : α → Refresh Unit}
    {log : α → List (DeviceId × DeviceEffect)} {world : PluginWorld}
    (each : ∀ item ∈ items, ∀ prior,
      body item (world.append prior) = .ok () (world.append (prior ++ log item)))
    (prior : List (DeviceId × DeviceEffect)) :
    forM items body (world.append prior) = .ok () (world.append (prior ++ items.flatMap log)) := by
  induction items generalizing prior with
  | nil => simp [pure, EStateM.pure]
  | cons item rest ih =>
      have first := each item List.mem_cons_self prior
      have others := ih (fun other member => each other (List.mem_cons_of_mem _ member))
        (prior ++ log item)
      simp only [List.forM_cons, bind, EStateM.bind, first, others, List.flatMap_cons,
        List.append_assoc]

/-- A loop throws when the body throws at one element, whatever came before. -/
theorem run_forM_throws {α : Type} {items : List α} {body : α → Refresh Unit}
    {log : α → List (DeviceId × DeviceEffect)} {world : PluginWorld} {gone : α → Prop}
    (each : ∀ item ∈ items, ∀ prior,
      (gone item ∧ ∃ error final, body item (world.append prior) = .error error final) ∨
        body item (world.append prior) = .ok () (world.append (prior ++ log item)))
    (throws : ∃ item ∈ items, ∀ prior,
      ∃ error final, body item (world.append prior) = .error error final)
    (prior : List (DeviceId × DeviceEffect)) :
    ∃ error final, forM items body (world.append prior) = .error error final := by
  induction items generalizing prior with
  | nil =>
      rcases throws with ⟨_, member, _⟩
      cases member
  | cons item rest ih =>
      simp only [List.forM_cons, bind, EStateM.bind]
      rcases each item List.mem_cons_self prior with ⟨_, error, final, thrown⟩ | returned
      · exact ⟨error, final, by rw [thrown]⟩
      · rw [returned]
        apply ih
        · exact fun other member => each other (List.mem_cons_of_mem _ member)
        · rcases throws with ⟨other, member, thrown⟩
          rcases List.mem_cons.mp member with rfl | later
          · rcases thrown prior with ⟨error, final, thrown⟩
            rw [returned] at thrown
            cases thrown
          · exact ⟨other, later, thrown⟩

/-! ## A refresh as its effects -/

/-- The effects of re-asserting the properties of a node's devices. -/
def reassertLog (world : PluginWorld) (node : NodeInfo) : List (DeviceId × DeviceEffect) :=
  (world.sync.refreshPasses node).flatMap fun pass => effectOn world pass.device .propsReasserted

/-- The effects of priming a device and clearing its error. -/
def primeLog (world : PluginWorld) (node : NodeInfo) (pass : PrimePass) :
    List (DeviceId × DeviceEffect) :=
  [(pass.device, .primed (world.sync.primedAttributes node pass)), (pass.device, .errorCleared)]

/-- The effects of a refresh that meets every device. -/
def refreshLog (world : PluginWorld) (node : NodeInfo) : List (DeviceId × DeviceEffect) :=
  reassertLog world node ++ (world.sync.refreshPasses node).flatMap (primeLog world node)

/-- The effects of writing whether a node is reachable. -/
def reachableLog (world : PluginWorld) (nodeId : NodeId) (value : Bool) :
    List (DeviceId × DeviceEffect) :=
  match (world.sync.index.typeMap nodeId 0).get? "matterNode" with
  | some device => effectOn world device (.reachable value)
  | none => []

theorem run_reassertCapabilityProps (node : NodeInfo) (world : PluginWorld) :
    reassertCapabilityProps node world = .ok () (world.append (reassertLog world node)) := by
  simp only [reassertCapabilityProps, bind, EStateM.bind, get, getThe, MonadStateOf.get, EStateM.get]
  have loop := @run_forM_append _ (world.sync.refreshPasses node)
    (fun pass => guardedEffect pass.device .propsReasserted)
    (fun pass => effectOn world pass.device .propsReasserted) world
    (fun pass _ prior => by simp [run_guardedEffect, effectOn]) []
  simpa [reassertLog] using loop

theorem run_writeNodeReachable (nodeId : NodeId) (value : Bool) (world : PluginWorld) :
    writeNodeReachable nodeId value world = .ok () (world.append (reachableLog world nodeId value)) := by
  simp only [writeNodeReachable, reachableLog, bind, EStateM.bind, get, getThe, MonadStateOf.get,
    EStateM.get]
  cases (world.sync.index.typeMap nodeId 0).get? "matterNode" with
  | some device => exact run_guardedEffect _ _ _
  | none => simp [pure, EStateM.pure]

private theorem run_primeAndClear {node : NodeInfo} {pass : PrimePass} {world : PluginWorld}
    (there : world.indigo.has pass.device = true) (prior : List (DeviceId × DeviceEffect)) :
    (do primeStates node pass
        guardedEffect pass.device .errorCleared : Refresh Unit) (world.append prior) =
      .ok () (world.append (prior ++ primeLog world node pass)) := by
  simp only [primeStates, bind, EStateM.bind, run_lookupDevice, PluginWorld.append_indigo, there,
    if_true, modify, modifyGet, MonadStateOf.modifyGet, EStateM.modifyGet, PluginWorld.prime,
    PluginWorld.note_eq_append, run_guardedEffect, effectOn, PluginWorld.append_append]
  simp [primeLog]

private theorem throws_primeAndClear {node : NodeInfo} {pass : PrimePass} {world : PluginWorld}
    (gone : world.indigo.has pass.device = false) (prior : List (DeviceId × DeviceEffect)) :
    ∃ error final, (do primeStates node pass
                       guardedEffect pass.device .errorCleared : Refresh Unit) (world.append prior) =
      .error error final := by
  simp [primeStates, bind, EStateM.bind, run_lookupDevice, gone]

/-- A refresh that meets every device it is about returns. -/
theorem run_refreshLiveNode {node : NodeInfo} {world : PluginWorld}
    (there : ∀ pass ∈ world.sync.refreshPasses node, world.indigo.has pass.device = true) :
    refreshLiveNode node world = .ok () (world.append (refreshLog world node)) := by
  simp only [refreshLiveNode, bind, EStateM.bind, run_reassertCapabilityProps, get, getThe,
    MonadStateOf.get, EStateM.get, PluginWorld.append_sync]
  have loop := @run_forM_append _ (world.sync.refreshPasses node)
    (fun pass => do primeStates node pass; guardedEffect pass.device .errorCleared)
    (primeLog world node) world (fun pass member => run_primeAndClear (there pass member))
    (reassertLog world node)
  exact loop

/-- A refresh throws as soon as one device is gone. -/
theorem throws_refreshLiveNode {node : NodeInfo} {world : PluginWorld} {pass : PrimePass}
    (member : pass ∈ world.sync.refreshPasses node) (gone : world.indigo.has pass.device = false) :
    ∃ error final, refreshLiveNode node world = .error error final := by
  simp only [refreshLiveNode, bind, EStateM.bind, run_reassertCapabilityProps, get, getThe,
    MonadStateOf.get, EStateM.get, PluginWorld.append_sync]
  apply @run_forM_throws _ _ _ (primeLog world node) _ fun pass => world.indigo.has pass.device = false
  · intro other _ prior
    cases there : world.indigo.has other.device with
    | true => exact .inr (run_primeAndClear there prior)
    | false => exact .inl ⟨rfl, throws_primeAndClear there prior⟩
  · exact ⟨pass, member, throws_primeAndClear gone⟩

/-- Handling an available node comes down to creating its devices and refreshing
them. -/
theorem run_onNodeAdded {accepts : Accepts?} {node : NodeInfo} {world : PluginWorld}
    (available : node.available = true)
    (there : ∀ pass ∈ (world.createDevices accepts node).sync.refreshPasses node,
      (world.createDevices accepts node).indigo.has pass.device = true) :
    let created := world.createDevices accepts node
    onNodeAdded accepts node world =
      .ok () (created.append
        (refreshLog created node ++ reachableLog created node.nodeId true)) := by
  simp only [onNodeAdded, applyReachability, available, bind, EStateM.bind, modify, modifyGet,
    MonadStateOf.modifyGet, EStateM.modifyGet, if_true, run_refreshLiveNode there,
    run_writeNodeReachable]
  simp [reachableLog, effectOn]

theorem throws_onNodeAdded {accepts : Accepts?} {node : NodeInfo} {world : PluginWorld}
    (available : node.available = true) {pass : PrimePass}
    (member : pass ∈ (world.createDevices accepts node).sync.refreshPasses node)
    (gone : (world.createDevices accepts node).indigo.has pass.device = false) :
    ∃ error final, onNodeAdded accepts node world = .error error final := by
  rcases throws_refreshLiveNode member gone with ⟨error, final, thrown⟩
  refine ⟨error, final, ?_⟩
  simp only [onNodeAdded, applyReachability, available, bind, EStateM.bind, modify, modifyGet,
    MonadStateOf.modifyGet, EStateM.modifyGet, if_true, thrown]

/-! ## Devices that survive -/

/-- The node's own device, as indexed. -/
def PluginWorld.nodeDevice? (world : PluginWorld) (node : NodeInfo) : Option DeviceId :=
  (world.sync.index.typeMap node.nodeId 0).get? "matterNode"

/-- A device indexed for the node that Indigo still has. -/
def Survives (world : PluginWorld) (node : NodeInfo) (device : DeviceId) : Prop :=
  (∃ endpointId, device ∈ world.sync.index.devicesOn node.nodeId endpointId) ∧
    device ∈ world.indigo.keys

/-- The index without the devices that are gone. -/
def DeviceIndex.forgetMissing (index : DeviceIndex) (devices : IndigoDevices) : DeviceIndex :=
  index.mapValues fun _ typeMap =>
    typeMap.filterKeys fun typeId => (typeMap.get? typeId).any devices.has

/-- The same plugin, had the devices that are gone never been indexed. -/
def PluginWorld.forgetMissing (world : PluginWorld) : PluginWorld :=
  { world with sync :=
      { world.sync with index := world.sync.index.forgetMissing world.indigo } }

/-- What a log records for one device. -/
def effectsOf (device : DeviceId) (log : List (DeviceId × DeviceEffect)) :
    List (DeviceId × DeviceEffect) :=
  log.filter (·.1 = device)

/-- Handling the node returns, primes every surviving device of it and clears its
error, writes its own device reachable, and does to every surviving device what it
would do had the others never been indexed. -/
def Isolates (handle : Refresh Unit) (node : NodeInfo) (world : PluginWorld) : Prop :=
  ∃ final log, handle world = .ok () final ∧ final.effects = world.effects ++ log ∧
    (∀ device, Survives world node device →
      (∃ attributes, (device, .primed attributes) ∈ log) ∧ (device, .errorCleared) ∈ log ∧
        (device, .markedUnreachable) ∉ log) ∧
    (∀ device, world.nodeDevice? node = some device → device ∈ world.indigo.keys →
      (device, .reachable true) ∈ log ∧ (device, .reachable false) ∉ log) ∧
    ∃ final' log', handle world.forgetMissing = .ok () final' ∧
      final'.effects = world.effects ++ log' ∧
      ∀ device, Survives world node device → effectsOf device log = effectsOf device log'

/-- An index that only deletions since have made out of date, and an Indigo that does
not reuse an id: what is indexed and exists is what a rebuilt index would hold. -/
structure PluginWorld.MissesOnlyDeletions (world : PluginWorld) : Prop where
  indexed_lt : ∀ nodeId endpointId typeId device,
    (world.sync.index.typeMap nodeId endpointId).get? typeId = some device → device < world.nextId
  existing_lt : ∀ device ∈ world.indigo.keys, device < world.nextId
  current : ∀ nodeId endpointId typeId device, device ∈ world.indigo.keys →
    (world.sync.index.typeMap nodeId endpointId).get? typeId = some device →
      ((rebuildIndex world.indigo).typeMap nodeId endpointId).get? typeId = some device

/-- Every device indexed on an endpoint the node has exists, and none of its other
indexed devices does. -/
def ExactlyPresent (world : PluginWorld) (node : NodeInfo) : Prop :=
  ∀ endpointId device, device ∈ world.sync.index.devicesOn node.nodeId endpointId →
    (device ∈ world.indigo.keys ↔ endpointId ∈ node.endpoints.map (·.endpointId))

end IndigoMatter.Plugin
