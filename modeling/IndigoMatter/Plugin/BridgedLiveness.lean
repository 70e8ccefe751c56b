import IndigoMatter.Plugin.ReconcileIsolation
import Mathlib.Data.List.TakeWhile

/-!
# The liveness of a bridged child

A bridge says of each child whether it is reachable.  A live report of that marks or
clears all devices of the child's endpoint.  A snapshot of the node carries the same
attribute, and a refresh does not look at it: it clears the error of every device it
reaches.

A refresh ends at the first device Indigo no longer has, and the devices after it keep
the mark they had.
-/

namespace IndigoMatter.Plugin

open IndigoMatter.Library

/-! ## What a bridge reports -/

/-- `CLUSTER_BRIDGED_BASIC`. -/
def clusterBridgedBasic : ClusterId := 0x0039

/-- `BBRIDGE_ATTR_REACHABLE` of an endpoint. -/
def reachablePath (endpoint : EndpointId) : AttributePath :=
  ⟨endpoint, clusterBridgedBasic, 0x0011⟩

/-- The branch of `_on_attribute` for `Reachable`: unknown is not offline. -/
def onReachable (nodeId : NodeId) (endpointId : EndpointId) (value : PyJson) : Refresh Unit := do
  let world ← get
  let devices := world.sync.index.devicesOn nodeId endpointId
  match value with
  | .null => pure ()
  | value =>
      if value.truthy then forM devices fun device => guardedEffect device .errorCleared
      else forM devices fun device => guardedEffect device .markedUnreachable

/-- What a snapshot says of an endpoint; one without the attribute is reachable, and
nothing is known of one whose attribute is null. -/
def NodeInfo.reachable? (node : NodeInfo) (endpoint : EndpointId) : Option Bool :=
  match node.attributes.get? (reachablePath endpoint) with
  | none => some true
  | some .null => none
  | some value => some value.truthy

/-! ## The mark of a device -/

/-- Which attributes a handler writes a state for: `apply_states` clears the error of a
device that it writes to. -/
abbrev Writes? := DeviceId → List (AttributePath × PyJson) → Bool

/-- Whether a device is marked unreachable after an effect on it. -/
def DeviceEffect.leavesMarked (effect : DeviceEffect) (writes : List (AttributePath × PyJson) → Bool)
    (marked : Bool) : Bool :=
  match effect with
  | .propsReasserted | .reachable _ => marked
  | .primed attributes => marked && !writes attributes
  | .errorCleared => false
  | .markedUnreachable => true

/-- Whether a device is marked after a log. -/
def markedAfter (writes : Writes?) (device : DeviceId) (marked : Bool)
    (log : List (DeviceId × DeviceEffect)) : Bool :=
  (effectsOf device log).foldl (fun marked entry => entry.2.leavesMarked (writes device) marked)
    marked

/-- Whether a device is marked unreachable. -/
def PluginWorld.isMarked (world : PluginWorld) (writes : Writes?) (device : DeviceId) : Bool :=
  markedAfter writes device false world.effects

section Marks

variable {writes : Writes?} {device : DeviceId} {marked : Bool}
  {log first second : List (DeviceId × DeviceEffect)}

theorem markedAfter_append :
    markedAfter writes device marked (first ++ second) =
      markedAfter writes device (markedAfter writes device marked first) second := by
  rw [markedAfter, effectsOf, List.filter_append, List.foldl_append]
  rfl

theorem isMarked_append {world : PluginWorld} :
    (world.append log).isMarked writes device =
      markedAfter writes device (world.isMarked writes device) log :=
  markedAfter_append

/-- Effects that neither mark nor clear a device leave its mark alone. -/
theorem markedAfter_of_silent
    (silent : ∀ effect, (device, effect) ∈ log → ∀ marked,
      effect.leavesMarked (writes device) marked = marked) :
    markedAfter writes device marked log = marked := by
  induction log generalizing marked with
  | nil => rfl
  | cons entry rest ih =>
      have later : markedAfter writes device marked rest = marked :=
        ih fun effect member => silent effect (List.mem_cons_of_mem _ member)
      rcases entry with ⟨other, effect⟩
      by_cases own : other = device
      · subst own
        have kept := silent effect List.mem_cons_self marked
        simpa [markedAfter, effectsOf, kept] using later
      · simpa [markedAfter, effectsOf, own] using later

theorem markedAfter_of_untouched (untouched : ∀ effect, (device, effect) ∉ log) :
    markedAfter writes device marked log = marked :=
  markedAfter_of_silent fun effect member => absurd member (untouched effect)

/-- A live report reaches every device of the endpoint that exists. -/
theorem markedAfter_effectOn {world : PluginWorld} {effect : DeviceEffect} {value : Bool}
    (sets : ∀ marked, effect.leavesMarked (writes device) marked = value)
    (there : world.indigo.has device = true) {devices : List DeviceId} (listed : device ∈ devices) :
    markedAfter writes device marked (devices.flatMap fun other => effectOn world other effect) =
      value := by
  induction devices generalizing marked with
  | nil => cases listed
  | cons other rest ih =>
      rw [List.flatMap_cons, markedAfter_append]
      by_cases later : device ∈ rest
      · exact ih later
      · obtain rfl : device = other := (List.mem_cons.mp listed).resolve_right later
        rw [markedAfter_of_untouched]
        · simp [markedAfter, effectsOf, effectOn, there, sets]
        · intro other member
          rcases List.mem_flatMap.mp member with ⟨another, isRest, recorded⟩
          obtain rfl : device = another := congrArg Prod.fst (mem_effectOn.mp recorded).2
          exact later isRest

end Marks

/-- After a live report each device of the endpoint that exists is marked exactly when
the report says that the child is not reachable. -/
theorem isMarked_onReachable {writes : Writes?} {world : PluginWorld} {nodeId : NodeId}
    {endpointId : EndpointId} {device : DeviceId}
    (stored : device ∈ world.sync.index.devicesOn nodeId endpointId)
    (there : world.indigo.has device = true) (value : PyJson) :
    (finalState (onReachable nodeId endpointId value world)).isMarked writes device =
      match value with
      | .null => world.isMarked writes device
      | value => !value.truthy := by
  have run (effect : DeviceEffect) :
      (forM (world.sync.index.devicesOn nodeId endpointId) fun device =>
          guardedEffect device effect : Refresh Unit) world =
        .ok () (world.append ((world.sync.index.devicesOn nodeId endpointId).flatMap fun device =>
          effectOn world device effect)) := by
    have loop := @run_forM_append _ (world.sync.index.devicesOn nodeId endpointId)
      (fun device => guardedEffect device effect) (fun device => effectOn world device effect) world
      (fun device _ prior => by simp [run_guardedEffect, effectOn]) []
    simpa using loop
  have reports (alive : Bool) :
      (finalState ((if alive then
          forM (world.sync.index.devicesOn nodeId endpointId) fun device =>
            guardedEffect device .errorCleared
        else forM (world.sync.index.devicesOn nodeId endpointId) fun device =>
            guardedEffect device .markedUnreachable : Refresh Unit) world)).isMarked writes device =
        !alive := by
    cases alive with
    | true =>
        rw [if_pos rfl, run, finalState_ok, isMarked_append]
        exact markedAfter_effectOn (fun _ => rfl) there stored
    | false =>
        rw [if_neg (by simp), run, finalState_ok, isMarked_append]
        exact markedAfter_effectOn (fun _ => rfl) there stored
  cases value with
  | null => rfl
  | bool value => exact reports _
  | int value => exact reports _
  | float value => exact reports _
  | str text => exact reports _
  | list items => exact reports _
  | dict fields => exact reports _

/-! ## A refresh that may end early -/

/-- The passes of a refresh before the first device that Indigo does not have. -/
def metPasses (world : PluginWorld) (node : NodeInfo) : List PrimePass :=
  (world.sync.refreshPasses node).takeWhile fun pass => world.indigo.has pass.device

/-- The devices a refresh reaches. -/
def metDevices (world : PluginWorld) (node : NodeInfo) : List DeviceId :=
  (metPasses world node).map (·.device)

/-- A loop whose body appends to the effects or throws without any ends at the first
element that throws. -/
theorem final_forM_append {α : Type} {items : List α} {body : α → Refresh Unit} {passes : α → Bool}
    {log : α → List (DeviceId × DeviceEffect)} {world : PluginWorld}
    (each : ∀ item prior,
      if passes item then
        body item (world.append prior) = .ok () (world.append (prior ++ log item))
      else ∃ error, body item (world.append prior) = .error error (world.append prior))
    (prior : List (DeviceId × DeviceEffect)) :
    finalState (forM items body (world.append prior)) =
      world.append (prior ++ (items.takeWhile passes).flatMap log) := by
  induction items generalizing prior with
  | nil => simp [pure, EStateM.pure]
  | cons item rest ih =>
      have first := each item prior
      simp only [List.forM_cons, bind, EStateM.bind]
      split at first
      · rename_i passed
        rw [first, List.takeWhile_cons_of_pos passed, List.flatMap_cons, ← List.append_assoc]
        exact ih _
      · rename_i thrown
        rcases first with ⟨error, first⟩
        rw [first, List.takeWhile_cons_of_neg thrown]
        simp

theorem final_refreshLiveNode (node : NodeInfo) (world : PluginWorld) :
    finalState (refreshLiveNode node world) =
      world.append (reassertLog world node ++ (metPasses world node).flatMap (primeLog world node)) := by
  simp only [refreshLiveNode, bind, EStateM.bind, run_reassertCapabilityProps, get, getThe,
    MonadStateOf.get, EStateM.get, PluginWorld.append_sync]
  apply final_forM_append
  intro pass prior
  cases there : world.indigo.has pass.device with
  | true =>
      rw [if_pos rfl]
      simp only [primeStates, bind, EStateM.bind, run_lookupDevice, PluginWorld.append_indigo, there,
        if_true, modify, modifyGet, MonadStateOf.modifyGet, EStateM.modifyGet, PluginWorld.prime,
        PluginWorld.note_eq_append, run_guardedEffect, effectOn, PluginWorld.append_append]
      simp [primeLog]
  | false =>
      rw [if_neg (by simp)]
      exact ⟨pass.device, by simp [primeStates, bind, EStateM.bind, run_lookupDevice, there]⟩

/-- Handling an available node ends with the refresh, or with the state of its own
device. -/
theorem final_onNodeAdded {accepts : Accepts?} {node : NodeInfo} {world : PluginWorld}
    (available : node.available = true) :
    ∃ written, (∀ entry ∈ written, entry.2 = .reachable true) ∧
      finalState (onNodeAdded accepts node world) =
        (world.createDevices accepts node).append
          ((reassertLog (world.createDevices accepts node) node ++
              (metPasses (world.createDevices accepts node) node).flatMap
                (primeLog (world.createDevices accepts node) node)) ++ written) := by
  have refreshed := final_refreshLiveNode node (world.createDevices accepts node)
  cases ran : refreshLiveNode node (world.createDevices accepts node) with
  | ok result after =>
      rw [ran, finalState_ok] at refreshed
      refine ⟨reachableLog after node.nodeId true,
        fun entry member => (mem_reachableLog.mp member).2.2, ?_⟩
      rw [← PluginWorld.append_append, ← refreshed]
      simp only [onNodeAdded, applyReachability, available, bind, EStateM.bind, modify, modifyGet,
        MonadStateOf.modifyGet, EStateM.modifyGet, if_true, ran, run_writeNodeReachable, finalState_ok]
  | error error after =>
      rw [ran, finalState_error] at refreshed
      refine ⟨[], by simp, ?_⟩
      rw [List.append_nil, ← refreshed]
      simp only [onNodeAdded, applyReachability, available, bind, EStateM.bind, modify, modifyGet,
        MonadStateOf.modifyGet, EStateM.modifyGet, if_true, ran, finalState_error]

theorem markedAfter_primeLogs {writes : Writes?} {device : DeviceId} {marked : Bool}
    {world : PluginWorld} {node : NodeInfo} {passes : List PrimePass} :
    markedAfter writes device marked (passes.flatMap (primeLog world node)) =
      if device ∈ passes.map (·.device) then false else marked := by
  induction passes generalizing marked with
  | nil => rfl
  | cons pass rest ih =>
      rw [List.flatMap_cons, markedAfter_append, ih]
      by_cases own : pass.device = device
      · subst own
        simp [markedAfter, effectsOf, primeLog, DeviceEffect.leavesMarked]
      · simp [markedAfter, effectsOf, primeLog, own, Ne.symm own]

/-- The refresh of an available node clears the mark of every device it reaches, whatever
the snapshot says of it. -/
theorem isMarked_onNodeAdded {accepts : Accepts?} {node : NodeInfo} {world : PluginWorld}
    (available : node.available = true) (writes : Writes?) (device : DeviceId) :
    (finalState (onNodeAdded accepts node world)).isMarked writes device =
      if device ∈ metDevices (world.createDevices accepts node) node then false
      else (world.createDevices accepts node).isMarked writes device := by
  rcases @final_onNodeAdded accepts node world available with ⟨written, reachable, final⟩
  have reasserted (marked : Bool) : markedAfter writes device marked
      (reassertLog (world.createDevices accepts node) node) = marked := by
    apply markedAfter_of_silent
    intro effect member marked
    rcases List.mem_flatMap.mp member with ⟨pass, -, recorded⟩
    rw [show effect = .propsReasserted from congrArg Prod.snd (mem_effectOn.mp recorded).2]
    rfl
  have kept (marked : Bool) : markedAfter writes device marked written = marked := by
    apply markedAfter_of_silent
    intro effect member marked
    rw [show effect = .reachable true from reachable _ member]
    rfl
  rw [final, isMarked_append, markedAfter_append, markedAfter_append, kept, markedAfter_primeLogs,
    reasserted]
  rfl

/-! ## A node update -/

/-- Every device of the node that exists is marked exactly when the snapshot says that its
endpoint is not reachable, and a live report of what the snapshot says of its endpoint
would not change that. -/
structure FollowsReachable (handle : Refresh Unit) (node : NodeInfo) (writes : Writes?)
    (world : PluginWorld) : Prop where
  snapshot : ∀ endpointId ∈ node.endpoints.map (·.endpointId),
    ∀ device ∈ (finalState (handle world)).sync.index.devicesOn node.nodeId endpointId,
      (finalState (handle world)).indigo.has device = true →
        ∀ reachable, node.reachable? endpointId = some reachable →
          (finalState (handle world)).isMarked writes device = !reachable
  live : ∀ endpointId ∈ node.endpoints.map (·.endpointId),
    ∀ device ∈ (finalState (handle world)).sync.index.devicesOn node.nodeId endpointId,
      (finalState (handle world)).indigo.has device = true →
        ∀ value, node.attributes.get? (reachablePath endpointId) = some value →
          (finalState (handle world)).isMarked writes device =
            (finalState (onReachable node.nodeId endpointId value
              (finalState (handle world)))).isMarked writes device

/-- A live report agrees with a snapshot that has been followed. -/
theorem followsReachable_of_snapshot {handle : Refresh Unit} {node : NodeInfo} {writes : Writes?}
    {world : PluginWorld}
    (snapshot : ∀ endpointId ∈ node.endpoints.map (·.endpointId),
      ∀ device ∈ (finalState (handle world)).sync.index.devicesOn node.nodeId endpointId,
        (finalState (handle world)).indigo.has device = true →
          ∀ reachable, node.reachable? endpointId = some reachable →
            (finalState (handle world)).isMarked writes device = !reachable) :
    FollowsReachable handle node writes world := by
  refine ⟨snapshot, ?_⟩
  intro endpointId listed device stored there value reported
  rw [isMarked_onReachable stored there]
  have follows := snapshot endpointId listed device stored there
  simp only [NodeInfo.reachable?, reported] at follows
  cases value with
  | null => rfl
  | bool | int | float | str | list | dict => exact follows _ rfl

/-- The devices the refresh will reach are on endpoints that are not reported as
unreachable, and those it will not reach are marked as the snapshot says. -/
def RefreshAgrees (node : NodeInfo) (writes : Writes?) (world : PluginWorld) : Prop :=
  ∀ pass ∈ world.sync.refreshPasses node, world.indigo.has pass.device = true →
    ∀ reachable, node.reachable? pass.endpointId = some reachable →
      reachable = if pass.device ∈ metDevices world node then true
        else !world.isMarked writes pass.device

theorem mem_refreshPasses_iff {sync : DeviceSync} {node : NodeInfo} {endpointId : EndpointId}
    {device : DeviceId} :
    (∃ pass ∈ sync.refreshPasses node, pass.device = device ∧ pass.endpointId = endpointId) ↔
      endpointId ∈ node.endpoints.map (·.endpointId) ∧
        device ∈ sync.index.devicesOn node.nodeId endpointId := by
  simp only [DeviceSync.refreshPasses, endpointPasses, List.mem_flatMap, List.mem_map,
    DeviceIndex.devicesOn]
  constructor
  · rintro ⟨pass, ⟨endpoint, listed, other, stored, rfl⟩, rfl, rfl⟩
    exact ⟨⟨endpoint, listed, rfl⟩, stored⟩
  · rintro ⟨⟨endpoint, listed, rfl⟩, stored⟩
    exact ⟨_, ⟨endpoint, listed, device, stored, rfl⟩, rfl, rfl⟩

theorem followsReachable_onNodeAdded_iff {node : NodeInfo} (available : node.available = true)
    (accepts : Accepts?) (writes : Writes?) (world : PluginWorld) :
    FollowsReachable (onNodeAdded accepts node) node writes world ↔
      RefreshAgrees node writes (world.createDevices accepts node) := by
  rcases @final_onNodeAdded accepts node world available with ⟨written, -, final⟩
  have sameIndex : (finalState (onNodeAdded accepts node world)).sync =
      (world.createDevices accepts node).sync := by rw [final, PluginWorld.append_sync]
  have sameIndigo : (finalState (onNodeAdded accepts node world)).indigo =
      (world.createDevices accepts node).indigo := by rw [final, PluginWorld.append_indigo]
  have marks := @isMarked_onNodeAdded accepts node world available writes
  constructor
  · intro follows pass member there reachable reported
    rcases mem_refreshPasses_iff.mp ⟨pass, member, rfl, rfl⟩ with ⟨listed, stored⟩
    have mark := follows.snapshot pass.endpointId listed pass.device (by rwa [sameIndex])
      (by rwa [sameIndigo]) reachable reported
    rw [marks] at mark
    by_cases met : pass.device ∈ metDevices (world.createDevices accepts node) node
    · rw [if_pos met] at mark ⊢
      simpa using mark.symm
    · rw [if_neg met] at mark ⊢
      simp [mark]
  · intro agrees
    apply followsReachable_of_snapshot
    intro endpointId listed device stored there reachable reported
    rw [sameIndex] at stored
    rw [sameIndigo] at there
    rcases mem_refreshPasses_iff.mpr ⟨listed, stored⟩ with ⟨pass, member, rfl, rfl⟩
    rw [marks, agrees pass member there reachable reported]
    split
    · rfl
    · simp

/-! ## Where a create pass puts devices -/

theorem devicesOn_ne_nil_iff {index : DeviceIndex} {nodeId : NodeId} {endpointId : EndpointId} :
    index.devicesOn nodeId endpointId ≠ [] ↔
      ∃ typeId device, (index.typeMap nodeId endpointId).get? typeId = some device := by
  constructor
  · intro housed
    rcases List.exists_mem_of_ne_nil _ housed with ⟨device, stored⟩
    rcases mem_devicesOn.mp stored with ⟨typeId, found⟩
    exact ⟨typeId, device, found⟩
  · rintro ⟨typeId, device, found⟩
    exact List.ne_nil_of_mem (mem_devicesOn.mpr ⟨typeId, found⟩)

/-- A create pass asks Indigo for a device on an endpoint, and Indigo accepts. -/
def PluginWorld.creates (world : PluginWorld) (accepts : Accepts?) (node : NodeInfo)
    (endpointId : EndpointId) : Bool :=
  let plan := (world.sync.recordNode node).plan node
  node.nodeId ∉ world.retiredNodes && node.nodeId ∉ world.creationSuspended &&
    (plan.any (fun entry => entry.1 = endpointId && accepts entry.1 entry.2) ||
      (!(node.nodeId ∈ world.nodeTombstones || plan.isEmpty || !node.isConformant) &&
        (endpointId = 0 && accepts 0 "matterNode")))

section Housing

variable {accepts : Accepts?} {node : NodeInfo} {world : PluginWorld}

theorem housed_ensureDevice {siblings : List TypeId} {endpointId : EndpointId} {typeId : TypeId}
    {place : EndpointId} :
    (world.ensureDevice accepts node siblings endpointId typeId).sync.index.devicesOn node.nodeId
        place ≠ [] ↔
      world.sync.index.devicesOn node.nodeId place ≠ [] ∨
        endpointId = place ∧ accepts endpointId typeId = true := by
  unfold PluginWorld.ensureDevice
  split
  · rename_i there
    rcases Option.isSome_iff_exists.mp there with ⟨device, stored⟩
    constructor
    · exact .inl
    · rintro (housed | ⟨rfl, -⟩)
      · exact housed
      · exact devicesOn_ne_nil_iff.mpr ⟨typeId, device, stored⟩
  · split
    · rename_i refused
      have refused : accepts endpointId typeId = false := by simpa using refused
      simp [refused]
    · rename_i accepted
      have accepted : accepts endpointId typeId = true := by simpa using accepted
      simp only [devicesOn_ne_nil_iff, PluginWorld.prime, PluginWorld.note, PluginWorld.get?_create,
        accepted, and_true]
      by_cases here : endpointId = place
      · subst here
        constructor
        · exact fun _ => .inr rfl
        · exact fun _ => ⟨typeId, world.nextId, by simp⟩
      · simp [here, Ne.symm here]

theorem housed_carryOut {plan : List (EndpointId × TypeId)} {place : EndpointId} :
    (world.carryOut accepts node plan).sync.index.devicesOn node.nodeId place ≠ [] ↔
      world.sync.index.devicesOn node.nodeId place ≠ [] ∨
        (∃ entry ∈ plan, entry.1 = place ∧ accepts entry.1 entry.2 = true) ∨
          (node.nodeId ∈ world.nodeTombstones || plan.isEmpty || !node.isConformant) = false ∧
            place = 0 ∧ accepts 0 "matterNode" = true := by
  have fold (entries : List (EndpointId × TypeId)) (start : PluginWorld) :
      (entries.foldl (fun world entry => world.ensureDevice accepts node
          (PluginWorld.plannedOn plan entry.1) entry.1 entry.2) start).sync.index.devicesOn node.nodeId
            place ≠ [] ↔
        start.sync.index.devicesOn node.nodeId place ≠ [] ∨
          ∃ entry ∈ entries, entry.1 = place ∧ accepts entry.1 entry.2 = true := by
    induction entries generalizing start with
    | nil => simp
    | cons entry rest ih =>
        rw [List.foldl_cons, ih, housed_ensureDevice]
        simp [or_assoc]
  rw [PluginWorld.carryOut, fold]
  unfold PluginWorld.ensureNodeDevice
  split
  · rename_i skipped
    simp only [skipped, Bool.true_eq_false, false_and, or_false]
  · rename_i wanted
    rw [housed_ensureDevice]
    simp only [Bool.not_eq_true] at wanted
    simp only [wanted, true_and, eq_comm (a := (0 : EndpointId))]
    rw [or_right_comm, or_assoc]

theorem housed_createDevices {place : EndpointId} :
    (world.createDevices accepts node).sync.index.devicesOn node.nodeId place ≠ [] ↔
      world.sync.index.devicesOn node.nodeId place ≠ [] ∨ world.creates accepts node place = true := by
  unfold PluginWorld.createDevices PluginWorld.creates
  split
  · rename_i retired
    simp [retired]
  · rename_i kept
    split
    · rename_i suspended
      simp [suspended]
    · rename_i active
      rw [housed_carryOut]
      simp only [DeviceSync.recordNode_index, kept, active, not_false_eq_true, decide_true,
        Bool.true_and, Bool.or_eq_true, List.any_eq_true, Bool.and_eq_true, decide_eq_true_eq,
        Bool.not_eq_true']

/-- The plan of a pass is read off the node model. -/
theorem plan_recordNode (derived : node.Derived) (first second : DeviceSync) :
    (first.recordNode node).plan node = (second.recordNode node).plan node := by
  cases informative : node.attributes.entries.isEmpty with
  | true =>
      have none_ : node.endpoints = [] := by
        apply List.map_eq_nil_iff.mp
        rw [derived.endpointIds_eq]
        apply List.eq_nil_iff_forall_not_mem.mpr
        intro endpoint member
        rcases mem_endpointIds.mp member with ⟨path, present, -⟩
        rw [isEmpty_entries_of_mem_keys present] at informative
        cases informative
      simp [DeviceSync.plan, none_]
  | false =>
      simp only [DeviceSync.plan, DeviceSync.plannedTypes, forwardLinks_recordNode _ derived informative]

theorem creates_congr (derived : node.Derived) {other : PluginWorld}
    (retired : other.retiredNodes = world.retiredNodes)
    (suspended : other.creationSuspended = world.creationSuspended)
    (tombstones : other.nodeTombstones = world.nodeTombstones) (place : EndpointId) :
    other.creates accepts node place = world.creates accepts node place := by
  unfold PluginWorld.creates
  rw [retired, suspended, tombstones, plan_recordNode derived other.sync world.sync]

end Housing

/-! ## A reconcile pass -/

/-- What holds of a node's endpoints after some nodes of a pass, the node itself among
them or not. -/
structure Settled (start : PluginWorld) (accepts : Accepts?) (node : NodeInfo) (writes : Writes?)
    (met : Bool) (world : PluginWorld) : Prop where
  consistent : world.Consistent
  retired : world.retiredNodes = start.retiredNodes
  suspended : world.creationSuspended = start.creationSuspended
  tombstones : world.nodeTombstones = start.nodeTombstones
  housed : ∀ endpointId, world.sync.index.devicesOn node.nodeId endpointId ≠ [] ↔
    start.sync.index.devicesOn node.nodeId endpointId ≠ [] ∨
      met = true ∧ start.creates accepts node endpointId = true
  cleared : met = true → ∀ endpointId ∈ node.endpoints.map (·.endpointId),
    ∀ device ∈ world.sync.index.devicesOn node.nodeId endpointId,
      world.isMarked writes device = false

section Pass

variable {node other : NodeInfo} {world : PluginWorld} {accepts : Accepts?} {writes : Writes?}
  {start : PluginWorld} {met : Bool}

/-- A create pass changes none of the lists of nodes. -/
theorem lists_createDevices (accepts : Accepts?) (node : NodeInfo) (world : PluginWorld) :
    (world.createDevices accepts node).retiredNodes = world.retiredNodes ∧
      (world.createDevices accepts node).creationSuspended = world.creationSuspended ∧
      (world.createDevices accepts node).nodeTombstones = world.nodeTombstones := by
  apply PluginWorld.createDevices_induction fun other : PluginWorld =>
    other.retiredNodes = world.retiredNodes ∧ other.creationSuspended = world.creationSuspended ∧
      other.nodeTombstones = world.nodeTombstones
  · exact fun _ same => same
  · exact fun _ _ _ _ same _ _ => same
  · exact ⟨rfl, rfl, rfl⟩

/-- A node of the pass settles its own endpoints. -/
theorem Settled.own (settled : Settled start accepts node writes met world) (derived : node.Derived)
    (available : node.available = true) :
    Settled start accepts node writes true
      ((world.createDevices accepts node).append
        (nodeLog (world.createDevices accepts node) node)) := by
  have ready := settled.consistent.createDevices accepts node
  rcases lists_createDevices accepts node world with ⟨retired, suspended, tombstones⟩
  have same := @creates_congr accepts node start derived world settled.retired settled.suspended
    settled.tombstones
  constructor
  · exact ready.append _
  · exact retired.trans settled.retired
  · exact suspended.trans settled.suspended
  · exact tombstones.trans settled.tombstones
  · intro endpointId
    rw [PluginWorld.append_sync, housed_createDevices, settled.housed, same]
    tauto
  · intro _ endpointId listed device stored
    have there (pass : PrimePass)
        (member : pass ∈ (world.createDevices accepts node).sync.refreshPasses node) :
        (world.createDevices accepts node).indigo.has pass.device = true :=
      InsertionMap.has_iff.mpr (ready.present (mem_refreshPasses_iff.mp ⟨pass, member, rfl, rfl⟩).2)
    have reached : device ∈ metDevices (world.createDevices accepts node) node := by
      rcases mem_refreshPasses_iff.mpr ⟨listed, stored⟩ with ⟨pass, member, rfl, -⟩
      rw [metDevices, metPasses, List.takeWhile_eq_self_iff.mpr there]
      exact List.mem_map_of_mem member
    have final := @isMarked_onNodeAdded accepts node world available writes device
    rw [run_onNodeAdded available there, finalState_ok, if_pos reached] at final
    rw [nodeLog, if_pos available]
    exact final

/-- The other nodes of the pass leave them alone. -/
theorem Settled.besides (settled : Settled start accepts node writes met world)
    (derived : other.Derived) (different : other.nodeId ≠ node.nodeId) (otherAccepts : Accepts?) :
    Settled start accepts node writes met
      ((world.createDevices otherAccepts other).append
        (nodeLog (world.createDevices otherAccepts other) other)) := by
  have ready := settled.consistent.createDevices otherAccepts other
  rcases lists_createDevices otherAccepts other world with ⟨retired, suspended, tombstones⟩
  have sameDevices (endpointId : EndpointId) (device : DeviceId) :
      device ∈ (world.createDevices otherAccepts other).sync.index.devicesOn node.nodeId endpointId ↔
        device ∈ world.sync.index.devicesOn node.nodeId endpointId := by
    constructor
    · intro stored
      rcases mem_devicesOn_createDevices derived stored with earlier | ⟨-, -, same, -⟩
      · exact earlier
      · exact absurd same.symm different
    · exact mem_devicesOn_createDevices_of_mem derived
  constructor
  · exact ready.append _
  · exact retired.trans settled.retired
  · exact suspended.trans settled.suspended
  · exact tombstones.trans settled.tombstones
  · intro endpointId
    rw [← settled.housed, PluginWorld.append_sync]
    simp only [ne_eq, List.eq_nil_iff_forall_not_mem, sameDevices]
  · intro isMet endpointId listed device stored
    rw [PluginWorld.append_sync] at stored
    have earlier := (sameDevices endpointId device).mp stored
    have old := settled.consistent.existing_lt _ (settled.consistent.present earlier)
    rcases PassesOver.createDevices derived settled.consistent otherAccepts with ⟨log, fresh, passes⟩
    have created : (world.createDevices otherAccepts other).isMarked writes device =
        world.isMarked writes device := by
      rw [PluginWorld.isMarked, passes.effects, markedAfter_append]
      apply markedAfter_of_untouched
      exact fun effect member => absurd old (not_lt.mpr (fresh _ member))
    rw [isMarked_append, markedAfter_of_untouched, created]
    · exact settled.cleared isMet endpointId listed device earlier
    · intro effect member
      rcases nodeLog_about member with ⟨otherEndpoint, found⟩
      exact different (ready.unique found stored).1

/-- After the nodes of a pass the node's endpoints are settled, if it is one of them. -/
theorem settled_forM {nodes : List NodeInfo} {accepts : NodeId → Accepts?}
    (derived : ∀ other ∈ nodes, other.Derived) (available : node.available = true)
    (only : ∀ other ∈ nodes, other.nodeId = node.nodeId → other = node)
    (settled : Settled start (accepts node.nodeId) node writes met world) :
    ∃ after, (forM nodes fun node => reconcileNode (accepts node.nodeId) node : Refresh Unit) world =
        .ok () after ∧
      Settled start (accepts node.nodeId) node writes
        (met || nodes.any fun other => other.nodeId = node.nodeId) after := by
  induction nodes generalizing met world with
  | nil => exact ⟨world, rfl, by simpa using settled⟩
  | cons first rest ih =>
      have restDerived : ∀ other ∈ rest, other.Derived :=
        fun other member => derived other (List.mem_cons_of_mem _ member)
      have restOnly : ∀ other ∈ rest, other.nodeId = node.nodeId → other = node :=
        fun other member => only other (List.mem_cons_of_mem _ member)
      have ran := @reconcileNode_eq first world settled.consistent (accepts first.nodeId)
      by_cases own : first.nodeId = node.nodeId
      · obtain rfl := only first List.mem_cons_self own
        rcases ih restDerived restOnly (settled.own (derived first List.mem_cons_self) available) with
          ⟨after, rest, done⟩
        refine ⟨after, ?_, by simpa using done⟩
        simp only [List.forM_cons, bind, EStateM.bind, ran]
        exact rest
      · rcases ih restDerived restOnly
          (settled.besides (derived first List.mem_cons_self) own (accepts first.nodeId)) with
          ⟨after, rest, done⟩
        refine ⟨after, ?_, by simpa [own] using done⟩
        simp only [List.forM_cons, bind, EStateM.bind, ran]
        exact rest

/-- No endpoint that the snapshot reports as unreachable has a device, or gets one. -/
def NoneUnreachable (accepts : Accepts?) (node : NodeInfo) (world : PluginWorld) : Prop :=
  ∀ endpointId ∈ node.endpoints.map (·.endpointId), node.reachable? endpointId = some false →
    (rebuildIndex world.indigo).devicesOn node.nodeId endpointId = [] ∧
      world.creates accepts node endpointId = false

theorem followsReachable_reconcileAll_iff {nodes : List NodeInfo} {accepts : NodeId → Accepts?}
    (member : node ∈ nodes) (derived : ∀ other ∈ nodes, other.Derived)
    (available : node.available = true)
    (only : ∀ other ∈ nodes, other.nodeId = node.nodeId → other = node)
    (existing : ∀ device ∈ world.indigo.keys, device < world.nextId) (writes : Writes?) :
    FollowsReachable (reconcileAll accepts nodes) node writes world ↔
      NoneUnreachable (accepts node.nodeId) node world := by
  have initially : Settled world.rebuild (accepts node.nodeId) node writes false world.rebuild :=
    ⟨PluginWorld.Consistent.rebuild existing, rfl, rfl, rfl, by simp, nofun⟩
  rcases settled_forM derived available only initially with ⟨after, ran, settled⟩
  have isMet : (nodes.any fun other => other.nodeId = node.nodeId) = true :=
    List.any_eq_true.mpr ⟨node, member, by simp⟩
  rw [isMet, Bool.or_true] at settled
  have final : finalState (reconcileAll accepts nodes world) = after.append (sweepLog nodes after) := by
    rw [reconcileAll_eq ran, finalState_ok]
  have swept (endpointId : EndpointId) (listed : endpointId ∈ node.endpoints.map (·.endpointId))
      (device : DeviceId) (stored : device ∈ after.sync.index.devicesOn node.nodeId endpointId) :
      (finalState (reconcileAll accepts nodes world)).isMarked writes device = false := by
    rw [final, isMarked_append,
      markedAfter_of_untouched (not_mem_sweepLog settled.consistent member listed stored)]
    exact settled.cleared rfl endpointId listed device stored
  have sameCreates (endpointId : EndpointId) :
      world.rebuild.creates (accepts node.nodeId) node endpointId =
        world.creates (accepts node.nodeId) node endpointId :=
    @creates_congr (accepts node.nodeId) node world (derived node member) world.rebuild rfl rfl rfl
      endpointId
  constructor
  · intro follows endpointId listed unreachable
    have empty : after.sync.index.devicesOn node.nodeId endpointId = [] := by
      apply List.eq_nil_iff_forall_not_mem.mpr
      intro device stored
      have there := InsertionMap.has_iff.mpr (settled.consistent.present stored)
      have mark := follows.snapshot endpointId listed device (by rw [final]; exact stored)
        (by rw [final]; exact there) false unreachable
      rw [swept endpointId listed device stored] at mark
      cases mark
    have unhoused := mt (settled.housed endpointId).mpr (by simpa using empty)
    rw [not_or, not_not] at unhoused
    refine ⟨unhoused.1, ?_⟩
    rw [← sameCreates]
    simpa using unhoused.2
  · intro none_
    apply followsReachable_of_snapshot
    intro endpointId listed device stored there reachable reported
    rw [final, PluginWorld.append_sync] at stored
    rw [swept endpointId listed device stored]
    cases reachable with
    | true => rfl
    | false =>
        rcases (settled.housed endpointId).mp (List.ne_nil_of_mem stored) with before | ⟨-, created⟩
        · exact absurd (none_ endpointId listed reported).1 before
        · rw [sameCreates, (none_ endpointId listed reported).2] at created
          cases created

end Pass

/-! ## When the snapshot is followed -/

/-- A node update follows what its snapshot says of the children exactly when each device
the refresh reaches is on an endpoint that is not reported as unreachable and the
devices behind one that is gone are marked already as the snapshot says; a reconcile
pass, exactly when no endpoint that is reported as unreachable has a device or gets
one. -/
theorem followsReachable_iff {node : NodeInfo} (available : node.available = true)
    (writes : Writes?) (world : PluginWorld) :
    (∀ accepts : Accepts?, FollowsReachable (onNodeAdded accepts node) node writes world ↔
        RefreshAgrees node writes (world.createDevices accepts node)) ∧
      ∀ (nodes : List NodeInfo) (accepts : NodeId → Accepts?), node ∈ nodes →
        (∀ other ∈ nodes, other.Derived) →
        (∀ other ∈ nodes, other.nodeId = node.nodeId → other = node) →
        (∀ device ∈ world.indigo.keys, device < world.nextId) →
          (FollowsReachable (reconcileAll accepts nodes) node writes world ↔
            NoneUnreachable (accepts node.nodeId) node world) := by
  constructor
  · exact fun accepts => followsReachable_onNodeAdded_iff available accepts writes world
  · intro nodes accepts member allDerived only existing
    exact followsReachable_reconcileAll_iff member allDerived available only existing writes

/-- A bridged light that is not reachable, beside one that is. -/
def bridgedLights : List (String × PyJson) :=
  [("node_id", .int 7),
    ("attributes", .dict [("1/6/0", .bool true), ("1/57/17", .bool true), ("2/6/0", .bool true),
      ("2/57/17", .bool false)])]

/-- A plugin that has the relay of the reachable light. -/
def oneLight : PluginWorld where
  indigo := .ofList [(10, ⟨"matterRelay", some 7, some 1, ∅⟩)]
  nextId := 11
  sync := ⟨rebuildIndex (.ofList [(10, ⟨"matterRelay", some 7, some 1, ∅⟩)]), [], ∅, ∅, ∅⟩
  nodeTombstones := []
  retiredNodes := []
  creationSuspended := []
  selfDeletedIds := []
  effects := []

/-- Indigo refuses a device for the light that is not reachable. -/
theorem followsReachable_of_refused :
    ∃ node, parseNode? bridgedLights = some node ∧
      FollowsReachable (onNodeAdded (fun endpoint _ => endpoint = 1) node) node (fun _ _ => true)
        oneLight ∧
      FollowsReachable (reconcileAll (fun _ endpoint _ => endpoint = 1) [node]) node
        (fun _ _ => true) oneLight := by
  refine ⟨_, rfl, ?_, ?_⟩
  · apply ((followsReachable_iff (by decide) (fun _ _ => true) oneLight).1 _).mpr
    unfold RefreshAgrees
    decide +kernel
  · apply ((followsReachable_iff (by decide) (fun _ _ => true) oneLight).2 [_]
      (fun _ endpoint _ => endpoint = 1) List.mem_cons_self _ _ _).mpr
    · unfold NoneUnreachable
      decide +kernel
    · intro other member
      rw [List.mem_singleton.mp member]
      exact derived_of_parseNode? (show parseNode? bridgedLights = some _ from rfl)
    · intro other member _
      exact List.mem_singleton.mp member
    · decide

theorem unreachable_child_cleared :
    ∃ node, parseNode? bridgedLights = some node ∧ node.available = true ∧
      node.reachable? 2 = some false ∧
      ¬ FollowsReachable (onNodeAdded (fun _ _ => true) node) node (fun _ _ => true) oneLight ∧
      ¬ FollowsReachable (reconcileAll (fun _ _ _ => true) [node]) node (fun _ _ => true)
        oneLight := by
  refine ⟨_, rfl, by decide, by decide, ?_, ?_⟩
  · intro follows
    have mark := follows.snapshot 2 (by decide) 11 (by decide +kernel) (by decide +kernel) false
      (by decide)
    revert mark
    decide +kernel
  · intro follows
    have mark := follows.snapshot 2 (by decide) 11 (by decide +kernel) (by decide +kernel) false
      (by decide)
    revert mark
    decide +kernel

end IndigoMatter.Plugin
