import IndigoMatter.Library.PyJson
import IndigoMatter.Plugin.ThreadDiag
import Mathlib.Data.Fintype.Basic
import Mathlib.Data.List.Sort

/-!
# The bridge health device

One Indigo device shows the verdict of the bridge node on its controller subscriptions:
an overall state, and a name and a health for each of five slots.  A checked verdict
fills the slots from the connected fabrics and creates the device where there is none;
an unchecked one only finds the device and turns its occupied slots unknown.

The reporter keeps the value it last wrote and the id of the device.  It compares a
verdict with that value before it looks for the device, and an unchecked verdict scans
for a device whose id is not known once in a session.
-/

namespace IndigoMatter.Plugin

open IndigoMatter.Library

namespace BridgeHealth

/-! ## Verdicts and slots -/

def HEALTH_UNKNOWN : String := "unknown"

def HEALTH_HEALTHY : String := "healthy"

def HEALTH_CHURNING : String := "churning"

def FABRIC_SLOT_COUNT : Nat := 5

abbrev Slot := Fin FABRIC_SLOT_COUNT

def VENDOR_NAMES : List (Int × String) :=
  [(0x1349, "Apple Home"), (0x1384, "Apple Keychain"), (0x1217, "Amazon Alexa"),
    (0x6006, "Google"), (0x110A, "Samsung SmartThings"), (0x134B, "Home Assistant"),
    (0x100B, "Signify (Philips Hue)"), (0xFFF1, "test vendor")]

structure FabricInfo where
  fabricIndex : Int
  label : String
  vendorId : Int
deriving DecidableEq

structure ChurnPeer where
  peerNodeId : String
  fabricIndex : Int
  liveSessions : Int
  invalidDeletions : Int
  windowMinutes : Int
deriving DecidableEq

structure SubscriptionChurn where
  checked : Bool
  active : Bool
  peers : List ChurnPeer
deriving DecidableEq

/-- `_describe_churn`. -/
def describeChurn (churn : SubscriptionChurn) : String :=
  "; ".intercalate (churn.peers.map fun peer =>
    peer.peerNodeId ++ " (fabric " ++ toString peer.fabricIndex ++ "): " ++
      toString peer.invalidDeletions ++ " deletion(s)/" ++ toString peer.windowMinutes ++
      "min, " ++ toString peer.liveSessions ++ " live session(s)")

/-- `_describe_fabric_slot`. -/
def describeFabricSlot (fabric : FabricInfo) : String :=
  let label := String.ofList (pyStrip fabric.label.toList)
  if fabric.vendorId ≠ 0 then
    let name := (VENDOR_NAMES.lookup fabric.vendorId).getD
      ("vendor 0x" ++ hexText 4 fabric.vendorId)
    if label ≠ "" then name ++ " — " ++ label else name
  else if label ≠ "" then label
  else "fabric " ++ toString fabric.fabricIndex

def orderedFabrics (fabrics : List FabricInfo) : List FabricInfo :=
  fabrics.insertionSort fun fabric other => fabric.fabricIndex ≤ other.fabricIndex

def fitted (fabrics : List FabricInfo) : List FabricInfo :=
  (orderedFabrics fabrics).take FABRIC_SLOT_COUNT

def droppedFabrics (fabrics : List FabricInfo) : List FabricInfo :=
  (orderedFabrics fabrics).drop FABRIC_SLOT_COUNT

def churningIndices (churn : SubscriptionChurn) : List Int := churn.peers.map (·.fabricIndex)

/-- The churn is active and none of its peers is of a fabric that has a slot. -/
def unattributable (fabrics : List FabricInfo) (churn : SubscriptionChurn) : Bool :=
  churn.active && !(fitted fabrics).any fun fabric => fabric.fabricIndex ∈ churningIndices churn

/-- The names of `_fabric_slot_plan`. -/
def slotName (fabrics : List FabricInfo) (slot : Slot) : String :=
  match (fitted fabrics)[slot.val]? with
  | some fabric => describeFabricSlot fabric
  | none => ""

/-- The healths of `_fabric_slot_plan`. -/
def slotHealth (fabrics : List FabricInfo) (churn : SubscriptionChurn) (slot : Slot) : String :=
  match (fitted fabrics)[slot.val]? with
  | some fabric =>
      if fabric.fabricIndex ∈ churningIndices churn then HEALTH_CHURNING
      else if unattributable fabrics churn then HEALTH_UNKNOWN
      else HEALTH_HEALTHY
  | none => ""

/-- The states of the device that the reporter reads and writes. -/
structure HealthStates where
  subscriptionHealth : String
  churnDetail : String
  names : Slot → String
  healths : Slot → String
deriving DecidableEq

/-- The states of a new device. -/
def HealthStates.blank : HealthStates := ⟨"", "", fun _ => "", fun _ => ""⟩

/-- What a checked verdict is to show. -/
def checkedStates (fabrics : List FabricInfo) (churn : SubscriptionChurn) : HealthStates where
  subscriptionHealth := if churn.active then HEALTH_CHURNING else HEALTH_HEALTHY
  churnDetail := if churn.active then describeChurn churn else ""
  names := slotName fabrics
  healths := slotHealth fabrics churn

/-- What an unchecked verdict is to show on a device that shows `states`. -/
def uncheckedStates (states : HealthStates) : HealthStates where
  subscriptionHealth := HEALTH_UNKNOWN
  churnDetail := ""
  names := states.names
  healths slot := if states.names slot ≠ "" then HEALTH_UNKNOWN else ""

/-! ## The reporter -/

structure HealthDevice where
  id : Nat
  states : HealthStates
deriving DecidableEq

/-- `_health_state`: the states last written, or that there is no device to write. -/
inductive Remembered
  | states (shown : HealthStates)
  | noDevice
deriving DecidableEq

inductive LogLine
  | couldNotCreate (error : Option String)
  | couldNotRead (error : String)
  | couldNotUpdate (error : String)
  | recovered
  | exceedSlots (count : Nat) (names : String)

/-- The device as Indigo has it, and the reporter.  The last three fields record what has
happened: the states the last verdict tried to write, whether the device was deleted
since `healthState` was stored, and whether a lookup has failed and the device has not been
found since. -/
structure State where
  device : Option HealthDevice
  healthDeviceId : Option Nat
  healthState : Option Remembered
  healthReconcileScanned : Bool
  healthDeviceWarned : Bool
  healthWriteWarned : Bool
  healthReadWarned : Bool
  droppedFabricsWarned : List Int
  log : List LogLine
  written : Option HealthStates
  deleted : Bool
  lost : Bool

/-- A new session, with the device an earlier one left. -/
def opened (device : Option HealthDevice) : State where
  device := device
  healthDeviceId := none
  healthState := none
  healthReconcileScanned := false
  healthDeviceWarned := false
  healthWriteWarned := false
  healthReadWarned := false
  droppedFabricsWarned := []
  log := []
  written := none
  deleted := false
  lost := false

/-- What fails while a verdict is applied: the lookup by id, which then answers as if there
were no device, the scan, the read of the states, the creation, which raises or returns
nothing, and the write. -/
structure Faults where
  lookup : Bool
  scan : Option String
  states : Option String
  create : Except (Option String) Nat
  write : Option String

/-- Nothing fails; a new device gets the id. -/
def Faults.none (id : Nat) : Faults := ⟨false, .none, .none, .ok id, .none⟩

/-- The device under the cached id. -/
def cachedDevice (faults : Faults) (state : State) : Option HealthDevice :=
  match state.healthDeviceId with
  | some id => if faults.lookup then none else state.device.filter fun device => device.id = id
  | none => none

/-- The cached id is given up. -/
def forgetId (faults : Faults) (state : State) : State :=
  { state with
    healthDeviceId := none
    lost := state.lost || (faults.lookup && state.healthDeviceId.isSome) }

/-- `_health_device_finder`, and the id of what it finds. -/
def scan (faults : Faults) (state : State) : State × Except String (Option HealthDevice) :=
  match faults.scan with
  | some error => (state, .error error)
  | none =>
      ({ state with healthDeviceId := state.device.map (·.id), lost := false }, .ok state.device)

/-- `_find_health_device`. -/
def findHealthDevice (faults : Faults) (state : State) :
    State × Except String (Option HealthDevice) :=
  match cachedDevice faults state with
  | some device => (state, .ok (some device))
  | none => scan faults (forgetId faults state)

/-- The one scan of a session for unchecked verdicts; it counts as made before it is. -/
def scanOnce (faults : Faults) (state : State) : State × Except String (Option HealthDevice) :=
  scan faults { state with
    healthReconcileScanned := true
    lost := state.lost || faults.scan.isSome }

/-- `_find_health_device_for_unknown`. -/
def findHealthDeviceForUnknown (faults : Faults) (state : State) :
    State × Except String (Option HealthDevice) :=
  match cachedDevice faults state with
  | some device => (state, .ok (some device))
  | none =>
      if state.healthReconcileScanned then (forgetId faults state, .ok none)
      else scanOnce faults (forgetId faults state)

/-- The new device. -/
def createHealthDevice (faults : Faults) (state : State) : State × Option HealthDevice :=
  match faults.create with
  | .error error =>
      (if state.healthDeviceWarned then state
        else { state with
          healthDeviceWarned := true
          log := state.log ++ [.couldNotCreate error] }, none)
  | .ok id =>
      let device : HealthDevice := ⟨id, .blank⟩
      ({ state with
        device := some device
        healthDeviceId := some id
        healthDeviceWarned := false
        lost := false }, some device)

/-- `_ensure_health_device`. -/
def ensureHealthDevice (faults : Faults) (state : State) :
    State × Except String (Option HealthDevice) :=
  match findHealthDevice faults state with
  | (found, .ok none) =>
      ((createHealthDevice faults found).1, .ok (createHealthDevice faults found).2)
  | (found, outcome) => (found, outcome)

/-- A write that shows churning no more, but healthy. -/
def recovers (previous : Option Remembered) (new : HealthStates) : Bool :=
  match previous with
  | some (.states shown) =>
      shown.subscriptionHealth = HEALTH_CHURNING && new.subscriptionHealth = HEALTH_HEALTHY
  | _ => false

/-- `_write_health_state`. -/
def writeHealthState (faults : Faults) (new : HealthStates) (state : State) : State :=
  match faults.write with
  | some error =>
      if state.healthWriteWarned then { state with written := some new }
      else { state with
        written := some new
        healthWriteWarned := true
        log := state.log ++ [.couldNotUpdate error] }
  | none =>
      { state with
        device := state.device.map fun device => { device with states := new }
        healthWriteWarned := false
        healthState := some (.states new)
        log := if recovers state.healthState new then state.log ++ [.recovered] else state.log
        written := some new
        deleted := false }

/-- The indices of a set of fabrics, as a set. -/
def sameIndices (indices others : List Int) : Bool :=
  indices.all (· ∈ others) && others.all (· ∈ indices)

/-- `_warn_if_fabrics_dropped`. -/
def warnIfFabricsDropped (dropped : List FabricInfo) (state : State) : State :=
  let indices := dropped.map (·.fabricIndex)
  if indices.isEmpty then { state with droppedFabricsWarned := [] }
  else if sameIndices indices state.droppedFabricsWarned then state
  else { state with
    droppedFabricsWarned := indices
    log := state.log ++
      [.exceedSlots dropped.length (", ".intercalate (dropped.map describeFabricSlot))] }

/-- A read of an unchecked verdict has failed. -/
def readFailed (error : String) (state : State) : State :=
  if state.healthReadWarned then state
  else { state with
    healthReadWarned := true
    log := state.log ++ [.couldNotRead error] }

/-- A checked verdict; a scan that raises ends it. -/
def applyChecked (churn : SubscriptionChurn) (fabrics : List FabricInfo) (faults : Faults)
    (state : State) : State :=
  let new := checkedStates fabrics churn
  let warned := warnIfFabricsDropped (droppedFabrics fabrics) state
  if warned.healthState = some (.states new) then warned
  else
    match ensureHealthDevice faults warned with
    | (ensured, .ok (some _)) => writeHealthState faults new ensured
    | (ensured, _) => ensured

def applyUnchecked (faults : Faults) (state : State) : State :=
  match findHealthDeviceForUnknown faults state with
  | (found, .error error) => readFailed error found
  | (found, .ok none) =>
      { found with healthReadWarned := false, healthState := some .noDevice, deleted := false }
  | (found, .ok (some device)) =>
      match faults.states with
      | some error => readFailed error found
      | none =>
          let new := uncheckedStates device.states
          let read := { found with healthReadWarned := false }
          if read.healthState = some (.states new) then read else writeHealthState faults new read

/-- The state before a verdict has written anything. -/
def unwritten (state : State) : State := { state with written := none }

/-- `_apply_subscription_churn`. -/
def applySubscriptionChurn (churn : Option SubscriptionChurn) (fabrics : Option (List FabricInfo))
    (faults : Faults) (state : State) : State :=
  match churn.filter (·.checked) with
  | some churn => applyChecked churn (fabrics.getD []) faults (unwritten state)
  | none => applyUnchecked faults (unwritten state)

inductive Event
  | verdict (churn : Option SubscriptionChurn) (fabrics : Option (List FabricInfo))
      (faults : Faults)
  | delete

def step (state : State) : Event → State
  | .verdict churn fabrics faults => applySubscriptionChurn churn fabrics faults state
  | .delete => { state with device := none, deleted := true }

/-- The state after a session's events. -/
def after (device : Option HealthDevice) (events : List Event) : State :=
  events.foldl step (opened device)

/-! ## What is claimed -/

/-- The evidence asked for: the verdict is inactive, or each of its peers is of a connected
fabric other than that of the slot. -/
def EveryPeerElsewhere (churn : SubscriptionChurn) (fabrics : List FabricInfo) (slot : Slot) :
    Prop :=
  churn.active = true → ∀ peer ∈ churn.peers, ∃ other ∈ fabrics,
    other.fabricIndex = peer.fabricIndex ∧
      ∀ fabric, (fitted fabrics)[slot.val]? = some fabric →
        other.fabricIndex ≠ fabric.fabricIndex

/-- The evidence there is: no peer is of the fabric of the slot, and in an active verdict
some peer is of a fabric that has a slot. -/
def SomePeerElsewhere (churn : SubscriptionChurn) (fabrics : List FabricInfo) (slot : Slot) :
    Prop :=
  ∃ fabric, (fitted fabrics)[slot.val]? = some fabric ∧
    (∀ peer ∈ churn.peers, peer.fabricIndex ≠ fabric.fabricIndex) ∧
    (churn.active = true →
      ∃ peer ∈ churn.peers, ∃ other ∈ fitted fabrics, other.fabricIndex = peer.fabricIndex)

/-- A slot is written healthy only from a checked verdict with the evidence. -/
def HealthyOnlyOn (evidence : SubscriptionChurn → List FabricInfo → Slot → Prop) (event : Event)
    (next : State) : Prop :=
  ∀ churn fabrics faults, event = .verdict churn fabrics faults →
    ∀ states slot, next.written = some states → states.healths slot = HEALTH_HEALTHY →
      ∃ checked, churn = some checked ∧ checked.checked = true ∧
        evidence checked (fabrics.getD []) slot

/-- An unchecked verdict whose reads and write succeed leaves every occupied slot unknown. -/
def LeavesUnknown (event : Event) (next : State) : Prop :=
  ∀ churn fabrics faults, event = .verdict churn fabrics faults →
    churn.filter (·.checked) = none →
    faults.lookup = false → faults.scan = none → faults.states = none → faults.write = none →
    ∀ device, next.device = some device → ∀ slot, device.states.names slot ≠ "" →
      device.states.healths slot = HEALTH_UNKNOWN

/-- A checked verdict is skipped only where the device exists and shows it. -/
def SkipsOnlyShown (state : State) (event : Event) : Prop :=
  ∀ churn fabrics faults, event = .verdict (some churn) fabrics faults → churn.checked = true →
    state.healthState = some (.states (checkedStates (fabrics.getD []) churn)) →
    ∃ device, state.device = some device ∧
      device.states = checkedStates (fabrics.getD []) churn

/-- A checked verdict of which nothing fails leaves a device that shows it. -/
def Repairs (event : Event) (next : State) : Prop :=
  ∀ churn fabrics id, event = .verdict (some churn) fabrics (.none id) → churn.checked = true →
    ∃ device, next.device = some device ∧
      device.states = checkedStates (fabrics.getD []) churn

/-! ## The evidence of a healthy slot -/

variable {fabrics : List FabricInfo} {churn : SubscriptionChurn} {slot : Slot}

theorem somePeerElsewhere_of_slotHealth (healthy : slotHealth fabrics churn slot = HEALTH_HEALTHY) :
    SomePeerElsewhere churn fabrics slot := by
  unfold slotHealth at healthy
  split at healthy
  · rename_i fabric found
    split at healthy
    · exact absurd healthy (by decide)
    · rename_i quiet
      split at healthy
      · exact absurd healthy (by decide)
      · rename_i attributed
        refine ⟨fabric, found, fun peer mem same => ?_, fun active => ?_⟩
        · exact quiet (List.mem_map.mpr ⟨peer, mem, same⟩)
        · simp only [unattributable, active, Bool.true_and, Bool.not_eq_true, Bool.not_eq_false',
            List.any_eq_true, decide_eq_true_eq] at attributed
          rcases attributed with ⟨other, shown, named⟩
          rcases List.mem_map.mp named with ⟨peer, mem, same⟩
          exact ⟨peer, mem, other, shown, same.symm⟩
  · exact absurd healthy (by decide)

theorem uncheckedStates_ne_healthy (states : HealthStates) (slot : Slot) :
    (uncheckedStates states).healths slot ≠ HEALTH_HEALTHY := by
  unfold uncheckedStates
  dsimp only
  split <;> decide

/-! ## What a session keeps -/

/-- The device shows the remembered states or has never been written; it has been there
since they were written unless it was deleted; and its id is cached, or the scan is still
to be made, or a lookup has failed. -/
structure Kept (state : State) : Prop where
  shown : ∀ device states, state.device = some device →
    state.healthState = some (.states states) → device.states = states ∨ device.states = .blank
  present : ∀ states, state.deleted = false → state.healthState = some (.states states) →
    ∃ device, state.device = some device ∧ device.states = states
  known : ∀ device, state.device = some device → state.healthDeviceId = some device.id ∨
    state.healthDeviceId = none ∧ (state.healthReconcileScanned = true → state.lost = true)

theorem kept_opened (device : Option HealthDevice) : Kept (opened device) where
  shown := nofun
  present := nofun
  known := fun _ _ => .inr ⟨rfl, nofun⟩

variable {state : State} {faults : Faults} {device : HealthDevice}

/-- What a lookup leaves as it was. -/
structure Unmoved (state next : State) : Prop where
  device : next.device = state.device
  healthState : next.healthState = state.healthState
  deleted : next.deleted = state.deleted

theorem Kept.of_unmoved {next : State} (kept : Kept state) (unmoved : Unmoved state next)
    (known : ∀ device, state.device = some device → next.healthDeviceId = some device.id ∨
      next.healthDeviceId = none ∧ (next.healthReconcileScanned = true → next.lost = true)) :
    Kept next where
  shown := by
    rw [unmoved.device, unmoved.healthState]
    exact kept.shown
  present := by
    rw [unmoved.device, unmoved.healthState, unmoved.deleted]
    exact kept.present
  known := by
    rw [unmoved.device]
    exact known

theorem device_of_cachedDevice (cached : cachedDevice faults state = some device) :
    state.device = some device := by
  unfold cachedDevice at cached
  split at cached
  · split at cached
    · cases cached
    · exact (Option.filter_eq_some_iff.mp cached).1
  · cases cached

/-- Where the lookup by id has answered none, a device that is there is lost or still to be
scanned for. -/
theorem Kept.forgetId (kept : Kept state) (missed : cachedDevice faults state = none) :
    Kept (forgetId faults state) := by
  refine kept.of_unmoved ⟨rfl, rfl, rfl⟩ fun device present => .inr ⟨rfl, fun scanned => ?_⟩
  rcases kept.known device present with cached | ⟨_, lost⟩
  · have failed : faults.lookup = true := by
      unfold cachedDevice at missed
      rw [cached, present] at missed
      by_contra answers
      simp [answers] at missed
    simp [BridgeHealth.forgetId, failed, cached]
  · simp [BridgeHealth.forgetId, lost scanned]

theorem unmoved_forgetId : Unmoved state (forgetId faults state) := ⟨rfl, rfl, rfl⟩

theorem Unmoved.trans {middle next : State} (first : Unmoved state middle)
    (second : Unmoved middle next) : Unmoved state next where
  device := second.device.trans first.device
  healthState := second.healthState.trans first.healthState
  deleted := second.deleted.trans first.deleted

/-- What a lookup does: it moves nothing, and what it finds is the device there is. -/
structure LooksUp (state : State) (result : State × Except String (Option HealthDevice)) :
    Prop where
  unmoved : Unmoved state result.1
  written : result.1.written = state.written
  kept : Kept state → Kept result.1
  found : ∀ found device, result.2 = .ok found → found = some device →
    state.device = some device

theorem looksUp_scan : LooksUp state (scan faults state) := by
  unfold scan
  split
  · exact ⟨⟨rfl, rfl, rfl⟩, rfl, id, nofun⟩
  · refine ⟨⟨rfl, rfl, rfl⟩, rfl, fun kept => ?_, fun found device same isFound => ?_⟩
    · refine kept.of_unmoved ⟨rfl, rfl, rfl⟩ fun device present => .inl ?_
      rw [present]
      rfl
    · cases same
      exact isFound

theorem LooksUp.of_unmoved {next : State}
    {result : State × Except String (Option HealthDevice)} (unmoved : Unmoved state next)
    (written : next.written = state.written) (keeps : Kept state → Kept next) (looksUp : LooksUp next result) : LooksUp state result where
  unmoved := unmoved.trans looksUp.unmoved
  written := looksUp.written.trans written
  kept := fun kept => looksUp.kept (keeps kept)
  found := fun found device same isFound =>
    unmoved.device.symm.trans (looksUp.found found device same isFound)

theorem looksUp_cached (cached : cachedDevice faults state = some device) :
    LooksUp state (state, .ok (some device)) where
  unmoved := ⟨rfl, rfl, rfl⟩
  written := rfl
  kept := id
  found := by
    rintro _ other ⟨⟩ ⟨⟩
    exact device_of_cachedDevice cached

theorem looksUp_findHealthDevice : LooksUp state (findHealthDevice faults state) := by
  unfold findHealthDevice
  split
  · rename_i cached
    exact looksUp_cached cached
  · rename_i missed
    exact looksUp_scan.of_unmoved unmoved_forgetId rfl fun kept => kept.forgetId missed

theorem looksUp_findHealthDeviceForUnknown :
    LooksUp state (findHealthDeviceForUnknown faults state) := by
  unfold findHealthDeviceForUnknown
  split
  · rename_i cached
    exact looksUp_cached cached
  · rename_i missed
    split
    · exact ⟨unmoved_forgetId, rfl, fun kept => kept.forgetId missed, nofun⟩
    · unfold scanOnce scan
      cases failed : faults.scan with
      | some error =>
          refine ⟨⟨rfl, rfl, rfl⟩, rfl, fun kept => ?_, nofun⟩
          exact kept.of_unmoved ⟨rfl, rfl, rfl⟩ fun _ _ =>
            .inr ⟨rfl, fun _ => Bool.or_true _⟩
      | none =>
          refine ⟨⟨rfl, rfl, rfl⟩, rfl, fun kept => ?_, ?_⟩
          · refine kept.of_unmoved ⟨rfl, rfl, rfl⟩ fun device present => .inl ?_
            change Option.map _ state.device = _
            rw [present]
            rfl
          · rintro _ device ⟨⟩ isFound
            exact isFound

/-- Lookups of which none fails find the device there is. -/
theorem findHealthDevice_eq (scans : faults.scan = none) :
    (findHealthDevice faults state).2 = .ok state.device := by
  unfold findHealthDevice
  split
  · rename_i device cached
    rw [device_of_cachedDevice cached]
  · simp [scan, scans, forgetId]

/-- An unchecked verdict does so too unless the device is lost. -/
theorem Kept.findHealthDeviceForUnknown_eq (kept : Kept state) (tracked : state.lost = false)
    (answers : faults.lookup = false) (scans : faults.scan = none) :
    (findHealthDeviceForUnknown faults state).2 = .ok state.device := by
  unfold findHealthDeviceForUnknown
  split
  · rename_i device cached
    rw [device_of_cachedDevice cached]
  · rename_i missed
    split
    · rename_i scanned
      have missing : state.device = none := by
        by_contra present
        rcases Option.ne_none_iff_exists'.mp present with ⟨device, present⟩
        rcases kept.known device present with cached | ⟨_, lost⟩
        · simp [cachedDevice, cached, answers, present] at missed
        · rw [lost scanned] at tracked
          cases tracked
      rw [missing]
    · simp [scanOnce, scan, scans, BridgeHealth.forgetId]

theorem device_eq_none_of_findHealthDevice
    (missed : (findHealthDevice faults state).2 = .ok none) : state.device = none := by
  unfold findHealthDevice at missed
  split at missed
  · cases missed
  · unfold scan at missed
    split at missed
    · cases missed
    · exact Except.ok.inj missed

/-! ## Creating and writing -/

/-- What `_ensure_health_device` does. -/
structure Ensures (state : State) (result : State × Except String (Option HealthDevice)) :
    Prop where
  kept : Kept state → Kept result.1
  device : ∀ device, result.2 = .ok (some device) → result.1.device = some device
  healthState : result.1.healthState = state.healthState
  written : result.1.written = state.written

theorem Kept.createHealthDevice (kept : Kept state) (missing : state.device = none) :
    Kept (createHealthDevice faults state).1 := by
  unfold BridgeHealth.createHealthDevice
  split
  · dsimp only
    split
    · exact kept
    · exact kept.of_unmoved ⟨rfl, rfl, rfl⟩ kept.known
  · refine ⟨?_, fun states there remembered => ?_, ?_⟩
    · rintro _ states ⟨⟩ _
      exact .inr rfl
    · rcases kept.present states there remembered with ⟨device, present, _⟩
      rw [missing] at present
      cases present
    · rintro _ ⟨⟩
      exact .inl rfl

theorem createHealthDevice_frame :
    (createHealthDevice faults state).1.healthState = state.healthState ∧
      (createHealthDevice faults state).1.written = state.written := by
  unfold createHealthDevice
  split
  · dsimp only
    split <;> exact ⟨rfl, rfl⟩
  · exact ⟨rfl, rfl⟩

theorem device_of_createHealthDevice (created : (createHealthDevice faults state).2 = some device) :
    (createHealthDevice faults state).1.device = some device := by
  unfold createHealthDevice at created ⊢
  split at created
  · cases created
  · exact created

theorem ensures_ensureHealthDevice : Ensures state (ensureHealthDevice faults state) := by
  have looksUp : LooksUp state (findHealthDevice faults state) := looksUp_findHealthDevice
  have missing : (findHealthDevice faults state).2 = .ok none → state.device = none :=
    device_eq_none_of_findHealthDevice
  unfold ensureHealthDevice
  split
  · rename_i found same
    rw [same] at looksUp missing
    refine ⟨fun kept => ?_, fun device created => ?_,
      createHealthDevice_frame.1.trans looksUp.unmoved.healthState,
      createHealthDevice_frame.2.trans looksUp.written⟩
    · exact (looksUp.kept kept).createHealthDevice (looksUp.unmoved.device.trans (missing rfl))
    · exact device_of_createHealthDevice (Except.ok.inj created)
  · rename_i found outcome _ same
    rw [same] at looksUp
    exact ⟨looksUp.kept,
      fun device isFound => looksUp.unmoved.device.trans (looksUp.found _ device isFound rfl),
      looksUp.unmoved.healthState, looksUp.written⟩

/-- Where nothing fails there is a device. -/
theorem ensureHealthDevice_none (id : Nat) :
    ∃ device, (ensureHealthDevice (.none id) state).2 = .ok (some device) := by
  have finds : (findHealthDevice (.none id) state).2 = .ok state.device := findHealthDevice_eq rfl
  unfold ensureHealthDevice
  split
  · exact ⟨⟨id, .blank⟩, rfl⟩
  · rename_i found outcome missing same
    rw [same] at finds
    cases present : state.device with
    | none => exact absurd (finds.trans (by rw [present])) missing
    | some device => exact ⟨device, finds.trans (by rw [present])⟩

variable {new : HealthStates}

theorem Kept.writeHealthState (kept : Kept state) (present : state.device = some device) :
    Kept (writeHealthState faults new state) := by
  unfold BridgeHealth.writeHealthState
  split
  · split
    · exact kept.of_unmoved ⟨rfl, rfl, rfl⟩ kept.known
    · exact kept.of_unmoved ⟨rfl, rfl, rfl⟩ kept.known
  · refine ⟨?_, ?_, ?_⟩
    · intro written states isWritten same
      dsimp only at isWritten
      rw [present] at isWritten
      cases isWritten
      cases same
      exact .inl rfl
    · rintro _ _ ⟨⟩
      exact ⟨{ device with states := new }, by rw [present]; rfl, rfl⟩
    · intro written isWritten
      dsimp only at isWritten
      rw [present] at isWritten
      cases isWritten
      exact kept.known device present

theorem written_writeHealthState : (writeHealthState faults new state).written = some new := by
  unfold writeHealthState
  split
  · split <;> rfl
  · rfl

theorem device_writeHealthState (lands : faults.write = none) :
    (writeHealthState faults new state).device =
      state.device.map fun device => { device with states := new } := by
  simp [writeHealthState, lands]

/-! ## One verdict -/

variable {dropped : List FabricInfo} {error : String}

theorem warnIfFabricsDropped_frame :
    Unmoved state (warnIfFabricsDropped dropped state) ∧
      (warnIfFabricsDropped dropped state).written = state.written := by
  unfold warnIfFabricsDropped
  dsimp only
  split
  · exact ⟨⟨rfl, rfl, rfl⟩, rfl⟩
  · split <;> exact ⟨⟨rfl, rfl, rfl⟩, rfl⟩

theorem Kept.warnIfFabricsDropped (kept : Kept state) : Kept (warnIfFabricsDropped dropped state) := by
  refine kept.of_unmoved warnIfFabricsDropped_frame.1 ?_
  unfold BridgeHealth.warnIfFabricsDropped
  dsimp only
  split
  · exact kept.known
  · split <;> exact kept.known

theorem Kept.readFailed (kept : Kept state) : Kept (readFailed error state) := by
  unfold BridgeHealth.readFailed
  split
  · exact kept
  · exact kept.of_unmoved ⟨rfl, rfl, rfl⟩ kept.known

theorem written_readFailed : (readFailed error state).written = state.written := by
  unfold readFailed
  split <;> rfl

theorem Kept.applyChecked (kept : Kept state) : Kept (applyChecked churn fabrics faults state) := by
  have warned : Kept (BridgeHealth.warnIfFabricsDropped (droppedFabrics fabrics) state) :=
    kept.warnIfFabricsDropped
  unfold BridgeHealth.applyChecked
  dsimp only
  split
  · exact warned
  · have ensures : Ensures _ (ensureHealthDevice faults
      (BridgeHealth.warnIfFabricsDropped (droppedFabrics fabrics) state)) :=
        ensures_ensureHealthDevice
    split
    · rename_i same
      rw [same] at ensures
      exact (ensures.kept warned).writeHealthState (ensures.device _ rfl)
    · rename_i same
      rw [same] at ensures
      exact ensures.kept warned

theorem Kept.applyUnchecked (kept : Kept state) : Kept (applyUnchecked faults state) := by
  have looksUp : LooksUp state (findHealthDeviceForUnknown faults state) :=
    looksUp_findHealthDeviceForUnknown
  unfold BridgeHealth.applyUnchecked
  split
  · rename_i same
    rw [same] at looksUp
    exact (looksUp.kept kept).readFailed
  · rename_i same
    rw [same] at looksUp
    exact ⟨nofun, nofun, (looksUp.kept kept).known⟩
  · rename_i found device same
    rw [same] at looksUp
    split
    · exact (looksUp.kept kept).readFailed
    · have read : Kept { found with healthReadWarned := false } :=
        (looksUp.kept kept).of_unmoved ⟨rfl, rfl, rfl⟩ (looksUp.kept kept).known
      dsimp only
      split
      · exact read
      · exact read.writeHealthState
          (looksUp.unmoved.device.trans (looksUp.found _ device rfl rfl))

theorem Kept.unwritten (kept : Kept state) : Kept (unwritten state) :=
  kept.of_unmoved ⟨rfl, rfl, rfl⟩ kept.known

/-- A checked verdict writes nothing, or what it is to show. -/
theorem written_applyChecked (nothing : state.written = none) :
    (applyChecked churn fabrics faults state).written = none ∨
      (applyChecked churn fabrics faults state).written = some (checkedStates fabrics churn) := by
  have warned : (warnIfFabricsDropped (droppedFabrics fabrics) state).written = none :=
    warnIfFabricsDropped_frame.2.trans nothing
  unfold applyChecked
  dsimp only
  split
  · exact .inl warned
  · have ensures : Ensures _ (ensureHealthDevice faults
      (warnIfFabricsDropped (droppedFabrics fabrics) state)) := ensures_ensureHealthDevice
    split
    · exact .inr written_writeHealthState
    · rename_i same
      rw [same] at ensures
      exact .inl (ensures.written.trans warned)

/-- An unchecked one writes nothing, or the unknown states of the device. -/
theorem written_applyUnchecked (nothing : state.written = none) :
    (applyUnchecked faults state).written = none ∨
      ∃ states, (applyUnchecked faults state).written = some (uncheckedStates states) := by
  have looksUp : LooksUp state (findHealthDeviceForUnknown faults state) :=
    looksUp_findHealthDeviceForUnknown
  unfold applyUnchecked
  split
  · rename_i same
    rw [same] at looksUp
    exact .inl (written_readFailed.trans (looksUp.written.trans nothing))
  · rename_i same
    rw [same] at looksUp
    exact .inl (looksUp.written.trans nothing)
  · rename_i found device same
    rw [same] at looksUp
    split
    · exact .inl (written_readFailed.trans (looksUp.written.trans nothing))
    · dsimp only
      split
      · exact .inl (looksUp.written.trans nothing)
      · exact .inr ⟨device.states, written_writeHealthState⟩

theorem healthyOnly_step (event : Event) :
    HealthyOnlyOn SomePeerElsewhere event (step state event) := by
  rintro churn fabrics faults rfl states slot written healthy
  change (applySubscriptionChurn churn fabrics faults state).written = some states at written
  unfold applySubscriptionChurn at written
  split at written
  · rename_i checked isChecked
    rcases Option.filter_eq_some_iff.mp isChecked with ⟨given, observed⟩
    have either : (applyChecked checked (fabrics.getD []) faults (unwritten state)).written = none ∨
        (applyChecked checked (fabrics.getD []) faults (unwritten state)).written =
          some (checkedStates (fabrics.getD []) checked) := written_applyChecked rfl
    rcases either with nothing | same
    · rw [nothing] at written
      cases written
    · rw [same] at written
      cases written
      exact ⟨checked, given, observed, somePeerElsewhere_of_slotHealth healthy⟩
  · have either : (applyUnchecked faults (unwritten state)).written = none ∨
        ∃ shown, (applyUnchecked faults (unwritten state)).written = some (uncheckedStates shown) :=
      written_applyUnchecked rfl
    rcases either with nothing | ⟨shown, same⟩
    · rw [nothing] at written
      cases written
    · rw [same] at written
      cases written
      exact absurd healthy (uncheckedStates_ne_healthy _ slot)

theorem uncheckedStates_healths {states : HealthStates}
    (occupied : (uncheckedStates states).names slot ≠ "") :
    (uncheckedStates states).healths slot = HEALTH_UNKNOWN := if_pos occupied

theorem Kept.leavesUnknown (kept : Kept state) (tracked : state.lost = false) (event : Event) :
    LeavesUnknown event (step state event) := by
  rintro churn fabrics faults rfl unchecked answers scans reads lands device present slot occupied
  have fresh := kept.unwritten
  have finds := fresh.findHealthDeviceForUnknown_eq tracked answers scans
  have looksUp : LooksUp _ (findHealthDeviceForUnknown faults (BridgeHealth.unwritten state)) :=
    looksUp_findHealthDeviceForUnknown
  change (applySubscriptionChurn churn fabrics faults state).device = some device at present
  simp only [applySubscriptionChurn, unchecked, BridgeHealth.applyUnchecked] at present
  split at present
  · rename_i same
    rw [same] at finds
    cases finds
  · rename_i found same
    rw [same] at finds looksUp
    have missing : found.device = none :=
      looksUp.unmoved.device.trans (Except.ok.inj finds).symm
    rw [show found.device = some device from present] at missing
    cases missing
  · rename_i found shown same
    rw [same] at finds looksUp
    have isFound : found.device = some shown :=
      looksUp.unmoved.device.trans (Except.ok.inj finds).symm
    rw [reads] at present
    dsimp only at present
    split at present
    · rename_i unchanged
      obtain rfl : shown = device := Option.some.inj (isFound.symm.trans present)
      rcases (looksUp.kept fresh).shown shown _ isFound unchanged with written | blank
      · rw [written] at occupied ⊢
        exact uncheckedStates_healths occupied
      · rw [blank] at occupied
        exact absurd rfl occupied
    · rw [device_writeHealthState lands] at present
      dsimp only at present
      rw [isFound] at present
      obtain rfl := Option.some.inj present
      exact uncheckedStates_healths occupied

theorem Kept.skipsOnlyShown (kept : Kept state) (there : state.deleted = false) (event : Event) :
    SkipsOnlyShown state event :=
  fun _ _ _ _ _ unchanged => kept.present _ there unchanged

/-- The verdict repeats what was last written to a device that has been deleted since. -/
def RepeatsDeleted (state : State) (event : Event) : Prop :=
  state.deleted = true ∧ ∃ churn fabrics faults, event = .verdict (some churn) fabrics faults ∧
    state.healthState = some (.states (checkedStates (fabrics.getD []) churn))

theorem Kept.repairs (kept : Kept state) {event : Event} (news : ¬RepeatsDeleted state event) :
    Repairs event (step state event) := by
  rintro churn fabrics id rfl checked
  have fresh := kept.unwritten
  have warned : Kept (BridgeHealth.warnIfFabricsDropped (droppedFabrics (fabrics.getD []))
      (BridgeHealth.unwritten state)) := fresh.warnIfFabricsDropped
  have frame : Unmoved (BridgeHealth.unwritten state)
      (BridgeHealth.warnIfFabricsDropped (droppedFabrics (fabrics.getD []))
        (BridgeHealth.unwritten state)) := warnIfFabricsDropped_frame.1
  change ∃ device, (applySubscriptionChurn _ _ _ _).device = _ ∧ _
  simp only [applySubscriptionChurn, Option.filter, checked, if_true,
    BridgeHealth.applyChecked]
  split
  · rename_i unchanged
    refine warned.present _ (frame.deleted.trans ?_) unchanged
    refine Bool.eq_false_iff.mpr fun deleted => news ⟨deleted, churn, fabrics, _, rfl, ?_⟩
    exact frame.healthState.symm.trans unchanged
  · have ensures : Ensures _ (ensureHealthDevice (.none id)
      (BridgeHealth.warnIfFabricsDropped (droppedFabrics (fabrics.getD []))
        (BridgeHealth.unwritten state))) := ensures_ensureHealthDevice
    have there : ∃ device, (ensureHealthDevice (.none id)
        (BridgeHealth.warnIfFabricsDropped (droppedFabrics (fabrics.getD []))
          (BridgeHealth.unwritten state))).2 = .ok (some device) := ensureHealthDevice_none id
    rcases there with ⟨device, isThere⟩
    split
    · rename_i same
      rw [same] at ensures
      rw [device_writeHealthState rfl, ensures.device _ rfl]
      exact ⟨_, rfl, rfl⟩
    · rename_i missing same
      rw [same] at isThere
      exact absurd isThere (missing device)

/-! ## Every session -/

theorem Kept.step (kept : Kept state) (event : Event) : Kept (step state event) := by
  cases event with
  | delete => exact ⟨nofun, nofun, nofun⟩
  | verdict churn fabrics faults =>
      have fresh := kept.unwritten
      change Kept (applySubscriptionChurn churn fabrics faults state)
      unfold applySubscriptionChurn
      split
      · exact fresh.applyChecked
      · exact fresh.applyUnchecked

theorem kept_after (device : Option HealthDevice) (events : List Event) :
    Kept (after device events) :=
  List.foldlRecOn events BridgeHealth.step (kept_opened device) fun _ kept event _ => kept.step event

/-- What holds of each event of each session: a lookup that has failed can leave a device
unseen, and a verdict that repeats the last one does not notice that the device is gone. -/
theorem health_at_every_step (device : Option HealthDevice) (events : List Event) (event : Event) :
    HealthyOnlyOn SomePeerElsewhere event (step (after device events) event) ∧
      ((after device events).lost = false →
        LeavesUnknown event (step (after device events) event)) ∧
      ((after device events).deleted = false → SkipsOnlyShown (after device events) event) ∧
      (¬RepeatsDeleted (after device events) event →
        Repairs event (step (after device events) event)) := by
  have kept := kept_after device events
  exact ⟨healthyOnly_step event, fun tracked => kept.leavesUnknown tracked event,
    fun there => kept.skipsOnlyShown there event, fun news => kept.repairs news⟩

/-! ## Where more does not hold -/

def apple : FabricInfo := ⟨1, "", 0x1349⟩

def alexa : FabricInfo := ⟨2, "", 0x1217⟩

/-- Two peers churn, one on the first fabric and one on a fabric that is not connected. -/
def halfAttributed : SubscriptionChurn :=
  ⟨true, true, [⟨"a", 1, 2, 3, 30⟩, ⟨"b", 99, 2, 3, 30⟩]⟩

def halfVerdict : Event := .verdict (some halfAttributed) (some [apple, alexa]) (.none 7)

def quiet : SubscriptionChurn := ⟨true, false, []⟩

/-- The device an earlier session has left healthy. -/
def leftHealthy : HealthDevice :=
  ⟨7, ⟨HEALTH_HEALTHY, "", fun slot => if slot.val = 0 then "Apple Home" else "",
    fun slot => if slot.val = 0 then HEALTH_HEALTHY else ""⟩⟩

def quietVerdict : Event := .verdict (some quiet) (some [apple]) (.none 7)

def failedScan : Event :=
  .verdict none none ⟨false, some "IndigoServer went away", none, .ok 7, none⟩

/-- The second slot is healthy although a peer is of no connected fabric; a verdict is
skipped although the device has been deleted; and after a failed scan the device of an
earlier session stays healthy. -/
theorem unobserved_all_clear :
    (¬∀ device events event,
      HealthyOnlyOn EveryPeerElsewhere event (step (after device events) event)) ∧
      (¬∀ device events event, LeavesUnknown event (step (after device events) event)) ∧
      ¬∀ device events event, SkipsOnlyShown (after device events) event := by
  refine ⟨fun healthy => ?_, fun unknown => ?_, fun shown => ?_⟩
  · have written : (step (after none []) halfVerdict).written =
        some (checkedStates [apple, alexa] halfAttributed) := rfl
    rcases healthy none [] halfVerdict _ _ _ rfl _ ⟨1, by decide⟩ written (by decide) with
      ⟨checked, ⟨⟩, _, evidence⟩
    rcases evidence rfl ⟨"b", 99, 2, 3, 30⟩ (by decide) with ⟨other, connected, named, _⟩
    revert other
    decide
  · have stale := unknown (some leftHealthy) [failedScan] (.verdict none none (.none 7)) none none
      _ rfl rfl rfl rfl rfl rfl leftHealthy rfl ⟨0, by decide⟩
      (by decide)
    exact absurd stale (by decide)
  · rcases shown none [quietVerdict, .delete] quietVerdict quiet _ _ rfl rfl rfl with
      ⟨device, present, _⟩
    cases present

end BridgeHealth

end IndigoMatter.Plugin
