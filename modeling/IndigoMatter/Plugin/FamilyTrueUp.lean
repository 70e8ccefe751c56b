import IndigoMatter.Plugin.FamilyNames

/-!
# The names a create pass gives

On a pass that carries no choice of the user, `create_devices` derives the base of the
family and gives every device that has a generated name the name that belongs to it: the
node device before and after the others, each of them in the order of the plan.  A bridged
child keeps its name.  Where a name is taken, or Indigo refuses to change it, a device stays
as it is called.

Names sit beside the devices of the plugin, whose creation is the one of `DeviceCreation`.
Folders and groups are left out; reading a device that is there always works.
-/

namespace IndigoMatter.Plugin

open IndigoMatter.Library

/-- What a device of Indigo is called, and the base a node device carries in its properties. -/
structure NameRecord where
  name : Text
  nodeBaseName : Option Text
deriving DecidableEq

/-- The plugin and the names of all devices Indigo has, its own and others. -/
structure NamedWorld where
  plugin : PluginWorld
  names : InsertionMap DeviceId NameRecord

/-- When a pass visits a device. -/
inductive Visit
  | before
  | during
  | after

/-- What Indigo answers in a pass: which devices it creates, and which names and which
properties of a device it changes. -/
structure Answers where
  creates : Accepts?
  renames : Visit → DeviceId → Bool
  stamps : Visit → DeviceId → Bool

/-- Where a node device is indexed. -/
def nodeEntry : EndpointId × TypeId := (0, "matterNode")

namespace NamedWorld

/-! ## Names that are taken -/

def isTaken (world : NamedWorld) (name : Text) : Bool :=
  world.names.values.any fun record => record.name = name

/-- A name with a number behind it. -/
def numbered (name : Text) (number : Nat) : Text := name ++ ' ' :: Nat.toDigits 10 number

/-- `_unique_name`: among so many names one more number than there are names suffices. -/
def uniqueName (world : NamedWorld) (name : Text) : Text :=
  if world.isTaken name then
    numbered name (((List.range' 2 (world.names.size + 1)).find? fun number =>
      !world.isTaken (numbered name number)).getD 2)
  else name

/-! ## The base of a family -/

/-- The index entry of a device of a node. -/
def slot (world : NamedWorld) (node : NodeInfo) (entry : EndpointId × TypeId) : Option DeviceId :=
  (world.plugin.sync.index.typeMap node.nodeId entry.1).get? entry.2

/-- The votes of the endpoint devices. -/
def votes (world : NamedWorld) (node : NodeInfo) (fallback : Text) : List Text :=
  (world.plugin.sync.index.entries.filter fun place =>
      place.1.1 = node.nodeId && place.1.2 ≠ 0).flatMap fun place =>
    place.2.entries.filterMap fun device =>
      (world.names.get? device.2).bind fun record => castVote fallback device.1 record.name

/-! ## Changing a name -/

/-- `_apply_identity`, without a folder; whether the device now has the name. -/
def applyIdentity (world : NamedWorld) (accepted : Bool) (device : DeviceId) (name : Text) :
    NamedWorld × Bool :=
  match world.names.get? device with
  | none => (world, false)
  | some record =>
      let target := if record.name = name then name else world.uniqueName name
      if record.name = target then (world, target = name)
      else if accepted then
        ({ world with names := world.names.set device { record with name := target } },
          target = name)
      else (world, false)

/-- `_true_up_endpoint_name`. -/
def trueUpEndpointName (world : NamedWorld) (accepted : Bool) (device : DeviceId)
    (target derived fallback role : Text) : NamedWorld :=
  match world.names.get? device with
  | none => world
  | some record =>
      if record.name = target then world
      else if !(isGeneratedName record.name derived role ||
          isGeneratedName record.name fallback role) then world
      else if world.uniqueName target ≠ target then world
      else (world.applyIdentity accepted device target).1

/-- The base a node device has been given before, or else the fallback. -/
def stampedBase (record : NameRecord) (fallback : Text) : Text :=
  match record.nodeBaseName with
  | none | some [] => fallback
  | some base => base

/-- The stamp of the base on a node device. -/
def restamp (world : NamedWorld) (accepted : Bool) (device : DeviceId) (base : Text) :
    NamedWorld :=
  match world.names.get? device with
  | none => world
  | some record =>
      if record.nodeBaseName ≠ some base ∧ accepted then
        { world with names := world.names.set device { record with nodeBaseName := some base } }
      else world

/-- `_true_up_node_device`. -/
def trueUpNodeDevice (world : NamedWorld) (answers : Answers) (visit : Visit) (device : DeviceId)
    (derived : Option Text) (fallback : Text) : NamedWorld :=
  match world.names.get? device, derived with
  | some record, some base =>
      if record.name = base then world.restamp (answers.stamps visit device) device base
      else if !isGeneratedName record.name (stampedBase record fallback) [] then world
      else if world.uniqueName base ≠ base then world
      else
        let renamed := world.applyIdentity (answers.renames visit device) device base
        if renamed.2 then renamed.1.restamp (answers.stamps visit device) device base
        else renamed.1
  | _, _ => world

/-! ## A pass -/

/-- `_create_one` with a name, where there is no device yet. -/
def create (world : NamedWorld) (accepts : Accepts?) (node : NodeInfo) (siblings : List TypeId)
    (entry : EndpointId × TypeId) (name : Text) (nodeBaseName : Option Text) : NamedWorld where
  plugin := world.plugin.ensureDevice accepts node siblings entry.1 entry.2
  names :=
    if accepts entry.1 entry.2 then
      world.names.set world.plugin.nextId ⟨world.uniqueName name, nodeBaseName⟩
    else world.names

section Pass

variable (str : PyJson → String) (answers : Answers) (node : NodeInfo)
  (plan : List (EndpointId × TypeId)) (derived : Option Text)

/-- `_ensure_node_device`. -/
def ensureNodeDevice (world : NamedWorld) : NamedWorld :=
  match world.slot node nodeEntry with
  | some device =>
      world.trueUpNodeDevice answers .before device derived (node.fallbackBase str)
  | none =>
      if node.nodeId ∈ world.plugin.nodeTombstones || plan.isEmpty || !node.isConformant then world
      else
        let base := derived.getD (node.fallbackBase str)
        world.create answers.creates node ["matterNode"] nodeEntry base (some base)

/-- The device of one entry of the plan. -/
def ensureEndpointDevice (world : NamedWorld) (entry : EndpointId × TypeId) : NamedWorld :=
  let name := node.endpointName str plan derived entry
  match world.slot node entry with
  | some device =>
      match derived with
      | some base =>
          if node.bridgeLabel str entry.1 = [] then
            world.trueUpEndpointName (answers.renames .during device) device name base
              (node.fallbackBase str) (roleLabel entry.2)
          else world
      | none => world
  | none =>
      world.create answers.creates node (PluginWorld.plannedOn plan entry.1) entry name none

/-- The part of `create_devices` that creates and names. -/
def carryOut (world : NamedWorld) : NamedWorld :=
  let world := plan.foldl (ensureEndpointDevice str answers node plan derived)
    (world.ensureNodeDevice str answers node plan derived)
  match world.slot node nodeEntry with
  | some device => world.trueUpNodeDevice answers .after device derived (node.fallbackBase str)
  | none => world

end Pass

/-- `_derive_family_base`. -/
def deriveFamilyBase (str : PyJson → String) (world : NamedWorld) (node : NodeInfo) : Option Text :=
  agreedBase (node.fallbackBase str) (world.votes node (node.fallbackBase str))

/-- `create_devices`, on a pass that carries no choice of the user. -/
def createDevices (str : PyJson → String) (answers : Answers) (node : NodeInfo)
    (world : NamedWorld) : NamedWorld :=
  if node.nodeId ∈ world.plugin.retiredNodes then world
  else if node.nodeId ∈ world.plugin.creationSuspended then world
  else
    let derived := world.deriveFamilyBase str node
    let plugin := { world.plugin with sync := world.plugin.sync.recordNode node }
    carryOut str answers node (plugin.sync.plan node) derived { world with plugin }

/-! ## What a true-up does -/

section Operations

variable {world : NamedWorld} {device : DeviceId} {record : NameRecord}

/-- A rename to a name that is free lands or changes nothing. -/
theorem applyIdentity_of_unique {accepted : Bool} {name : Text}
    (found : world.names.get? device = some record) (differs : record.name ≠ name)
    (unique : world.uniqueName name = name) :
    world.applyIdentity accepted device name =
      if accepted then
        ({ world with names := world.names.set device { record with name := name } }, true)
      else (world, false) := by
  unfold applyIdentity
  rw [found]
  simp [differs, unique]

/-- An endpoint device keeps its name or takes the one it is to have, which it does only from
a generated name. -/
theorem trueUpEndpointName_cases (found : world.names.get? device = some record)
    (accepted : Bool) (target derived fallback role : Text) :
    world.trueUpEndpointName accepted device target derived fallback role = world ∨
      (record.name ≠ target ∧
        (isGeneratedName record.name derived role || isGeneratedName record.name fallback role) =
          true ∧
        world.trueUpEndpointName accepted device target derived fallback role =
          { world with names := world.names.set device { record with name := target } }) := by
  unfold trueUpEndpointName
  rw [found]
  by_cases same : record.name = target
  · exact .inl (by simp [same])
  · cases generated : isGeneratedName record.name derived role ||
        isGeneratedName record.name fallback role with
    | false => exact .inl (by simp [same, generated])
    | true =>
        by_cases unique : world.uniqueName target = target
        · simp only [same, generated, unique, if_false, Bool.not_true, Bool.false_eq_true, ne_eq,
            not_true_eq_false, applyIdentity_of_unique found same unique]
          cases accepted with
          | false => exact .inl rfl
          | true => exact .inr ⟨not_false, trivial, rfl⟩
        · exact .inl (by simp [same, generated, unique])

theorem trueUpEndpointName_of_none (absent : world.names.get? device = none) (accepted : Bool)
    (target derived fallback role : Text) :
    world.trueUpEndpointName accepted device target derived fallback role = world := by
  unfold trueUpEndpointName
  rw [absent]

theorem restamp_cases (found : world.names.get? device = some record) (accepted : Bool)
    (base : Text) :
    world.restamp accepted device base = world ∨
      (record.nodeBaseName ≠ some base ∧
        world.restamp accepted device base =
          { world with names := world.names.set device { record with nodeBaseName := some base } }) := by
  unfold restamp
  rw [found]
  by_cases moved : record.nodeBaseName ≠ some base ∧ accepted = true
  · exact .inr ⟨moved.1, if_pos moved⟩
  · exact .inl (if_neg moved)

/-- The base is stamped on a node device only when it has it for its name, which it takes only
from a generated name. -/
structure NodeChange (base fallback : Text) (record next : NameRecord) : Prop where
  name : next.name = base
  origin : record.name = base ∨ isGeneratedName record.name (stampedBase record fallback) [] = true
  stamp : next.nodeBaseName = record.nodeBaseName ∨ next.nodeBaseName = some base

theorem NodeChange.trans {base fallback : Text} {record middle next : NameRecord}
    (first : NodeChange base fallback record middle)
    (second : NodeChange base fallback middle next) : NodeChange base fallback record next where
  name := second.name
  origin := first.origin
  stamp := by
    rcases second.stamp with kept | stamped
    · rw [kept]
      exact first.stamp
    · exact .inr stamped

theorem trueUpNodeDevice_cases (found : world.names.get? device = some record)
    (answers : Answers) (visit : Visit) (base fallback : Text) :
    world.trueUpNodeDevice answers visit device (some base) fallback = world ∨
      ∃ next, next ≠ record ∧ NodeChange base fallback record next ∧
        world.trueUpNodeDevice answers visit device (some base) fallback =
          { world with names := world.names.set device next } := by
  unfold trueUpNodeDevice
  rw [found]
  by_cases same : record.name = base
  · simp only [same, if_true]
    rcases restamp_cases found (answers.stamps visit device) base with idle | ⟨moved, stamped⟩
    · exact .inl idle
    · refine .inr ⟨{ record with nodeBaseName := some base }, ?_, ⟨same, .inl same, .inr rfl⟩,
        stamped⟩
      exact fun equal => moved (congrArg NameRecord.nodeBaseName equal).symm
  · cases generated : isGeneratedName record.name (stampedBase record fallback) [] with
    | false => exact .inl (by simp [same, generated])
    | true =>
        by_cases unique : world.uniqueName base = base
        · simp only [same, generated, unique, if_false, Bool.not_true, Bool.false_eq_true, ne_eq,
            not_true_eq_false, applyIdentity_of_unique found same unique]
          cases answers.renames visit device with
          | false => exact .inl rfl
          | true =>
              right
              have renamed : ({ world with
                  names := world.names.set device { record with name := base } } :
                    NamedWorld).names.get? device = some { record with name := base } :=
                InsertionMap.get?_set_self _ _ _
              simp only [if_true]
              rcases restamp_cases renamed (answers.stamps visit device) base with idle |
                ⟨_, stamped⟩
              · refine ⟨{ record with name := base }, ?_, ⟨rfl, .inr generated, .inl rfl⟩, idle⟩
                exact fun equal => same (congrArg NameRecord.name equal).symm
              · refine ⟨{ record with name := base, nodeBaseName := some base }, ?_,
                  ⟨rfl, .inr generated, .inr rfl⟩, stamped.trans ?_⟩
                · exact fun equal => same (congrArg NameRecord.name equal).symm
                · simp only [InsertionMap.set_set]
        · exact .inl (by simp [same, generated, unique])

theorem trueUpNodeDevice_of_none (answers : Answers) (visit : Visit) {derived : Option Text}
    (idle : world.names.get? device = none ∨ derived = none) (fallback : Text) :
    world.trueUpNodeDevice answers visit device derived fallback = world := by
  unfold trueUpNodeDevice
  rcases idle with absent | rfl
  · rw [absent]
  · cases world.names.get? device <;> rfl

end Operations

/-! ## The changes of a pass -/

/-- One change of a pass: a device that was missing, a name that was generated and differs
from the one wanted, or a change of the node device. -/
inductive Alters (str : PyJson → String) (node : NodeInfo) (plan : List (EndpointId × TypeId))
    (derived : Option Text) (world : NamedWorld) : NamedWorld → Prop
  | creates {entry : EndpointId × TypeId} (listed : entry ∈ nodeEntry :: plan)
      (missing : world.slot node entry = none) (pass : PrimePass) (record : NameRecord) :
      Alters str node plan derived world
        { plugin := (world.plugin.create node.nodeId entry.1 entry.2).prime node pass
          names := world.names.set world.plugin.nextId record }
  | renames {entry : EndpointId × TypeId} {device : DeviceId} {record : NameRecord} {base : Text}
      (agreed : derived = some base) (planned : entry ∈ plan)
      (stored : world.slot node entry = some device)
      (unlabelled : node.bridgeLabel str entry.1 = [])
      (found : world.names.get? device = some record)
      (differs : record.name ≠ node.endpointName str plan derived entry)
      (generated : (isGeneratedName record.name base (roleLabel entry.2) ||
        isGeneratedName record.name (node.fallbackBase str) (roleLabel entry.2)) = true) :
      Alters str node plan derived world
        { world with
          names := world.names.set device
            { record with name := node.endpointName str plan derived entry } }
  | nodeDevice {device : DeviceId} {record next : NameRecord} {base : Text}
      (agreed : derived = some base) (stored : world.slot node nodeEntry = some device)
      (found : world.names.get? device = some record) (moves : next ≠ record)
      (change : NodeChange base (node.fallbackBase str) record next) :
      Alters str node plan derived world { world with names := world.names.set device next }

section Reaching

variable {str : PyJson → String} {node : NodeInfo} {plan : List (EndpointId × TypeId)}
  {derived : Option Text} {world : NamedWorld} {answers : Answers}

/-- Any number of changes. -/
abbrev Reaches (str : PyJson → String) (node : NodeInfo) (plan : List (EndpointId × TypeId))
    (derived : Option Text) : NamedWorld → NamedWorld → Prop :=
  Relation.ReflTransGen (Alters str node plan derived)

theorem reaches_create {entry : EndpointId × TypeId} (listed : entry ∈ nodeEntry :: plan)
    (missing : world.slot node entry = none) (siblings : List TypeId) (name : Text)
    (nodeBaseName : Option Text) :
    Reaches str node plan derived world
      (world.create answers.creates node siblings entry name nodeBaseName) := by
  have vacant : ((world.plugin.sync.index.typeMap node.nodeId entry.1).get? entry.2) = none :=
    missing
  unfold create PluginWorld.ensureDevice
  cases accepted : answers.creates entry.1 entry.2 with
  | false =>
      simp only [vacant, Option.isSome_none, Bool.false_eq_true, if_false, Bool.not_false, if_true]
      exact .refl
  | true =>
      simp only [vacant, Option.isSome_none, Bool.false_eq_true, if_false, Bool.not_true, if_true]
      exact .single (.creates listed missing _ _)

theorem reaches_trueUpNodeDevice {device : DeviceId}
    (stored : world.slot node nodeEntry = some device) (visit : Visit) :
    Reaches str node plan derived world
      (world.trueUpNodeDevice answers visit device derived (node.fallbackBase str)) := by
  cases found : world.names.get? device with
  | none =>
      rw [trueUpNodeDevice_of_none answers visit (.inl found)]
  | some record =>
      cases agreed : derived with
      | none =>
          rw [trueUpNodeDevice_of_none answers visit (.inr rfl)]
      | some base =>
          rcases trueUpNodeDevice_cases found answers visit base (node.fallbackBase str) with
            idle | ⟨next, moves, change, changed⟩
          · rw [idle]
          · rw [changed]
            exact .single (.nodeDevice rfl stored found moves change)

theorem reaches_ensureNodeDevice :
    Reaches str node plan derived world
      (world.ensureNodeDevice str answers node plan derived) := by
  unfold ensureNodeDevice
  split
  · rename_i device stored
    exact reaches_trueUpNodeDevice stored .before
  · rename_i missing
    split
    · exact .refl
    · exact reaches_create List.mem_cons_self missing _ _ _

theorem reaches_ensureEndpointDevice {entry : EndpointId × TypeId} (planned : entry ∈ plan) :
    Reaches str node plan derived world
      (ensureEndpointDevice str answers node plan derived world entry) := by
  unfold ensureEndpointDevice
  split
  · rename_i device stored
    split
    · rename_i base
      split
      · rename_i unlabelled
        cases found : world.names.get? device with
        | none => rw [trueUpEndpointName_of_none found]
        | some record =>
            rcases trueUpEndpointName_cases found (answers.renames .during device)
              (node.endpointName str plan (some base) entry) base (node.fallbackBase str)
              (roleLabel entry.2) with idle | ⟨differs, generated, changed⟩
            · rw [idle]
            · rw [changed]
              exact .single (.renames rfl planned stored unlabelled found differs generated)
      · exact .refl
    · exact .refl
  · rename_i missing
    exact reaches_create (List.mem_cons_of_mem _ planned) missing _ _ _

theorem reaches_carryOut :
    Reaches str node plan derived world (world.carryOut str answers node plan derived) := by
  have fold (entries : List (EndpointId × TypeId)) (planned : ∀ entry ∈ entries, entry ∈ plan)
      (start : NamedWorld) :
      Reaches str node plan derived start
        (entries.foldl (ensureEndpointDevice str answers node plan derived) start) := by
    induction entries generalizing start with
    | nil => exact .refl
    | cons entry rest ih =>
        exact (reaches_ensureEndpointDevice (planned entry List.mem_cons_self)).trans
          (ih (fun other member => planned other (List.mem_cons_of_mem entry member)) _)
  have created : Reaches str node plan derived world
      (world.ensureNodeDevice str answers node plan derived) := reaches_ensureNodeDevice
  simp only [carryOut]
  split
  · rename_i device stored
    exact (created.trans (fold plan (fun _ member => member) _)).trans
      (reaches_trueUpNodeDevice stored .after)
  · exact created.trans (fold plan (fun _ member => member) _)

end Reaching

/-! ## Names aside -/

section Refinement

variable {str : PyJson → String} {answers : Answers} {node : NodeInfo}
  {plan : List (EndpointId × TypeId)} {derived : Option Text}

theorem plugin_trueUpEndpointName (world : NamedWorld) (accepted : Bool) (device : DeviceId)
    (target derived fallback role : Text) :
    (world.trueUpEndpointName accepted device target derived fallback role).plugin =
      world.plugin := by
  cases found : world.names.get? device with
  | none => rw [trueUpEndpointName_of_none found]
  | some record =>
      rcases trueUpEndpointName_cases found accepted target derived fallback role with
        idle | ⟨_, _, changed⟩
      · rw [idle]
      · rw [changed]

theorem plugin_trueUpNodeDevice (world : NamedWorld) (visit : Visit) (device : DeviceId)
    (fallback : Text) :
    (world.trueUpNodeDevice answers visit device derived fallback).plugin = world.plugin := by
  cases found : world.names.get? device with
  | none => rw [trueUpNodeDevice_of_none answers visit (.inl found)]
  | some record =>
      cases derived with
      | none => rw [trueUpNodeDevice_of_none answers visit (.inr rfl)]
      | some base =>
          rcases trueUpNodeDevice_cases found answers visit base fallback with
            idle | ⟨_, _, _, changed⟩
          · rw [idle]
          · rw [changed]

theorem ensureDevice_of_slot {world : NamedWorld} {entry : EndpointId × TypeId}
    {device : DeviceId} (stored : world.slot node entry = some device) (accepts : Accepts?)
    (siblings : List TypeId) :
    world.plugin.ensureDevice accepts node siblings entry.1 entry.2 = world.plugin := by
  have indexed : (world.plugin.sync.index.typeMap node.nodeId entry.1).get? entry.2 =
      some device := stored
  unfold PluginWorld.ensureDevice
  rw [indexed]
  rfl

theorem plugin_ensureNodeDevice (world : NamedWorld) :
    (world.ensureNodeDevice str answers node plan derived).plugin =
      world.plugin.ensureNodeDevice answers.creates node plan := by
  unfold ensureNodeDevice PluginWorld.ensureNodeDevice
  split
  · rename_i device stored
    rw [plugin_trueUpNodeDevice]
    split
    · rfl
    · exact (ensureDevice_of_slot stored answers.creates ["matterNode"]).symm
  · split
    · rfl
    · rfl

theorem plugin_ensureEndpointDevice (world : NamedWorld) (entry : EndpointId × TypeId) :
    (ensureEndpointDevice str answers node plan derived world entry).plugin =
      world.plugin.ensureDevice answers.creates node (PluginWorld.plannedOn plan entry.1) entry.1
        entry.2 := by
  unfold ensureEndpointDevice
  split
  · rename_i device stored
    rw [ensureDevice_of_slot stored]
    split
    · split
      · exact plugin_trueUpEndpointName _ _ _ _ _ _ _
      · rfl
    · rfl
  · rfl

/-- Names aside, a pass is the one that only creates. -/
theorem plugin_createDevices (world : NamedWorld) :
    (world.createDevices str answers node).plugin =
      world.plugin.createDevices answers.creates node := by
  have fold (plan entries : List (EndpointId × TypeId)) (derived : Option Text)
      (start : NamedWorld) :
      (entries.foldl (ensureEndpointDevice str answers node plan derived) start).plugin =
        entries.foldl
          (fun world entry => world.ensureDevice answers.creates node
            (PluginWorld.plannedOn plan entry.1) entry.1 entry.2) start.plugin := by
    induction entries generalizing start with
    | nil => rfl
    | cons entry rest ih =>
        rw [List.foldl_cons, List.foldl_cons, ih, plugin_ensureEndpointDevice]
  have carried (plan : List (EndpointId × TypeId)) (derived : Option Text) (start : NamedWorld) :
      (start.carryOut str answers node plan derived).plugin =
        start.plugin.carryOut answers.creates node plan := by
    simp only [carryOut]
    split
    · rw [plugin_trueUpNodeDevice, fold, plugin_ensureNodeDevice]
      rfl
    · rw [fold, plugin_ensureNodeDevice]
      rfl
  unfold createDevices PluginWorld.createDevices
  split
  · rfl
  · split
    · rfl
    · exact carried _ _ _

end Refinement

end NamedWorld

end IndigoMatter.Plugin
