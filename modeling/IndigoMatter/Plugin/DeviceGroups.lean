import IndigoMatter.Library.Fallible
import IndigoMatter.Plugin.DeviceIndex

/-!
# Device groups

The devices of one Matter node are put in one Indigo device group with the device of the
node.  Which group a device is in belongs to Indigo and can be changed by hand, so each device
is looked at anew: it joins where it stands alone, a group that is all of this node takes the
lone device of the node in, and any other group is left as it is.

Every call into Indigo can fail.  The groups are followed as a relation between devices,
because Indigo orders the members of a group by its own rule.
-/

namespace IndigoMatter.Plugin.DeviceGroups

open IndigoMatter.Library

/-! ## Indigo -/

/-- The calls into Indigo that grouping needs. -/
structure Indigo (Groups : Type) where
  devices : DeviceId → Bool
  getGroupList : Groups → DeviceId → List DeviceId
  groupWithDevice : Groups → DeviceId → DeviceId → Groups

/-- What a call of `groupWithDevice` comes to. -/
inductive GroupAnswer
  | groups
  | ignores
  | raises
deriving DecidableEq

/-- The answers one call could get, each for its own kind of call. -/
structure Answer where
  lookup : Bool
  groupList : Bool
  grouping : GroupAnswer

/-- The kinds of a grouping warning. -/
inductive WarningKind
  | groupLookup
  | group
  | verify
  | foreign
deriving DecidableEq

/-- The groups, what has been warned about and logged, and each grouping call with the groups
at the time; `clock` counts the answers taken. -/
structure Sweep (Groups : Type) where
  groups : Groups
  warned : List (DeviceId × WarningKind)
  warnings : List (DeviceId × WarningKind)
  calls : List (Groups × DeviceId × DeviceId)
  clock : Nat

/-- A refused call raises. -/
abbrev Grouping (Groups : Type) := EStateM Unit (Sweep Groups)

section Calls

variable {Groups : Type} (indigo : Indigo Groups) (answers : Nat → Answer)

def nextAnswer : Grouping Groups Answer := do
  let sweep ← get
  set { sweep with clock := sweep.clock + 1 }
  return answers sweep.clock

def getGroupList (device : DeviceId) : Grouping Groups (List DeviceId) := do
  let answer ← nextAnswer answers
  let sweep ← get
  if answer.groupList then return indigo.getGroupList sweep.groups device
  else throw ()

def groupWithDevice (first second : DeviceId) : Grouping Groups Unit := do
  let answer ← nextAnswer answers
  let sweep ← get
  match answer.grouping with
  | .groups =>
      set { sweep with
        groups := indigo.groupWithDevice sweep.groups first second
        calls := sweep.calls ++ [(sweep.groups, first, second)] }
  | .ignores => set { sweep with calls := sweep.calls ++ [(sweep.groups, first, second)] }
  | .raises => throw ()

/-- A read whose failure the caller only notes for debugging. -/
def tryGroupList (device : DeviceId) : Grouping Groups (Option (List DeviceId)) :=
  tryCatch (some <$> getGroupList indigo answers device) fun _ => return none

/-! ## The plugin -/

/-- `_group_warn`: one line for each device and kind. -/
def groupWarn (device : DeviceId) (kind : WarningKind) : Grouping Groups Unit :=
  modify fun sweep =>
    if (device, kind) ∈ sweep.warned then sweep
    else { sweep with
      warned := (device, kind) :: sweep.warned
      warnings := sweep.warnings ++ [(device, kind)] }

/-- `_group_and_verify`. -/
def groupAndVerify (device nodeDevice first second : DeviceId) : Grouping Groups Unit := do
  let grouped ← tryCatch
    (do
      groupWithDevice indigo answers first second
      return true)
    fun _ => do
      groupWarn device .group
      return false
  if grouped then
    match ← tryGroupList indigo answers device with
    | none => return
    | some after => if nodeDevice ∉ after then groupWarn device .verify

/-- `_ensure_grouped`. -/
def ensureGrouped (device nodeDevice : DeviceId) (family : List DeviceId) :
    Grouping Groups Unit := do
  if device = nodeDevice then return
  match ← tryGroupList indigo answers device with
  | none => return
  | some group =>
      if nodeDevice ∈ group then return
      else if group.length > 1 then
        if group.all (· ∈ family) then
          match ← tryGroupList indigo answers nodeDevice with
          | none => return
          | some nodeGroup =>
              if nodeGroup.length > 1 then return
              else groupAndVerify indigo answers device nodeDevice nodeDevice device
        else groupWarn device .foreign
      else groupAndVerify indigo answers device nodeDevice device nodeDevice

/-- One device of the sweep in `sync_node`: `indigo.devices` is asked for it first. -/
def groupOne (nodeDevice : DeviceId) (family : List DeviceId) (device : DeviceId) :
    Grouping Groups Unit := do
  let answer ← nextAnswer answers
  if !answer.lookup then groupWarn device .groupLookup
  else if indigo.devices device then
    tryCatch (ensureGrouped indigo answers device nodeDevice family) fun _ => return

/-- The sweep over the devices of a node. -/
def groupFamily (nodeDevice : DeviceId) (family order : List DeviceId) : Grouping Groups Unit :=
  forM order (groupOne indigo answers nodeDevice family)

end Calls

/-! ## What Indigo does -/

section Laws

variable {Groups : Type} (indigo : Indigo Groups)

/-- Both devices are one, or the second is in the group of the first. -/
def InGroup (groups : Groups) (first second : DeviceId) : Prop :=
  second = first ∨ second ∈ indigo.getGroupList groups first

/-- Groups of devices as Indigo keeps them.  A group reads the same from each of its members,
and grouping a lone device puts it in the group of the other. -/
structure GroupLaws : Prop where
  nodup : ∀ groups device, (indigo.getGroupList groups device).Nodup
  own : ∀ groups device, indigo.getGroupList groups device ≠ [] →
    device ∈ indigo.getGroupList groups device
  alike : ∀ groups first second, second ∈ indigo.getGroupList groups first →
    indigo.getGroupList groups second = indigo.getGroupList groups first
  joins : ∀ groups first second, first ≠ second → indigo.devices first = true →
    indigo.devices second = true →
    (indigo.getGroupList groups first).length ≤ 1 ∨
      (indigo.getGroupList groups second).length ≤ 1 →
    ∀ device other, InGroup indigo (indigo.groupWithDevice groups first second) device other ↔
      InGroup indigo groups device other ∨
        ((InGroup indigo groups first device ∨ InGroup indigo groups second device) ∧
          (InGroup indigo groups first other ∨ InGroup indigo groups second other))

/-- No other device is in the group. -/
def Alone (groups : Groups) (device : DeviceId) : Prop :=
  (indigo.getGroupList groups device).length ≤ 1

instance (groups : Groups) (device : DeviceId) : Decidable (Alone indigo groups device) :=
  inferInstanceAs (Decidable (_ ≤ _))

end Laws

namespace GroupLaws

variable {Groups : Type} {indigo : Indigo Groups} (laws : GroupLaws indigo) {groups : Groups}
  {first second third : DeviceId}

include laws

theorem symm (inGroup : InGroup indigo groups first second) : InGroup indigo groups second first := by
  rcases inGroup with rfl | member
  · exact .inl rfl
  · right
    rw [laws.alike groups first second member]
    exact laws.own groups first (List.ne_nil_of_mem member)

theorem trans (inGroup : InGroup indigo groups first second)
    (next : InGroup indigo groups second third) : InGroup indigo groups first third := by
  rcases inGroup with rfl | member
  · exact next
  · rcases next with rfl | nextMember
    · exact .inr member
    · right
      rwa [laws.alike groups first second member] at nextMember

theorem alone_iff (groups : Groups) (first : DeviceId) : Alone indigo groups first ↔
    ∀ device, InGroup indigo groups first device → device = first := by
  constructor
  · rintro alone device (same | member)
    · exact same
    · have own := laws.own groups first (List.ne_nil_of_mem member)
      unfold Alone at alone
      rcases shape : indigo.getGroupList groups first with _ | ⟨head, rest⟩
      · rw [shape] at member
        cases member
      · have noMore : rest = [] := by simpa [shape] using alone
        rw [shape, noMore, List.mem_singleton] at member own
        rw [member, own]
  · intro only
    have nodup := laws.nodup groups first
    unfold Alone
    rcases shape : indigo.getGroupList groups first with _ | ⟨head, _ | ⟨next, rest⟩⟩
    · simp
    · simp
    · rw [shape] at nodup
      have headOnly := only head (.inr (by simp [shape]))
      have nextOnly := only next (.inr (by simp [shape]))
      rw [headOnly, nextOnly] at nodup
      simp at nodup

end GroupLaws

/-! ### Five devices -/

/-- Groups by label, over five devices. -/
def labelled : Indigo (DeviceId → Nat) where
  devices device := device ∈ [1, 2, 3, 4, 5]
  getGroupList labels device :=
    if device ∈ [1, 2, 3, 4, 5] then
      [1, 2, 3, 4, 5].filter fun other => labels other = labels device
    else []
  groupWithDevice labels first second device :=
    if labels device = labels second then labels first else labels device

theorem getGroupList_labelled (labels : DeviceId → Nat) (device : DeviceId) :
    labelled.getGroupList labels device =
      if device ∈ [1, 2, 3, 4, 5] then
        [1, 2, 3, 4, 5].filter fun other => labels other = labels device
      else [] := rfl

theorem mem_labelled {labels : DeviceId → Nat} {device other : DeviceId} :
    other ∈ labelled.getGroupList labels device ↔
      device ∈ [1, 2, 3, 4, 5] ∧ other ∈ [1, 2, 3, 4, 5] ∧ labels other = labels device := by
  rw [getGroupList_labelled]
  by_cases known : device ∈ [1, 2, 3, 4, 5]
  · rw [if_pos known, List.mem_filter, decide_eq_true_eq]
    exact ⟨fun member => ⟨known, member⟩, fun member => member.2⟩
  · rw [if_neg known]
    exact ⟨by rintro ⟨⟩, fun member => absurd member.1 known⟩

theorem labelled_laws : GroupLaws labelled where
  nodup labels device := by
    rw [getGroupList_labelled]
    split
    · apply List.Nodup.filter
      decide
    · exact List.nodup_nil
  own labels device nonempty := by
    rcases List.exists_mem_of_ne_nil _ nonempty with ⟨other, member⟩
    have known := (mem_labelled.mp member).1
    exact mem_labelled.mpr ⟨known, known, rfl⟩
  alike labels first second member := by
    rcases mem_labelled.mp member with ⟨firstKnown, secondKnown, same⟩
    rw [getGroupList_labelled, getGroupList_labelled, if_pos firstKnown, if_pos secondKnown, same]
  joins labels first second different firstKnown secondKnown _ device other := by
    have inFirst : first ∈ [1, 2, 3, 4, 5] := by simpa [labelled] using firstKnown
    have inSecond : second ∈ [1, 2, 3, 4, 5] := by simpa [labelled] using secondKnown
    simp only [InGroup, mem_labelled]
    simp only [labelled, inFirst, inSecond, true_and]
    grind

/-- A node with the device 4, whose devices 1 and 2 are still in a group of their own. -/
def recreatedNode : Sweep (DeviceId → Nat) where
  groups := fun device => if device = 2 then 1 else device
  warned := []
  warnings := []
  calls := []
  clock := 0

/-! ## One device -/

/-- When two devices are grouped for a device of the node: it stands alone, or its group is
all of this node and the device of the node stands alone. -/
inductive MayGroup {Groups : Type} (indigo : Indigo Groups) (nodeDevice : DeviceId)
    (family : List DeviceId) (groups : Groups) (device : DeviceId) : DeviceId → DeviceId → Prop
  | joining (alone : Alone indigo groups device) :
      MayGroup indigo nodeDevice family groups device device nodeDevice
  | takingIn (alone : Alone indigo groups nodeDevice)
      (own : ∀ member ∈ indigo.getGroupList groups device, member ∈ family) :
      MayGroup indigo nodeDevice family groups device nodeDevice device

/-- What becomes of the groups while one device is looked at: nothing, or one call for it. -/
inductive Looked {Groups : Type} (indigo : Indigo Groups) (nodeDevice : DeviceId)
    (family : List DeviceId) (device : DeviceId) (before after : Sweep Groups) : Prop
  | idle (groups : after.groups = before.groups) (calls : after.calls = before.calls)
  | called {first second : DeviceId} (different : device ≠ nodeDevice)
      (known : indigo.devices device = true)
      (apart : nodeDevice ∉ indigo.getGroupList before.groups device)
      (may : MayGroup indigo nodeDevice family before.groups device first second)
      (calls : after.calls = before.calls ++ [(before.groups, first, second)])
      (groups : after.groups = before.groups ∨
        after.groups = indigo.groupWithDevice before.groups first second)

section Steps

variable {Groups : Type} {indigo : Indigo Groups} {answers : Nat → Answer} {sweep : Sweep Groups}
  {device nodeDevice : DeviceId} {family : List DeviceId}

/-- A read changes nothing; what it returns is the group. -/
theorem wp_tryGroupList (device : DeviceId) :
    wp (tryGroupList indigo answers device)
      (fun found after => after.groups = sweep.groups ∧ after.calls = sweep.calls ∧
        ∀ group, found = some group → group = indigo.getGroupList sweep.groups device)
      (fun _ _ => False) sweep := by
  simp only [tryGroupList, getGroupList, nextAnswer, wp_tryCatch, wp_map, wp_bind, wp_get, wp_set,
    wp_pure]
  split
  · refine ⟨rfl, rfl, ?_⟩
    rintro group same
    exact (Option.some.inj same).symm
  · exact ⟨rfl, rfl, by rintro _ ⟨⟩⟩

theorem wp_groupWarn (device : DeviceId) (kind : WarningKind) :
    wp (groupWarn device kind : Grouping Groups Unit)
      (fun _ after => after.groups = sweep.groups ∧ after.calls = sweep.calls)
      (fun _ _ => False) sweep := by
  simp only [groupWarn, wp_modify]
  split <;> exact ⟨rfl, rfl⟩

theorem wp_groupAndVerify (first second : DeviceId) :
    wp (groupAndVerify indigo answers device nodeDevice first second)
      (fun _ after =>
        (after.groups = sweep.groups ∧ after.calls = sweep.calls) ∨
        (after.calls = sweep.calls ++ [(sweep.groups, first, second)] ∧
          (after.groups = sweep.groups ∨
            after.groups = indigo.groupWithDevice sweep.groups first second)))
      (fun _ _ => False) sweep := by
  have verified (middle : Sweep Groups) (post : Sweep Groups → Prop)
      (same : ∀ after, after.groups = middle.groups → after.calls = middle.calls → post after) :
      wp (do
          match ← tryGroupList indigo answers device with
          | none => return
          | some after => if nodeDevice ∉ after then groupWarn device .verify)
        (fun _ => post) (fun _ _ => False) middle := by
    rw [wp_bind]
    apply wp_mono (wp_tryGroupList device)
    · rintro found read ⟨groups, calls, _⟩
      cases found with
      | none => exact same read groups calls
      | some after =>
          by_cases inside : nodeDevice ∈ after
          · simp only [inside, not_true, if_false]
            exact same read groups calls
          · simp only [inside, not_false_eq_true, if_true]
            apply wp_mono (wp_groupWarn device .verify)
            · rintro _ warned ⟨warnedGroups, warnedCalls⟩
              exact same warned (warnedGroups.trans groups) (warnedCalls.trans calls)
            · exact fun _ _ never => never
    · exact fun _ _ never => never
  simp only [groupAndVerify, groupWithDevice, nextAnswer, wp_bind, wp_tryCatch, wp_get, wp_set,
    wp_pure]
  cases (answers sweep.clock).grouping with
  | groups =>
      apply verified
      intro after groups calls
      exact .inr ⟨calls, .inr groups⟩
  | ignores =>
      apply verified
      intro after groups calls
      exact .inr ⟨calls, .inl groups⟩
  | raises =>
      simp only [wp_throw, wp_bind]
      apply wp_mono (wp_groupWarn device .group)
      · rintro _ warned ⟨groups, calls⟩
        exact .inl ⟨groups, calls⟩
      · exact fun _ _ never => never

theorem looked_ensureGrouped (known : indigo.devices device = true) :
    wp (ensureGrouped indigo answers device nodeDevice family)
      (fun _ after => Looked indigo nodeDevice family device sweep after) (fun _ _ => False)
      sweep := by
  simp only [ensureGrouped]
  split
  · exact .idle rfl rfl
  · rename_i different
    have grouping (middle : Sweep Groups) (first second : DeviceId)
        (groups : middle.groups = sweep.groups) (calls : middle.calls = sweep.calls)
        (apart : nodeDevice ∉ indigo.getGroupList sweep.groups device)
        (may : MayGroup indigo nodeDevice family sweep.groups device first second) :
        wp (groupAndVerify indigo answers device nodeDevice first second)
          (fun _ after => Looked indigo nodeDevice family device sweep after) (fun _ _ => False)
          middle := by
      apply wp_mono (wp_groupAndVerify first second)
      · rintro _ after (⟨sameGroups, sameCalls⟩ | ⟨called, result⟩)
        · exact .idle (sameGroups.trans groups) (sameCalls.trans calls)
        · rw [groups] at called result
          exact .called different known apart may (calls ▸ called) result
      · exact fun _ _ never => never
    rw [wp_bind]
    apply wp_mono (wp_tryGroupList device)
    · rintro found middle ⟨groups, calls, read⟩
      cases found with
      | none => exact .idle groups calls
      | some group =>
          have isGroup := read group rfl
          simp only
          split
          · exact .idle groups calls
          · rename_i apart
            rw [isGroup] at apart
            split
            · split
              · rename_i own
                rw [isGroup] at own
                rw [wp_bind]
                apply wp_mono (wp_tryGroupList nodeDevice)
                · rintro nodeFound later ⟨laterGroups, laterCalls, nodeRead⟩
                  cases nodeFound with
                  | none => exact .idle (laterGroups.trans groups) (laterCalls.trans calls)
                  | some nodeGroup =>
                      have isNodeGroup := nodeRead nodeGroup rfl
                      simp only
                      split
                      · exact .idle (laterGroups.trans groups) (laterCalls.trans calls)
                      · rename_i alone
                        apply grouping later nodeDevice device (laterGroups.trans groups)
                          (laterCalls.trans calls) apart
                        apply MayGroup.takingIn
                        · rw [isNodeGroup, groups] at alone
                          exact Nat.le_of_not_lt alone
                        · simpa using own
                · exact fun _ _ never => never
              · apply wp_mono (wp_groupWarn device .foreign)
                · rintro _ warned ⟨warnedGroups, warnedCalls⟩
                  exact .idle (warnedGroups.trans groups) (warnedCalls.trans calls)
                · exact fun _ _ never => never
            · rename_i alone
              apply grouping middle device nodeDevice groups calls apart
              rw [isGroup] at alone
              exact .joining (Nat.le_of_not_lt alone)
    · exact fun _ _ never => never

theorem looked_groupOne :
    wp (groupOne indigo answers nodeDevice family device)
      (fun _ after => Looked indigo nodeDevice family device sweep after) (fun _ _ => False)
      sweep := by
  simp only [groupOne, nextAnswer, wp_bind, wp_get, wp_set, wp_pure]
  split
  · apply wp_mono (wp_groupWarn device .groupLookup)
    · rintro _ warned ⟨groups, calls⟩
      exact .idle groups calls
    · exact fun _ _ never => never
  · split
    · rename_i known
      rw [wp_tryCatch]
      apply wp_mono (looked_ensureGrouped known)
      · intro _ after looked
        cases looked with
        | idle groups calls => exact .idle groups calls
        | called different known apart may calls groups =>
            exact .called different known apart may calls groups
      · exact fun _ _ never => never.elim
    · exact .idle rfl rfl

end Steps

/-! ## Any sweeps -/

/-- Only the group of the node's device has grown, and only by devices of the node. -/
structure Grown {Groups : Type} (indigo : Indigo Groups) (nodeDevice : DeviceId)
    (family : List DeviceId) (before after : Groups) : Prop where
  together : ∀ first second, InGroup indigo after first second ↔
    InGroup indigo before first second ∨
      (InGroup indigo after nodeDevice first ∧ InGroup indigo after nodeDevice second)
  members : ∀ device, InGroup indigo after nodeDevice device →
    InGroup indigo before nodeDevice device ∨ device ∈ family

section Growth

variable {Groups : Type} {indigo : Indigo Groups} {nodeDevice : DeviceId} {family : List DeviceId}
  {before middle after : Groups}

theorem Grown.mono (grown : Grown indigo nodeDevice family before after) {first second : DeviceId}
    (inGroup : InGroup indigo before first second) : InGroup indigo after first second :=
  (grown.together first second).mpr (.inl inGroup)

theorem Grown.refl (laws : GroupLaws indigo) (groups : Groups) :
    Grown indigo nodeDevice family groups groups where
  together := by
    intro first second
    constructor
    · exact fun inGroup => .inl inGroup
    · rintro (inGroup | ⟨firstInGroup, secondInGroup⟩)
      · exact inGroup
      · exact laws.trans (laws.symm firstInGroup) secondInGroup
  members := fun _ inGroup => .inl inGroup

theorem Grown.trans (first : Grown indigo nodeDevice family before middle)
    (second : Grown indigo nodeDevice family middle after) :
    Grown indigo nodeDevice family before after where
  together := by
    intro device other
    rw [second.together device other, first.together device other]
    constructor
    · rintro ((earlier | ⟨joined, otherJoined⟩) | later)
      · exact .inl earlier
      · exact .inr ⟨second.mono joined, second.mono otherJoined⟩
      · exact .inr later
    · rintro (earlier | later)
      · exact .inl (.inl earlier)
      · exact .inr later
  members := by
    intro device joined
    rcases second.members device joined with earlier | own
    · exact first.members device earlier
    · exact .inr own

theorem Grown.alone (laws : GroupLaws indigo) (grown : Grown indigo nodeDevice family before after)
    {device : DeviceId} (alone : Alone indigo after device) : Alone indigo before device := by
  rw [laws.alone_iff] at alone ⊢
  exact fun other inGroup => alone other (grown.mono inGroup)

/-- Outside the group of the node's device nothing has changed. -/
theorem Grown.outside (grown : Grown indigo nodeDevice family before after) {device : DeviceId}
    (outside : ¬ InGroup indigo after nodeDevice device) (other : DeviceId) :
    InGroup indigo after device other ↔ InGroup indigo before device other := by
  rw [grown.together device other]
  constructor
  · rintro (earlier | joined)
    · exact earlier
    · exact absurd joined.1 outside
  · exact fun earlier => .inl earlier

/-- A call for a device of the node puts its group into that of the node's device. -/
theorem MayGroup.joined {device first second : DeviceId} (laws : GroupLaws indigo)
    (nodeKnown : indigo.devices nodeDevice = true) (known : indigo.devices device = true)
    (different : device ≠ nodeDevice)
    (may : MayGroup indigo nodeDevice family before device first second) (one other : DeviceId) :
    InGroup indigo (indigo.groupWithDevice before first second) one other ↔
      InGroup indigo before one other ∨
        ((InGroup indigo before device one ∨ InGroup indigo before nodeDevice one) ∧
          (InGroup indigo before device other ∨ InGroup indigo before nodeDevice other)) := by
  cases may with
  | joining alone => exact laws.joins _ _ _ different known nodeKnown (.inl alone) one other
  | takingIn alone _ =>
      rw [laws.joins _ _ _ different.symm nodeKnown known (.inl alone) one other,
        or_comm (a := InGroup indigo before nodeDevice one),
        or_comm (a := InGroup indigo before nodeDevice other)]

theorem MayGroup.node {device first second : DeviceId} (laws : GroupLaws indigo)
    (nodeKnown : indigo.devices nodeDevice = true) (known : indigo.devices device = true)
    (different : device ≠ nodeDevice)
    (may : MayGroup indigo nodeDevice family before device first second) (other : DeviceId) :
    InGroup indigo (indigo.groupWithDevice before first second) nodeDevice other ↔
      InGroup indigo before nodeDevice other ∨ InGroup indigo before device other := by
  rw [may.joined laws nodeKnown known different]
  constructor
  · rintro (there | ⟨_, new | there⟩)
    · exact .inl there
    · exact .inr new
    · exact .inl there
  · rintro (there | new)
    · exact .inl there
    · exact .inr ⟨.inr (.inl rfl), .inl new⟩

theorem MayGroup.grown {device first second : DeviceId} (laws : GroupLaws indigo)
    (nodeKnown : indigo.devices nodeDevice = true) (known : indigo.devices device = true)
    (different : device ≠ nodeDevice) (listed : device ∈ family)
    (may : MayGroup indigo nodeDevice family before device first second) :
    Grown indigo nodeDevice family before (indigo.groupWithDevice before first second) where
  together := by
    intro one other
    rw [may.joined laws nodeKnown known different, may.node laws nodeKnown known different,
      may.node laws nodeKnown known different, or_comm (a := InGroup indigo before nodeDevice one),
      or_comm (a := InGroup indigo before nodeDevice other)]
  members := by
    intro other joined
    rcases (may.node laws nodeKnown known different other).mp joined with there | new
    · exact .inl there
    · right
      cases may with
      | joining alone =>
          rw [(laws.alone_iff before device).mp alone other new]
          exact listed
      | takingIn _ own =>
          rcases new with rfl | member
          · exact listed
          · exact own other member

end Growth

/-- A sweep for one node: Python's order of a set is any order. -/
structure NodeSweep where
  nodeDevice : DeviceId
  family : List DeviceId
  order : List DeviceId
  answers : Nat → Answer

/-- Sweeps for some nodes, one after the other. -/
def runSweeps {Groups : Type} (indigo : Indigo Groups) (sweeps : List NodeSweep) :
    Grouping Groups Unit :=
  forM sweeps fun sweep => groupFamily indigo sweep.answers sweep.nodeDevice sweep.family sweep.order

/-- One of the two devices of a grouping call stood alone. -/
def LoneCall {Groups : Type} (indigo : Indigo Groups) (call : Groups × DeviceId × DeviceId) : Prop :=
  Alone indigo call.1 call.2.1 ∨ Alone indigo call.1 call.2.2

section Runs

variable {Groups : Type} {indigo : Indigo Groups} {nodeDevice : DeviceId} {family : List DeviceId}
  {start before after : Sweep Groups}

/-- New calls all have a lone device. -/
def CallsLone (indigo : Indigo Groups) (before after : Sweep Groups) : Prop :=
  ∀ call ∈ after.calls, call ∈ before.calls ∨ LoneCall indigo call

theorem Looked.grown (laws : GroupLaws indigo) (nodeKnown : indigo.devices nodeDevice = true)
    {device : DeviceId} (listed : device ∈ family)
    (looked : Looked indigo nodeDevice family device before after) :
    Grown indigo nodeDevice family before.groups after.groups ∧ CallsLone indigo before after := by
  cases looked with
  | idle groups calls =>
      rw [groups, CallsLone, calls]
      exact ⟨.refl laws _, fun _ member => .inl member⟩
  | called different known apart may calls groups =>
      constructor
      · rcases groups with unchanged | grouped
        · rw [unchanged]
          exact .refl laws _
        · rw [grouped]
          exact may.grown laws nodeKnown known different listed
      · intro call member
        rw [calls] at member
        rcases List.mem_append.mp member with earlier | new
        · exact .inl earlier
        · right
          rw [List.mem_singleton.mp new]
          cases may with
          | joining alone => exact .inl alone
          | takingIn alone _ => exact .inl alone

theorem CallsLone.trans {middle : Sweep Groups} (first : CallsLone indigo before middle)
    (second : CallsLone indigo middle after) : CallsLone indigo before after := by
  intro call member
  rcases second call member with earlier | lone
  · exact first call earlier
  · exact .inr lone

theorem grown_groupFamily (laws : GroupLaws indigo) (nodeKnown : indigo.devices nodeDevice = true)
    {answers : Nat → Answer} {order : List DeviceId} (listed : order ⊆ family) :
    wp (groupFamily indigo answers nodeDevice family order)
      (fun _ after => Grown indigo nodeDevice family start.groups after.groups ∧
        CallsLone indigo start after)
      (fun _ _ => False) start := by
  unfold groupFamily
  apply wp_mono (wp_forM
    (fun rest after => rest ⊆ family ∧ Grown indigo nodeDevice family start.groups after.groups ∧
      CallsLone indigo start after)
    (fun _ _ => False) ?_ _ start ⟨listed, .refl laws _, fun _ member => .inl member⟩)
  · exact fun _ _ done => done.2
  · exact fun _ _ never => never
  · rintro device rest middle ⟨still, grown, lone⟩
    apply wp_mono looked_groupOne
    · intro _ after looked
      rcases looked.grown laws nodeKnown (still List.mem_cons_self) with ⟨step, called⟩
      exact ⟨fun other member => still (List.mem_cons_of_mem _ member), grown.trans step,
        lone.trans called⟩
    · exact fun _ _ never => never

/-- A group that is not of the node, or not only. -/
def Foreign (indigo : Indigo Groups) (groups : Groups) (sweep : NodeSweep) (device : DeviceId) :
    Prop :=
  ¬ InGroup indigo groups device sweep.nodeDevice ∧
    ∃ other, InGroup indigo groups device other ∧ other ∉ sweep.family

/-- A foreign group is out of reach. -/
theorem Foreign.outside (laws : GroupLaws indigo) {groups later : Groups} {sweep : NodeSweep}
    {device : DeviceId} (foreign : Foreign indigo groups sweep device)
    (grown : Grown indigo sweep.nodeDevice sweep.family groups later) :
    ¬ InGroup indigo later sweep.nodeDevice device := by
  intro joined
  rcases foreign with ⟨apart, other, together, notOwn⟩
  have otherJoined := laws.trans joined (grown.mono together)
  rcases grown.members other otherJoined with earlier | own
  · exact apart (laws.symm (laws.trans earlier (laws.symm together)))
  · exact notOwn own

/-- Whatever is refused, in whatever order the devices of any nodes are looked at: no group is
ever split, a group that has a device of another kind and not the device of the node stays
exactly as it is, and Indigo is only ever asked to group a device that stands alone. -/
theorem sweeps_keep_groups (laws : GroupLaws indigo) (sweeps : List NodeSweep)
    (start : Sweep Groups)
    (ofNode : ∀ sweep ∈ sweeps, indigo.devices sweep.nodeDevice = true ∧ sweep.order ⊆ sweep.family) :
    let after := finalState (runSweeps indigo sweeps start)
    (∀ first second, InGroup indigo start.groups first second →
      InGroup indigo after.groups first second) ∧
    (∀ device, (∀ sweep ∈ sweeps, Foreign indigo start.groups sweep device) →
      ∀ other, InGroup indigo after.groups device other ↔
        InGroup indigo start.groups device other) ∧
    ∀ call ∈ after.calls, call ∈ start.calls ∨ LoneCall indigo call := by
  apply final_of_wp fun after : Sweep Groups =>
    (∀ first second, InGroup indigo start.groups first second →
      InGroup indigo after.groups first second) ∧
    (∀ device, (∀ sweep ∈ sweeps, Foreign indigo start.groups sweep device) →
      ∀ other, InGroup indigo after.groups device other ↔
        InGroup indigo start.groups device other) ∧
    ∀ call ∈ after.calls, call ∈ start.calls ∨ LoneCall indigo call
  unfold runSweeps
  apply wp_mono (wp_forM
    (fun rest after => rest ⊆ sweeps ∧
      (∀ first second, InGroup indigo start.groups first second →
        InGroup indigo after.groups first second) ∧
      (∀ device, (∀ sweep ∈ sweeps, Foreign indigo start.groups sweep device) →
        ∀ other, InGroup indigo after.groups device other ↔
          InGroup indigo start.groups device other) ∧
      CallsLone indigo start after)
    (fun _ _ => False) ?_ _ start
    ⟨List.Subset.refl _, fun _ _ inGroup => inGroup, fun _ _ _ => Iff.rfl,
      fun _ member => .inl member⟩)
  · exact fun _ _ done => done.2
  · exact fun _ _ never => never.elim
  · rintro sweep rest middle ⟨listed, together, unchanged, lone⟩
    have here := listed List.mem_cons_self
    apply wp_mono (grown_groupFamily laws (ofNode sweep here).1 (ofNode sweep here).2)
    · rintro _ after ⟨grown, called⟩
      refine ⟨fun other member => listed (List.mem_cons_of_mem _ member), ?_, ?_,
        lone.trans called⟩
      · exact fun first second inGroup => grown.mono (together first second inGroup)
      · intro device foreign other
        have same := unchanged device foreign
        have still : Foreign indigo middle.groups sweep device := by
          rcases foreign sweep here with ⟨apart, outsider, inGroup, notOwn⟩
          exact ⟨fun joined => apart ((same _).mp joined), outsider, (same _).mpr inGroup, notOwn⟩
        rw [grown.outside (still.outside laws grown) other]
        exact same other
    · exact fun _ _ never => never

end Runs

/-- Every third call is refused. -/
def refusedNowAndThen (clock : Nat) : Answer where
  lookup := true
  groupList := clock % 3 ≠ 2
  grouping := if clock % 3 = 2 then .raises else .groups

/-- Two sweeps, the second in another order. -/
def twoSweeps : List NodeSweep :=
  [⟨4, [1, 2, 3, 4], [3, 1, 2], refusedNowAndThen⟩, ⟨4, [1, 2, 3, 4], [2, 1, 3], refusedNowAndThen⟩]

theorem sweeps_keep_groups_twoSweeps :
    let after := finalState (runSweeps labelled twoSweeps recreatedNode)
    (∀ first second, InGroup labelled recreatedNode.groups first second →
      InGroup labelled after.groups first second) ∧
    (∀ device, (∀ sweep ∈ twoSweeps, Foreign labelled recreatedNode.groups sweep device) →
      ∀ other, InGroup labelled after.groups device other ↔
        InGroup labelled recreatedNode.groups device other) ∧
    ∀ call ∈ after.calls, call ∈ recreatedNode.calls ∨ LoneCall labelled call :=
  sweeps_keep_groups labelled_laws twoSweeps recreatedNode (by decide)

/-! ## A sweep that is not refused -/

/-- Every call does what it is asked for. -/
def granted : Nat → Answer := fun _ => { lookup := true, groupList := true, grouping := .groups }

/-- The plugin asks Indigo to group a device. -/
def Ready {Groups : Type} (indigo : Indigo Groups) (nodeDevice : DeviceId) (family : List DeviceId)
    (groups : Groups) (device : DeviceId) : Prop :=
  device ≠ nodeDevice ∧ indigo.devices device = true ∧
    nodeDevice ∉ indigo.getGroupList groups device ∧
    (Alone indigo groups device ∨
      Alone indigo groups nodeDevice ∧ ∀ member ∈ indigo.getGroupList groups device, member ∈ family)

instance {Groups : Type} (indigo : Indigo Groups) (nodeDevice : DeviceId) (family : List DeviceId)
    (groups : Groups) (device : DeviceId) :
    Decidable (Ready indigo nodeDevice family groups device) :=
  inferInstanceAs (Decidable (_ ∧ _ ∧ _ ∧ (_ ∨ _ ∧ _)))

section Granted

variable {Groups : Type} {indigo : Indigo Groups} {nodeDevice : DeviceId} {family : List DeviceId}
  {sweep start : Sweep Groups}

/-- One device of a sweep that is not refused. -/
inductive Settled (indigo : Indigo Groups) (nodeDevice : DeviceId) (family : List DeviceId)
    (device : DeviceId) (before after : Sweep Groups) : Prop
  | ready {first second : DeviceId} (ready : Ready indigo nodeDevice family before.groups device)
      (may : MayGroup indigo nodeDevice family before.groups device first second)
      (groups : after.groups = indigo.groupWithDevice before.groups first second)
  | idle (notReady : ¬ Ready indigo nodeDevice family before.groups device)
      (groups : after.groups = before.groups) (calls : after.calls = before.calls)

theorem wp_tryGroupList_granted (device : DeviceId) :
    wp (tryGroupList indigo granted device)
      (fun found after => found = some (indigo.getGroupList sweep.groups device) ∧
        after.groups = sweep.groups ∧ after.calls = sweep.calls)
      (fun _ _ => False) sweep := by
  simp [tryGroupList, getGroupList, nextAnswer, granted]

theorem wp_groupAndVerify_granted {device : DeviceId} (first second : DeviceId) :
    wp (groupAndVerify indigo granted device nodeDevice first second)
      (fun _ after => after.groups = indigo.groupWithDevice sweep.groups first second)
      (fun _ _ => False) sweep := by
  simp only [groupAndVerify, groupWithDevice, nextAnswer, granted, wp_bind, wp_tryCatch, wp_get,
    wp_set, wp_pure, if_true]
  apply wp_mono (wp_tryGroupList_granted device)
  · rintro _ read ⟨rfl, groups, _⟩
    by_cases inside : nodeDevice ∈ indigo.getGroupList
        (indigo.groupWithDevice sweep.groups first second) device
    · simp only [inside, not_true, if_false]
      exact groups
    · simp only [inside, not_false_eq_true, if_true]
      apply wp_mono (wp_groupWarn device .verify)
      · exact fun _ _ warned => warned.1.trans groups
      · exact fun _ _ never => never
  · exact fun _ _ never => never

theorem settled_groupOne (device : DeviceId) :
    wp (groupOne indigo granted nodeDevice family device)
      (fun _ after => Settled indigo nodeDevice family device sweep after) (fun _ _ => False)
      sweep := by
  have idle {after : Sweep Groups}
      (notReady : ¬ Ready indigo nodeDevice family sweep.groups device)
      (groups : after.groups = sweep.groups) (calls : after.calls = sweep.calls) :
      Settled indigo nodeDevice family device sweep after := .idle notReady groups calls
  simp only [groupOne, nextAnswer, granted, wp_bind, wp_get, wp_set, wp_pure, Bool.not_true,
    Bool.false_eq_true, if_false]
  split
  · rename_i known
    simp only [wp_tryCatch, ensureGrouped]
    split
    · rename_i same
      exact idle (fun ready => ready.1 same) rfl rfl
    · rename_i different
      rw [wp_bind]
      apply wp_mono (wp_tryGroupList_granted device)
      · rintro _ read ⟨rfl, groups, calls⟩
        simp only
        split
        · rename_i inside
          exact idle (fun ready => ready.2.2.1 inside) groups calls
        · rename_i apart
          split
          · rename_i many
            have notAlone : ¬ Alone indigo sweep.groups device := Nat.not_le_of_lt many
            split
            · rename_i own
              rw [wp_bind]
              apply wp_mono (wp_tryGroupList_granted nodeDevice)
              · rintro _ later ⟨rfl, laterGroups, laterCalls⟩
                simp only
                split
                · rename_i manyNode
                  rw [groups] at manyNode
                  apply idle _ (laterGroups.trans groups) (laterCalls.trans calls)
                  rintro ⟨_, _, _, alone | ⟨alone, _⟩⟩
                  · exact notAlone alone
                  · exact Nat.not_le_of_lt manyNode alone
                · rename_i aloneNode
                  rw [groups] at aloneNode
                  have alone : Alone indigo sweep.groups nodeDevice := Nat.le_of_not_lt aloneNode
                  have members : ∀ member ∈ indigo.getGroupList sweep.groups device,
                      member ∈ family := by simpa using own
                  apply wp_mono (wp_groupAndVerify_granted nodeDevice device)
                  · intro _ after grouped
                    rw [laterGroups, groups] at grouped
                    exact .ready ⟨different, known, apart, .inr ⟨alone, members⟩⟩
                      (.takingIn alone members) grouped
                  · exact fun _ _ never => never.elim
              · exact fun _ _ never => never.elim
            · rename_i notOwn
              apply wp_mono (wp_groupWarn device .foreign)
              · rintro _ warned ⟨warnedGroups, warnedCalls⟩
                apply idle _ (warnedGroups.trans groups) (warnedCalls.trans calls)
                rintro ⟨_, _, _, alone | ⟨_, own⟩⟩
                · exact notAlone alone
                · exact notOwn (by simpa using own)
              · exact fun _ _ never => never.elim
          · rename_i few
            have alone : Alone indigo sweep.groups device := Nat.le_of_not_lt few
            apply wp_mono (wp_groupAndVerify_granted device nodeDevice)
            · intro _ after grouped
              rw [groups] at grouped
              exact .ready ⟨different, known, apart, .inl alone⟩ (.joining alone) grouped
            · exact fun _ _ never => never.elim
      · exact fun _ _ never => never.elim
  · rename_i unknown
    exact idle (fun ready => unknown ready.2.1) rfl rfl

theorem not_inGroup_iff {groups : Groups} {device : DeviceId} (different : device ≠ nodeDevice) :
    ¬ InGroup indigo groups device nodeDevice ↔
      nodeDevice ∉ indigo.getGroupList groups device := by
  unfold InGroup
  constructor
  · exact fun apart member => apart (.inr member)
  · rintro apart (same | member)
    · exact different same.symm
    · exact apart member

/-- A lone device that is not ready is in the group already. -/
theorem inGroup_of_not_ready (laws : GroupLaws indigo) {groups : Groups} {device : DeviceId}
    (notReady : ¬ Ready indigo nodeDevice family groups device)
    (known : indigo.devices device = true) (alone : Alone indigo groups device) :
    InGroup indigo groups nodeDevice device := by
  by_cases same : device = nodeDevice
  · exact .inl same
  · by_contra apart
    have notMember := (not_inGroup_iff same).mp fun inGroup => apart (laws.symm inGroup)
    exact notReady ⟨same, known, notMember, .inl alone⟩

/-- The node's device is no longer alone once a device has joined it. -/
theorem not_alone_of_inGroup (laws : GroupLaws indigo) {groups : Groups} {device : DeviceId}
    (different : device ≠ nodeDevice) (inGroup : InGroup indigo groups nodeDevice device) :
    ¬ Alone indigo groups nodeDevice := by
  intro alone
  exact different ((laws.alone_iff groups nodeDevice).mp alone device inGroup)

section OneStep

variable {device first second : DeviceId} {groups : Groups}

/-- What is alone after a step and has not joined was alone before, and the other way round. -/
theorem alone_iff_of_grown (laws : GroupLaws indigo) {before after : Groups}
    (grown : Grown indigo nodeDevice family before after) {other : DeviceId}
    (apart : ¬ InGroup indigo after nodeDevice other) :
    Alone indigo after other ↔ Alone indigo before other := by
  rw [laws.alone_iff, laws.alone_iff]
  simp only [grown.outside apart]

/-- One step and then the lone devices of the rest, counted from before the step. -/
theorem join_rest (laws : GroupLaws indigo) {rest : List DeviceId} {before after : Groups}
    (grown : Grown indigo nodeDevice family before after)
    (joined : ∀ other, InGroup indigo after nodeDevice other ↔
      InGroup indigo before nodeDevice other ∨ InGroup indigo before device other)
    (other : DeviceId) :
    InGroup indigo after nodeDevice other ∨
        (other ∈ rest ∧ indigo.devices other = true ∧ Alone indigo after other) ↔
      InGroup indigo before nodeDevice other ∨ InGroup indigo before device other ∨
        (other ∈ rest ∧ indigo.devices other = true ∧ Alone indigo before other) := by
  constructor
  · rintro (inGroup | ⟨member, known, alone⟩)
    · rcases (joined other).mp inGroup with there | new
      · exact .inl there
      · exact .inr (.inl new)
    · exact .inr (.inr ⟨member, known, grown.alone laws alone⟩)
  · rintro (there | new | ⟨member, known, alone⟩)
    · exact .inl ((joined other).mpr (.inl there))
    · exact .inl ((joined other).mpr (.inr new))
    · by_cases inGroup : InGroup indigo after nodeDevice other
      · exact .inl inGroup
      · exact .inr ⟨member, known, (alone_iff_of_grown laws grown inGroup).mpr alone⟩

end OneStep

/-- Once the node's device is not alone, each lone device joins it and no other one does. -/
theorem groupFamily_granted_together (laws : GroupLaws indigo)
    (nodeKnown : indigo.devices nodeDevice = true) {order : List DeviceId}
    (listed : order ⊆ family) (together : ¬ Alone indigo start.groups nodeDevice) :
    wp (groupFamily indigo granted nodeDevice family order)
      (fun _ after => ∀ device, InGroup indigo after.groups nodeDevice device ↔
        InGroup indigo start.groups nodeDevice device ∨
          (device ∈ order ∧ indigo.devices device = true ∧ Alone indigo start.groups device))
      (fun _ _ => False) start := by
  unfold groupFamily
  induction order generalizing start with
  | nil => simp
  | cons head rest ih =>
      rw [List.forM_cons, wp_bind]
      have headListed := listed List.mem_cons_self
      have restListed : rest ⊆ family := fun _ member => listed (List.mem_cons_of_mem _ member)
      apply wp_mono (settled_groupOne head)
      · intro _ middle settled
        cases settled with
        | ready ready may groups =>
            have node := may.node laws nodeKnown ready.2.1 ready.1
            have grown := may.grown laws nodeKnown ready.2.1 ready.1 headListed
            rw [← groups] at node grown
            have headAlone : Alone indigo start.groups head := by
              rcases ready.2.2.2 with alone | ⟨alone, _⟩
              · exact alone
              · exact absurd alone together
            have still : ¬ Alone indigo middle.groups nodeDevice :=
              fun alone => together (grown.alone laws alone)
            apply wp_mono (ih restListed still)
            · intro _ after result device
              rw [result device, join_rest laws grown node]
              have onlyHead : InGroup indigo start.groups head device ↔ device = head :=
                ⟨(laws.alone_iff _ _).mp headAlone device, fun same => .inl same⟩
              rw [onlyHead, List.mem_cons]
              constructor
              · rintro (there | rfl | ⟨member, known, alone⟩)
                · exact .inl there
                · exact .inr ⟨.inl rfl, ready.2.1, headAlone⟩
                · exact .inr ⟨.inr member, known, alone⟩
              · rintro (there | ⟨same | member, known, alone⟩)
                · exact .inl there
                · exact .inr (.inl same)
                · exact .inr (.inr ⟨member, known, alone⟩)
            · exact fun _ _ never => never
        | idle notReady groups calls =>
            rw [← groups] at together notReady
            apply wp_mono (ih restListed together)
            · intro _ after result device
              rw [result device, ← groups, List.mem_cons]
              constructor
              · rintro (there | ⟨member, known, alone⟩)
                · exact .inl there
                · exact .inr ⟨.inr member, known, alone⟩
              · rintro (there | ⟨rfl | member, known, alone⟩)
                · exact .inl there
                · exact .inl (inGroup_of_not_ready laws notReady known alone)
                · exact .inr ⟨member, known, alone⟩
            · exact fun _ _ never => never
      · exact fun _ _ never => never.elim

/-- The devices that end in the group of the node's device: each lone one, and where that
device was alone itself, the whole group of the first device that was ready. -/
def Joins (indigo : Indigo Groups) (nodeDevice : DeviceId) (family order : List DeviceId)
    (groups : Groups) (device : DeviceId) : Prop :=
  InGroup indigo groups nodeDevice device ∨
    (device ∈ order ∧ indigo.devices device = true ∧ Alone indigo groups device) ∨
    (Alone indigo groups nodeDevice ∧
      ∃ first, order.find? (fun other => Ready indigo nodeDevice family groups other) = some first ∧
        InGroup indigo groups first device)

theorem groupFamily_granted (laws : GroupLaws indigo) (nodeKnown : indigo.devices nodeDevice = true)
    {order : List DeviceId} (listed : order ⊆ family) :
    wp (groupFamily indigo granted nodeDevice family order)
      (fun _ after => ∀ device, InGroup indigo after.groups nodeDevice device ↔
        Joins indigo nodeDevice family order start.groups device)
      (fun _ _ => False) start := by
  by_cases alone : Alone indigo start.groups nodeDevice
  · unfold groupFamily
    induction order generalizing start with
    | nil => simp [Joins]
    | cons head rest ih =>
        rw [List.forM_cons, wp_bind]
        have headListed := listed List.mem_cons_self
        have restListed : rest ⊆ family := fun _ member => listed (List.mem_cons_of_mem _ member)
        apply wp_mono (settled_groupOne head)
        · intro _ middle settled
          cases settled with
          | ready ready may groups =>
              have node := may.node laws nodeKnown ready.2.1 ready.1
              have grown := may.grown laws nodeKnown ready.2.1 ready.1 headListed
              rw [← groups] at node grown
              have still : ¬ Alone indigo middle.groups nodeDevice :=
                not_alone_of_inGroup laws ready.1 ((node head).mpr (.inr (.inl rfl)))
              have found : (head :: rest).find? (fun other =>
                  Ready indigo nodeDevice family start.groups other) = some head := by
                simp [ready]
              apply wp_mono (groupFamily_granted_together laws nodeKnown restListed still)
              · intro _ after result device
                rw [result device, join_rest laws grown node, Joins, found, List.mem_cons]
                constructor
                · rintro (there | inGroup | ⟨member, known, lone⟩)
                  · exact .inl there
                  · exact .inr (.inr ⟨alone, head, rfl, inGroup⟩)
                  · exact .inr (.inl ⟨.inr member, known, lone⟩)
                · rintro (there | ⟨rfl | member, known, lone⟩ | ⟨_, first, same, inGroup⟩)
                  · exact .inl there
                  · exact .inr (.inl (.inl rfl))
                  · exact .inr (.inr ⟨member, known, lone⟩)
                  · rw [Option.some.inj same]
                    exact .inr (.inl inGroup)
              · exact fun _ _ never => never
          | idle notReady groups calls =>
              have skipped : (head :: rest).find? (fun other =>
                  Ready indigo nodeDevice family start.groups other) =
                rest.find? fun other => Ready indigo nodeDevice family start.groups other := by
                simp [notReady]
              rw [← groups] at alone notReady
              apply wp_mono (ih restListed alone)
              · intro _ after result device
                rw [result device, Joins, Joins, skipped, groups, List.mem_cons]
                rw [groups] at notReady
                constructor
                · rintro (there | ⟨member, known, lone⟩ | first)
                  · exact .inl there
                  · exact .inr (.inl ⟨.inr member, known, lone⟩)
                  · exact .inr (.inr first)
                · rintro (there | ⟨rfl | member, known, lone⟩ | first)
                  · exact .inl there
                  · exact .inl (inGroup_of_not_ready laws notReady known lone)
                  · exact .inr (.inl ⟨member, known, lone⟩)
                  · exact .inr (.inr first)
              · exact fun _ _ never => never
        · exact fun _ _ never => never.elim
  · apply wp_mono (groupFamily_granted_together laws nodeKnown listed alone)
    · intro _ after result device
      rw [result device, Joins]
      simp [alone]
    · exact fun _ _ never => never

/-- After a sweep that is not refused no device is ready. -/
theorem not_ready_after (laws : GroupLaws indigo) {order : List DeviceId} {before after : Groups}
    (listed : order ⊆ family) (grown : Grown indigo nodeDevice family before after)
    (result : ∀ device, InGroup indigo after nodeDevice device ↔
      Joins indigo nodeDevice family order before device)
    {device : DeviceId} (member : device ∈ order) :
    ¬ Ready indigo nodeDevice family after device := by
  rintro ⟨different, known, apart, movable⟩
  have notIn : ¬ InGroup indigo after nodeDevice device := by
    intro inGroup
    exact (not_inGroup_iff different).mpr apart (laws.symm inGroup)
  have outside : ¬ Joins indigo nodeDevice family order before device :=
    fun joins => notIn ((result device).mpr joins)
  rcases movable with alone | ⟨nodeAlone, own⟩
  · exact outside (.inr (.inl ⟨member, known, grown.alone laws alone⟩))
  · have wasAlone := grown.alone laws nodeAlone
    have notIncluded : ¬ InGroup indigo before device nodeDevice :=
      fun inGroup => outside (.inl (laws.symm inGroup))
    have wasReady : Ready indigo nodeDevice family before device := by
      refine ⟨different, known, (not_inGroup_iff different).mp notIncluded, .inr ⟨wasAlone, ?_⟩⟩
      intro other inList
      rcases grown.mono (.inr inList : InGroup indigo before device other) with rfl | still
      · exact listed member
      · exact own other still
    cases found : order.find? fun other => Ready indigo nodeDevice family before other with
    | none =>
        have never := List.find?_eq_none.mp found device member
        simp [wasReady] at never
    | some first =>
        have firstReady : Ready indigo nodeDevice family before first := by
          simpa using List.find?_some found
        have firstJoins : InGroup indigo after nodeDevice first :=
          (result first).mpr (.inr (.inr ⟨wasAlone, first, found, .inl rfl⟩))
        exact not_alone_of_inGroup laws firstReady.1 firstJoins nodeAlone

/-- Where no device is ready, a sweep makes no call. -/
theorem groupFamily_idle {again : List DeviceId}
    (settled : ∀ device ∈ again, ¬ Ready indigo nodeDevice family start.groups device) :
    wp (groupFamily indigo granted nodeDevice family again)
      (fun _ after => after.groups = start.groups ∧ after.calls = start.calls) (fun _ _ => False)
      start := by
  unfold groupFamily
  apply wp_mono (wp_forM
    (fun rest after => rest ⊆ again ∧ after.groups = start.groups ∧ after.calls = start.calls)
    (fun _ _ => False) ?_ _ start ⟨List.Subset.refl _, rfl, rfl⟩)
  · exact fun _ _ done => done.2
  · exact fun _ _ never => never
  · rintro device rest middle ⟨included, groups, calls⟩
    apply wp_mono (settled_groupOne device)
    · intro _ after step
      cases step with
      | ready ready _ _ =>
          rw [groups] at ready
          exact absurd ready (settled device (included List.mem_cons_self))
      | idle _ sameGroups sameCalls =>
          exact ⟨fun other member => included (List.mem_cons_of_mem _ member),
            sameGroups.trans groups, sameCalls.trans calls⟩
    · exact fun _ _ never => never

end Granted

/-- The exact result of a sweep that is not refused, in any order of the devices; and no later
sweep over these devices finds anything left to group. -/
theorem sweep_settles {Groups : Type} {indigo : Indigo Groups} (laws : GroupLaws indigo)
    (nodeDevice : DeviceId) (family order : List DeviceId) (start : Sweep Groups)
    (nodeKnown : indigo.devices nodeDevice = true) (listed : order ⊆ family) :
    let after := finalState (groupFamily indigo granted nodeDevice family order start)
    (∀ device, InGroup indigo after.groups nodeDevice device ↔
      Joins indigo nodeDevice family order start.groups device) ∧
    ∀ again, again ⊆ order →
      (finalState (groupFamily indigo granted nodeDevice family again after)).groups =
          after.groups ∧
        (finalState (groupFamily indigo granted nodeDevice family again after)).calls =
          after.calls := by
  apply final_of_wp fun after : Sweep Groups =>
    (∀ device, InGroup indigo after.groups nodeDevice device ↔
      Joins indigo nodeDevice family order start.groups device) ∧
    ∀ again, again ⊆ order →
      (finalState (groupFamily indigo granted nodeDevice family again after)).groups =
          after.groups ∧
        (finalState (groupFamily indigo granted nodeDevice family again after)).calls = after.calls
  apply wp_mono (wp_and (groupFamily_granted laws nodeKnown listed)
    (grown_groupFamily laws nodeKnown listed))
  · rintro _ after ⟨result, grown, _⟩
    refine ⟨result, ?_⟩
    intro again included
    have settled : ∀ device ∈ again, ¬ Ready indigo nodeDevice family after.groups device :=
      fun device member => not_ready_after laws listed grown result (included member)
    apply final_of_wp fun later : Sweep Groups =>
      later.groups = after.groups ∧ later.calls = after.calls
    apply wp_mono (groupFamily_idle settled)
    · exact fun _ _ same => same
    · exact fun _ _ never => never.elim
  · exact fun _ _ never => never.1.elim

/-- Which device comes first decides whether the group of the other two is taken in. -/
example :
    labelled.getGroupList (finalState
        (groupFamily labelled granted 4 [1, 2, 3, 4] [1, 2, 3] recreatedNode)).groups 4 =
      [1, 2, 3, 4] ∧
    labelled.getGroupList (finalState
        (groupFamily labelled granted 4 [1, 2, 3, 4] [3, 1, 2] recreatedNode)).groups 4 =
      [3, 4] := by
  decide +kernel

theorem sweep_settles_recreatedNode :
    let after := finalState (groupFamily labelled granted 4 [1, 2, 3, 4] [3, 1, 2] recreatedNode)
    (∀ device, InGroup labelled after.groups 4 device ↔
      Joins labelled 4 [1, 2, 3, 4] [3, 1, 2] recreatedNode.groups device) ∧
    ∀ again, again ⊆ [3, 1, 2] →
      (finalState (groupFamily labelled granted 4 [1, 2, 3, 4] again after)).groups =
          after.groups ∧
        (finalState (groupFamily labelled granted 4 [1, 2, 3, 4] again after)).calls =
          after.calls :=
  sweep_settles labelled_laws 4 [1, 2, 3, 4] [3, 1, 2] recreatedNode (by decide) (by decide)

end IndigoMatter.Plugin.DeviceGroups
