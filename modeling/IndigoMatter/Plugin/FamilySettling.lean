import Mathlib.Algebra.Order.BigOperators.Group.List
import Mathlib.Data.Prod.Lex
import Mathlib.Order.OrderIsoNat
import IndigoMatter.Plugin.FamilyTrueUp

/-!
# The names of a family settle

A pass reads the base from the names the devices have, and names them by it.  Each change
leaves less to do: a device that is created is no longer missing, one that is renamed is
called as the pass wants it.  Between passes the votes can change the base itself, but a
device that has been renamed votes for the base it was renamed to, or for the fallback, or
not at all; so the votes only lose ranks.  Whatever Indigo refuses in the meantime, passes
that are repeated come to an end of their changes.
-/

namespace IndigoMatter.Plugin

open IndigoMatter.Library

namespace NamedWorld

/-- Indigo does not reuse an id it has given to a device with a name. -/
structure Consistent (world : NamedWorld) : Prop where
  plugin : world.plugin.Consistent
  named : ∀ device ∈ world.names.keys, device < world.plugin.nextId

/-- Nothing a user sees of the devices is different. -/
structure Unchanged (before after : NamedWorld) : Prop where
  names : after.names = before.names
  indigo : after.plugin.indigo = before.plugin.indigo
  index : after.plugin.sync.index = before.plugin.sync.index

/-! ## Slots of the index -/

section Slots

variable {str : PyJson → String} {node : NodeInfo} {plan : List (EndpointId × TypeId)}
  {derived : Option Text} {world after : NamedWorld} {entry other : EndpointId × TypeId}
  {device : DeviceId} {record : NameRecord}

theorem Consistent.eq_of_slot (consistent : world.Consistent)
    (first : world.slot node entry = some device) (second : world.slot node other = some device) :
    entry = other := by
  have same := consistent.plugin.located.unique first second
  exact Prod.ext same.2.1 same.2.2

theorem slot_create (world : NamedWorld) (node : NodeInfo) (entry other : EndpointId × TypeId)
    (pass : PrimePass) (names : InsertionMap DeviceId NameRecord) :
    NamedWorld.slot
        ⟨(world.plugin.create node.nodeId entry.1 entry.2).prime node pass, names⟩ node other =
      if other = entry then some world.plugin.nextId else world.slot node other := by
  have created := PluginWorld.get?_create world.plugin node.nodeId entry.1 entry.2 node.nodeId
    other.1 other.2
  simp only [true_and] at created
  refine created.trans ?_
  by_cases same : other = entry
  · rw [if_pos same, same, if_pos ⟨rfl, rfl⟩]
  · rw [if_neg same, if_neg fun both => same (Prod.ext both.1 both.2)]
    rfl

theorem Alters.consistent (alters : Alters str node plan derived world after)
    (consistent : world.Consistent) : after.Consistent := by
  cases alters with
  | creates listed missing pass record =>
      refine ⟨consistent.plugin.create node _ _ pass, ?_⟩
      intro device present
      rcases InsertionMap.mem_keys_set.mp present with rfl | earlier
      · exact Nat.lt_succ_self _
      · exact (consistent.named device earlier).trans (Nat.lt_succ_self _)
  | renames agreed planned stored unlabelled found differs generated =>
      exact ⟨consistent.plugin, by
        simpa only [InsertionMap.keys_set_of_get? found] using consistent.named⟩
  | nodeDevice agreed stored found moves change =>
      exact ⟨consistent.plugin, by
        simpa only [InsertionMap.keys_set_of_get? found] using consistent.named⟩

end Slots

/-! ## What is left to do -/

/-- How many devices of a node are not there yet. -/
def missing (node : NodeInfo) (plan : List (EndpointId × TypeId)) (world : NamedWorld) : Nat :=
  ((nodeEntry :: plan).map fun entry => if world.slot node entry = none then 1 else 0).sum

/-- How much of a device is not as a pass with a base wants it. -/
def distance (str : PyJson → String) (node : NodeInfo) (plan : List (EndpointId × TypeId))
    (base : Text) (entry : EndpointId × TypeId) (record : NameRecord) : Nat :=
  if entry = nodeEntry then
    (if record.name = base then 0 else 1) + (if record.nodeBaseName = some base then 0 else 1)
  else if record.name = node.endpointName str plan (some base) entry then 0 else 1

/-- How much of the devices that are there is not as a pass with a base wants it. -/
def unsettled (str : PyJson → String) (node : NodeInfo) (plan : List (EndpointId × TypeId))
    (base : Text) (world : NamedWorld) : Nat :=
  ((nodeEntry :: plan).map fun entry =>
    match (world.slot node entry).bind world.names.get? with
    | some record => distance str node plan base entry record
    | none => 0).sum

section Progress

variable {str : PyJson → String} {node : NodeInfo} {plan : List (EndpointId × TypeId)}
  {derived : Option Text} {world middle after : NamedWorld} {entry : EndpointId × TypeId}
  {device : DeviceId} {record next : NameRecord} {base fallback vote : Text}

theorem missing_create (listed : entry ∈ nodeEntry :: plan) (vacant : world.slot node entry = none)
    (pass : PrimePass) (names : InsertionMap DeviceId NameRecord) :
    missing node plan ⟨(world.plugin.create node.nodeId entry.1 entry.2).prime node pass, names⟩ <
      missing node plan world := by
  apply List.sum_lt_sum
  · intro other _
    simp only [slot_create]
    by_cases same : other = entry
    · simp [same]
    · rw [if_neg same]
  · refine ⟨entry, listed, ?_⟩
    simp [slot_create, vacant]

/-- A change of one device that brings it closer leaves less to do. -/
theorem unsettled_set (consistent : world.Consistent) (listed : entry ∈ nodeEntry :: plan)
    (stored : world.slot node entry = some device) (found : world.names.get? device = some record)
    (closer : distance str node plan base entry next < distance str node plan base entry record) :
    unsettled str node plan base { world with names := world.names.set device next } <
      unsettled str node plan base world := by
  have slots (other : EndpointId × TypeId) :
      NamedWorld.slot { world with names := world.names.set device next } node other =
        world.slot node other := rfl
  apply List.sum_lt_sum
  · intro other _
    rw [slots]
    cases place : world.slot node other with
    | none => exact le_rfl
    | some stands =>
        simp only [Option.bind_some, InsertionMap.get?_set]
        by_cases same : stands = device
        · rw [same] at place
          rw [consistent.eq_of_slot place stored, if_pos same, same, found]
          exact closer.le
        · rw [if_neg same]
  · refine ⟨entry, listed, ?_⟩
    rw [slots, stored]
    simpa only [Option.bind_some, InsertionMap.get?_set_self, found] using closer

theorem mem_votes :
    vote ∈ world.votes node fallback ↔
      ∃ entry device record, entry.1 ≠ 0 ∧ world.slot node entry = some device ∧
        world.names.get? device = some record ∧ castVote fallback entry.2 record.name = some vote := by
  simp only [votes, List.mem_flatMap, List.mem_filter, List.mem_filterMap, Bool.and_eq_true,
    decide_eq_true_eq, Option.bind_eq_some_iff]
  constructor
  · rintro ⟨⟨⟨nodeId, endpointId⟩, types⟩, ⟨indexed, rfl, endpoint⟩, ⟨typeId, device⟩, held,
      record, found, voted⟩
    refine ⟨(endpointId, typeId), device, record, endpoint, ?_, found, voted⟩
    simp only [slot, DeviceIndex.typeMap, InsertionMap.mem_entries_iff.mp indexed, Option.getD_some]
    exact InsertionMap.mem_entries_iff.mp held
  · rintro ⟨⟨endpointId, typeId⟩, device, record, endpoint, stored, found, voted⟩
    simp only [slot, DeviceIndex.typeMap] at stored
    cases indexed : world.plugin.sync.index.get? (node.nodeId, endpointId) with
    | none =>
        rw [indexed] at stored
        cases stored
    | some types =>
        rw [indexed, Option.getD_some] at stored
        exact ⟨((node.nodeId, endpointId), types), ⟨InsertionMap.mem_entries_iff.mpr indexed, rfl,
          endpoint⟩, (typeId, device), InsertionMap.mem_entries_iff.mpr stored, record, found, voted⟩

/-- What some changes of a pass come to: a device that was missing is there, or less of the
devices is not as the pass wants it, and every new vote is for its base or weak. -/
inductive Progress (str : PyJson → String) (node : NodeInfo) (plan : List (EndpointId × TypeId))
    (derived : Option Text) (world after : NamedWorld) : Prop
  | created (fewer : missing node plan after < missing node plan world)
  | named (base : Text) (agreed : derived = some base) (plugin : after.plugin = world.plugin)
      (closer : unsettled str node plan base after < unsettled str node plan base world)
      (voted : ∀ vote ∈ after.votes node (node.fallbackBase str),
        vote ∈ world.votes node (node.fallbackBase str) ∨ vote = base ∨
          vote = node.fallbackBase str)

theorem missing_congr (node : NodeInfo) (plan : List (EndpointId × TypeId))
    (plugin : after.plugin = world.plugin) :
    missing node plan after = missing node plan world := by
  unfold missing slot
  rw [plugin]

theorem Progress.trans (first : Progress str node plan derived world middle)
    (second : Progress str node plan derived middle after) :
    Progress str node plan derived world after := by
  cases first with
  | created fewer =>
      cases second with
      | created fewerStill => exact .created (fewerStill.trans fewer)
      | named base agreed plugin closer voted =>
          exact .created (missing_congr node plan plugin ▸ fewer)
  | named base agreed plugin closer voted =>
      cases second with
      | created fewer => exact .created (missing_congr node plan plugin ▸ fewer)
      | named other agreedToo pluginToo closerStill votedToo =>
          obtain rfl := Option.some.inj (agreed.symm.trans agreedToo)
          refine .named base agreed (pluginToo.trans plugin) (closerStill.trans closer) ?_
          intro vote member
          rcases votedToo vote member with earlier | new
          · exact voted vote earlier
          · exact .inr new

/-- The types a plan has for the endpoints of a node. -/
structure IsPlan (plan : List (EndpointId × TypeId)) : Prop where
  role : ∀ entry ∈ plan, RoleText (roleLabel entry.2)
  endpoint : ∀ entry ∈ plan, entry.2 ≠ "matterNode"

theorem IsPlan.ne_nodeEntry (isPlan : IsPlan plan) (planned : entry ∈ plan) :
    entry ≠ nodeEntry := by
  rintro rfl
  exact isPlan.endpoint nodeEntry planned rfl

/-- Only the votes of the device that is changed are new. -/
theorem mem_votes_set (consistent : world.Consistent) (stored : world.slot node entry = some device)
    (voted : vote ∈ NamedWorld.votes { world with names := world.names.set device next } node
      fallback) :
    vote ∈ world.votes node fallback ∨
      (entry.1 ≠ 0 ∧ castVote fallback entry.2 next.name = some vote) := by
  rcases mem_votes.mp voted with ⟨other, stands, record, endpoint, place, found, cast_⟩
  have placed : world.slot node other = some stands := place
  rw [InsertionMap.get?_set] at found
  split at found
  · rename_i same
    right
    rw [same] at placed
    rw [← consistent.eq_of_slot placed stored, Option.some.inj found]
    exact ⟨endpoint, cast_⟩
  · exact .inl (mem_votes.mpr ⟨other, stands, record, endpoint, placed, found, cast_⟩)

theorem NodeChange.distance_lt (change : NodeChange base fallback record next)
    (moves : next ≠ record) :
    distance str node plan base nodeEntry next < distance str node plan base nodeEntry record := by
  unfold distance
  rw [if_pos rfl, if_pos rfl, if_pos change.name]
  by_cases named : record.name = base
  · have restamped : next.nodeBaseName ≠ record.nodeBaseName := by
      intro kept
      apply moves
      cases record
      cases next
      exact congrArg₂ NameRecord.mk (change.name.trans named.symm) kept
    have stamp : next.nodeBaseName = some base := change.stamp.resolve_left restamped
    have before : record.nodeBaseName ≠ some base := fun equal => restamped (stamp.trans equal.symm)
    rw [if_pos stamp, if_pos named, if_neg before]
    exact Nat.zero_lt_one
  · rw [if_neg named]
    rcases change.stamp with kept | stamped
    · rw [kept]
      omega
    · rw [if_pos stamped]
      omega

theorem Alters.progress (isPlan : IsPlan plan) (consistent : world.Consistent)
    (alters : Alters str node plan derived world after) :
    Progress str node plan derived world after := by
  cases alters with
  | creates listed missing pass record => exact .created (missing_create listed missing pass _)
  | @renames entry device record base agreed planned stored unlabelled found differs generated =>
      subst agreed
      refine .named base rfl rfl ?_ ?_
      · apply unsettled_set consistent (List.mem_cons_of_mem _ planned) stored found
        unfold distance
        rw [if_neg (isPlan.ne_nodeEntry planned), if_neg (isPlan.ne_nodeEntry planned), if_pos rfl,
          if_neg differs]
        exact Nat.zero_lt_one
      · intro vote voted
        rcases mem_votes_set consistent stored voted with earlier | ⟨_, new⟩
        · exact .inl earlier
        · exact .inr (castVote_endpointName (isPlan.role entry planned) unlabelled new)
  | @nodeDevice device record next base agreed stored found moves change =>
      refine .named base agreed rfl ?_ ?_
      · exact unsettled_set consistent List.mem_cons_self stored found (change.distance_lt moves)
      · intro vote voted
        rcases mem_votes_set consistent stored voted with earlier | ⟨endpoint, _⟩
        · exact .inl earlier
        · exact absurd rfl endpoint

theorem Reaches.consistent (reaches : Reaches str node plan derived world after)
    (consistent : world.Consistent) : after.Consistent := by
  induction reaches with
  | refl => exact consistent
  | tail _ alters ih => exact alters.consistent ih

theorem Reaches.progress (isPlan : IsPlan plan) (consistent : world.Consistent)
    (reaches : Reaches str node plan derived world after) :
    after = world ∨ Progress str node plan derived world after := by
  induction reaches with
  | refl => exact .inl rfl
  | tail earlier alters ih =>
      have last := alters.progress isPlan (Reaches.consistent earlier consistent)
      rcases ih with rfl | progress
      · exact .inr last
      · exact .inr (progress.trans last)

end Progress

/-! ## A pass -/

section Pass

variable {str : PyJson → String} {node : NodeInfo} {plan : List (EndpointId × TypeId)}
  {world after : NamedWorld}

/-- The order in which passes have less to do: devices that are missing count most, then the
votes, then the names. -/
def remaining (str : PyJson → String) (node : NodeInfo) (plan : List (EndpointId × TypeId))
    (world : NamedWorld) : ℕ ×ₗ ℕ ×ₗ ℕ :=
  toLex (missing node plan world,
    toLex (voteRank (node.fallbackBase str) (world.votes node (node.fallbackBase str)),
      match world.deriveFamilyBase str node with
      | some base => unsettled str node plan base world
      | none => 0))

theorem remaining_congr (unchanged : Unchanged world after) :
    remaining str node plan after = remaining str node plan world := by
  unfold remaining missing unsettled deriveFamilyBase votes slot
  rw [unchanged.names, unchanged.index]

/-- The changes of a pass leave less to do. -/
theorem Progress.remaining_lt
    (progress : Progress str node plan (world.deriveFamilyBase str node) world after) :
    remaining str node plan after < remaining str node plan world := by
  unfold remaining
  rw [Prod.Lex.toLex_lt_toLex]
  cases progress with
  | created fewer => exact .inl fewer
  | named base agreed plugin closer voted =>
      right
      refine ⟨missing_congr node plan plugin, ?_⟩
      rw [Prod.Lex.toLex_lt_toLex]
      rcases voteRank_of_agreed agreed voted with lower | ⟨same, kept⟩
      · exact .inl lower
      · refine .inr ⟨same, ?_⟩
        have derivedAfter : after.deriveFamilyBase str node = some base := kept
        simp only [derivedAfter, agreed]
        exact closer

/-- The world a pass carries its plan out on. -/
def recorded (world : NamedWorld) (node : NodeInfo) : NamedWorld :=
  { world with plugin := { world.plugin with sync := world.plugin.sync.recordNode node } }

theorem unchanged_recorded (world : NamedWorld) (node : NodeInfo) :
    Unchanged world (world.recorded node) :=
  ⟨rfl, rfl, DeviceSync.recordNode_index _ _⟩

theorem Consistent.recorded (consistent : world.Consistent) (node : NodeInfo) :
    (world.recorded node).Consistent where
  plugin := by
    constructor
    · have located := consistent.plugin.located
      unfold NamedWorld.recorded
      simpa using located
    · exact consistent.plugin.existing_lt
  named := consistent.named

theorem isPlan_plan (sync : DeviceSync) (node : NodeInfo) : IsPlan (sync.plan node) where
  role := fun _ planned => roleText_of_mem_plan planned
  endpoint := fun _ planned => PluginWorld.ne_matterNode_of_mem_plan planned

theorem deriveFamilyBase_recorded (world : NamedWorld) :
    (world.recorded node).deriveFamilyBase str node = world.deriveFamilyBase str node := by
  unfold deriveFamilyBase votes
  rw [(unchanged_recorded world node).names, (unchanged_recorded world node).index]

/-- A pass does nothing, or it reaches what it leaves by changes alone. -/
theorem createDevices_cases (str : PyJson → String) (node : NodeInfo) (answers : Answers)
    (world : NamedWorld) :
    world.createDevices str answers node = world ∨
      Reaches str node ((world.plugin.sync.recordNode node).plan node)
        (world.deriveFamilyBase str node) (world.recorded node)
        (world.createDevices str answers node) := by
  unfold createDevices
  split
  · exact .inl rfl
  · split
    · exact .inl rfl
    · exact .inr reaches_carryOut

theorem Consistent.createDevices (consistent : world.Consistent) (answers : Answers)
    (node : NodeInfo) : (world.createDevices str answers node).Consistent := by
  rcases createDevices_cases str node answers world with idle | reaches
  · rw [idle]
    exact consistent
  · exact Reaches.consistent reaches (consistent.recorded node)

/-- A pass changes nothing a user sees, or leaves less to do. -/
theorem remaining_createDevices (derived : node.Derived) (consistent : world.Consistent)
    (answers : Answers) (sync : DeviceSync) :
    Unchanged world (world.createDevices str answers node) ∨
      remaining str node ((sync.recordNode node).plan node)
          (world.createDevices str answers node) <
        remaining str node ((sync.recordNode node).plan node) world := by
  rcases createDevices_cases str node answers world with idle | reaches
  · rw [idle]
    exact .inl ⟨rfl, rfl, rfl⟩
  · rw [plan_recordNode derived sync world.plugin.sync]
    rcases Reaches.progress (isPlan_plan _ node) (consistent.recorded node) reaches with
      idle | progress
    · rw [idle]
      exact .inl (unchanged_recorded world node)
    · right
      rw [← deriveFamilyBase_recorded] at progress
      exact progress.remaining_lt.trans_eq (remaining_congr (unchanged_recorded world node))

/-! ## Passes that are repeated -/

/-- The world after so many passes, each with its own answers of Indigo. -/
def repeated (str : PyJson → String) (node : NodeInfo) (answers : ℕ → Answers)
    (start : NamedWorld) : ℕ → NamedWorld
  | 0 => start
  | count + 1 => (repeated str node answers start count).createDevices str (answers count) node

theorem Consistent.repeated (consistent : world.Consistent) (answers : ℕ → Answers) (count : ℕ) :
    (world.repeated str node answers count).Consistent := by
  induction count with
  | zero => exact consistent
  | succ count ih => exact ih.createDevices (answers count) node

/-- Whatever Indigo refuses, there is a pass from which on none changes anything. -/
theorem exists_unchanged (derived : node.Derived) (consistent : world.Consistent)
    (answers : ℕ → Answers) :
    ∃ settled, ∀ count, settled ≤ count →
      Unchanged (world.repeated str node answers settled) (world.repeated str node answers count) := by
  let left (count : ℕ) : ℕ ×ₗ ℕ ×ₗ ℕ :=
    remaining str node ((world.plugin.sync.recordNode node).plan node)
      (world.repeated str node answers count)
  have moves (count : ℕ) :
      Unchanged (world.repeated str node answers count) (world.repeated str node answers (count + 1)) ∨
        left (count + 1) < left count :=
    remaining_createDevices derived (consistent.repeated answers count) (answers count)
      world.plugin.sync
  have antitone : Antitone left := by
    apply antitone_nat_of_succ_le
    intro count
    rcases moves count with unchanged | less
    · exact (remaining_congr unchanged).le
    · exact less.le
  rcases WellFoundedLT.antitone_chain_condition antitone with ⟨settled, constant⟩
  refine ⟨settled, ?_⟩
  intro count later
  induction count, later using Nat.le_induction with
  | base => exact ⟨rfl, rfl, rfl⟩
  | succ count later ih =>
      rcases moves count with unchanged | less
      · exact ⟨unchanged.names.trans ih.names, unchanged.indigo.trans ih.indigo,
          unchanged.index.trans ih.index⟩
      · rw [← constant count later, ← constant (count + 1) (later.trans (Nat.le_succ count))] at less
        exact absurd less (lt_irrefl _)

end Pass

/-! ## What becomes of a name -/

section Names

variable {str : PyJson → String} {node : NodeInfo} {plan : List (EndpointId × TypeId)}
  {derived : Option Text} {start world after : NamedWorld} {device : DeviceId}
  {record middle next : NameRecord}

/-- What a pass makes of the name of a device that is there: it stays; or an endpoint device
with a name generated from the base or the fallback takes the name the pass wants; or the node
device changes. -/
inductive Becomes (str : PyJson → String) (node : NodeInfo) (plan : List (EndpointId × TypeId))
    (derived : Option Text) (start : NamedWorld) (device : DeviceId) (record : NameRecord) :
    NameRecord → Prop
  | same : Becomes str node plan derived start device record record
  | renamed {entry : EndpointId × TypeId} {base : Text} (agreed : derived = some base)
      (planned : entry ∈ plan) (stored : start.slot node entry = some device)
      (unlabelled : node.bridgeLabel str entry.1 = [])
      (generated : (isGeneratedName record.name base (roleLabel entry.2) ||
        isGeneratedName record.name (node.fallbackBase str) (roleLabel entry.2)) = true) :
      Becomes str node plan derived start device record
        { record with name := node.endpointName str plan derived entry }
  | nodeDevice {next : NameRecord} {base : Text} (agreed : derived = some base)
      (stored : start.slot node nodeEntry = some device)
      (change : NodeChange base (node.fallbackBase str) record next) :
      Becomes str node plan derived start device record next

/-- The slots of a device with a name are not new. -/
theorem Alters.slot_old (alters : Alters str node plan derived world after)
    (consistent : world.Consistent) (present : world.names.get? device = some record)
    {entry : EndpointId × TypeId} (stored : after.slot node entry = some device) :
    world.slot node entry = some device := by
  cases alters with
  | creates listed missing pass created =>
      rw [slot_create] at stored
      split at stored
      · obtain rfl := Option.some.inj stored
        exact absurd (consistent.named _ (InsertionMap.mem_keys_iff.mpr ⟨record, present⟩))
          (lt_irrefl _)
      · exact stored
  | renames agreed planned _ unlabelled found differs generated => exact stored
  | nodeDevice agreed _ found moves change => exact stored

/-- One change more. -/
theorem Becomes.step (isPlan : IsPlan plan) (consistentStart : start.Consistent)
    (consistent : world.Consistent)
    (old : ∀ entry, world.slot node entry = some device → start.slot node entry = some device)
    (becomes : Becomes str node plan derived start device record middle)
    (alters : Alters str node plan derived world after)
    (present : world.names.get? device = some middle) :
    ∃ next, after.names.get? device = some next ∧
      Becomes str node plan derived start device record next := by
  cases alters with
  | creates listed missing pass created =>
      refine ⟨middle, ?_, becomes⟩
      rw [InsertionMap.get?_set, if_neg]
      · exact present
      · rintro rfl
        exact lt_irrefl _ (consistent.named _ (InsertionMap.mem_keys_iff.mpr ⟨middle, present⟩))
  | @renames entry other found base agreed planned stored unlabelled stands differs generated =>
      by_cases own : device = other
      · subst own
        obtain rfl := Option.some.inj (present.symm.trans stands)
        refine ⟨_, InsertionMap.get?_set_self _ _ _, ?_⟩
        have place := old entry stored
        cases becomes with
        | same => exact .renamed agreed planned place unlabelled generated
        | renamed _ _ earlierPlace _ _ =>
            rw [consistentStart.eq_of_slot earlierPlace place] at differs
            exact absurd rfl differs
        | nodeDevice _ earlierPlace _ =>
            exact absurd (consistentStart.eq_of_slot place earlierPlace)
              (isPlan.ne_nodeEntry planned)
      · exact ⟨middle, by rw [InsertionMap.get?_set, if_neg own, present], becomes⟩
  | @nodeDevice other found next base agreed stored stands moves change =>
      by_cases own : device = other
      · subst own
        obtain rfl := Option.some.inj (present.symm.trans stands)
        refine ⟨next, InsertionMap.get?_set_self _ _ _, ?_⟩
        have place := old nodeEntry stored
        cases becomes with
        | same => exact .nodeDevice agreed place change
        | renamed _ planned earlierPlace _ _ =>
            exact absurd (consistentStart.eq_of_slot earlierPlace place)
              (isPlan.ne_nodeEntry planned)
        | nodeDevice earlierAgreed _ earlier =>
            obtain rfl := Option.some.inj (agreed.symm.trans earlierAgreed)
            exact .nodeDevice agreed place (earlier.trans change)
      · exact ⟨middle, by rw [InsertionMap.get?_set, if_neg own, present], becomes⟩

theorem Becomes.ofReaches (isPlan : IsPlan plan) (consistent : world.Consistent)
    (reaches : Reaches str node plan derived world after)
    (present : world.names.get? device = some record) :
    (∃ next, after.names.get? device = some next ∧
        Becomes str node plan derived world device record next) ∧
      ∀ entry, after.slot node entry = some device → world.slot node entry = some device := by
  induction reaches with
  | refl => exact ⟨⟨record, present, .same⟩, fun _ stored => stored⟩
  | tail earlier alters ih =>
      rcases ih with ⟨⟨middle, found, becomes⟩, old⟩
      have reached := Reaches.consistent earlier consistent
      exact ⟨becomes.step isPlan consistent reached old alters found,
        fun entry stored => old entry (alters.slot_old reached found stored)⟩

theorem slot_recorded (world : NamedWorld) (entry : EndpointId × TypeId) :
    (world.recorded node).slot node entry = world.slot node entry := by
  unfold slot
  rw [(unchanged_recorded world node).index]

theorem Becomes.ofRecorded
    (becomes : Becomes str node plan derived (world.recorded node) device record next) :
    Becomes str node plan derived world device record next := by
  cases becomes with
  | same => exact .same
  | renamed agreed planned stored unlabelled generated =>
      rw [slot_recorded] at stored
      exact .renamed agreed planned stored unlabelled generated
  | nodeDevice agreed stored change =>
      rw [slot_recorded] at stored
      exact .nodeDevice agreed stored change

/-- What a pass makes of the name of a device. -/
theorem becomes_createDevices (consistent : world.Consistent) (answers : Answers)
    (present : world.names.get? device = some record)
    (changed : (world.createDevices str answers node).names.get? device = some next) :
    Becomes str node ((world.plugin.sync.recordNode node).plan node)
      (world.deriveFamilyBase str node) world device record next := by
  rcases createDevices_cases str node answers world with idle | reaches
  · rw [idle] at changed
    obtain rfl := Option.some.inj (present.symm.trans changed)
    exact .same
  · rcases (Becomes.ofReaches (isPlan_plan _ node) (consistent.recorded node) reaches present).1
      with ⟨found, there, becomes⟩
    obtain rfl := Option.some.inj (there.symm.trans changed)
    exact becomes.ofRecorded

/-- A device whose name is the plugin's own: an endpoint device that does not name itself, by
the base of the family or the fallback; or the node device, by the base it carries or else the
fallback. -/
def HasOwnName (str : PyJson → String) (node : NodeInfo) (base : Text) (world : NamedWorld)
    (device : DeviceId) (record : NameRecord) : Prop :=
  (∃ entry, world.slot node entry = some device ∧ node.bridgeLabel str entry.1 = [] ∧
    (isGeneratedName record.name base (roleLabel entry.2) ||
      isGeneratedName record.name (node.fallbackBase str) (roleLabel entry.2)) = true) ∨
  (world.slot node nodeEntry = some device ∧
    isGeneratedName record.name (stampedBase record (node.fallbackBase str)) [] = true)

theorem Becomes.hasOwnName
    (becomes : Becomes str node plan derived start device record next)
    (renamed : next.name ≠ record.name) :
    ∃ base, derived = some base ∧ HasOwnName str node base start device record := by
  cases becomes with
  | same => exact absurd rfl renamed
  | @renamed entry base agreed planned stored unlabelled generated =>
      exact ⟨base, agreed, .inl ⟨entry, stored, unlabelled, generated⟩⟩
  | @nodeDevice _ base agreed stored change =>
      refine ⟨base, agreed, .inr ⟨stored, change.origin.resolve_left ?_⟩⟩
      exact fun same => renamed (change.name.trans same.symm)

theorem Becomes.stamped
    (becomes : Becomes str node plan derived start device record next)
    (moved : next.nodeBaseName ≠ record.nodeBaseName) :
    derived = some next.name ∧ next.nodeBaseName = some next.name := by
  cases becomes with
  | same => exact absurd rfl moved
  | renamed agreed planned stored unlabelled generated => exact absurd rfl moved
  | nodeDevice agreed stored change =>
      rw [change.name]
      exact ⟨agreed, change.stamp.resolve_left moved⟩

end Names

/-! ## Names that do not vote -/

/-- A device whose names do not vote has no say in the base. -/
theorem deriveFamilyBase_set_silent {str : PyJson → String} {node : NodeInfo} {world : NamedWorld}
    (consistent : world.Consistent) {entry : EndpointId × TypeId} {device : DeviceId}
    (stored : world.slot node entry = some device) {first second : NameRecord}
    (silent : castVote (node.fallbackBase str) entry.2 first.name = none)
    (alsoSilent : castVote (node.fallbackBase str) entry.2 second.name = none) :
    deriveFamilyBase str { world with names := world.names.set device first } node =
      deriveFamilyBase str { world with names := world.names.set device second } node := by
  have same : votes { world with names := world.names.set device first } node
      (node.fallbackBase str) =
        votes { world with names := world.names.set device second } node
          (node.fallbackBase str) := by
    unfold votes
    apply List.flatMap_congr
    rintro ⟨⟨nodeId, endpointId⟩, types⟩ indexed
    rw [List.mem_filter, Bool.and_eq_true, decide_eq_true_eq] at indexed
    rcases indexed with ⟨indexed, rfl, _⟩
    apply List.filterMap_congr
    rintro ⟨typeId, other⟩ held
    simp only [InsertionMap.get?_set]
    by_cases own : other = device
    · have place : world.slot node (endpointId, typeId) = some device := by
        simp only [slot, DeviceIndex.typeMap, InsertionMap.mem_entries_iff.mp indexed,
          Option.getD_some]
        exact own ▸ InsertionMap.mem_entries_iff.mp held
      obtain rfl := consistent.eq_of_slot place stored
      rw [if_pos own, if_pos own, Option.bind_some, Option.bind_some, silent, alsoSilent]
    · rw [if_neg own, if_neg own]
  unfold deriveFamilyBase
  rw [same]

/-! ## The names of a family -/

/-- Passes that are repeated settle, whatever Indigo refuses.  Each of them renames only
devices with names of the plugin's own, restamps a node device only with the name it has, and
does not let a device whose names do not vote decide the base. -/
theorem familyNames_settle (str : PyJson → String) {node : NodeInfo} (derived : node.Derived)
    {start : NamedWorld} (consistent : start.Consistent) (answers : ℕ → Answers) :
    (∃ settled, ∀ count, settled ≤ count →
        Unchanged (start.repeated str node answers settled)
          (start.repeated str node answers count)) ∧
      ∀ count, let before := start.repeated str node answers count
        (∀ device record next, before.names.get? device = some record →
          (start.repeated str node answers (count + 1)).names.get? device = some next →
            (next.name ≠ record.name → ∃ base, before.deriveFamilyBase str node = some base ∧
              HasOwnName str node base before device record) ∧
            (next.nodeBaseName ≠ record.nodeBaseName →
              before.deriveFamilyBase str node = some next.name ∧
                next.nodeBaseName = some next.name)) ∧
        ∀ entry device, before.slot node entry = some device →
          ∀ first second : NameRecord,
            castVote (node.fallbackBase str) entry.2 first.name = none →
            castVote (node.fallbackBase str) entry.2 second.name = none →
              deriveFamilyBase str { before with names := before.names.set device first } node =
                deriveFamilyBase str { before with names := before.names.set device second }
                  node := by
  refine ⟨exists_unchanged derived consistent answers, ?_⟩
  intro count before
  have ready : before.Consistent := consistent.repeated answers count
  constructor
  · intro device record next present changed
    have becomes := becomes_createDevices ready (answers count) present changed
    exact ⟨becomes.hasOwnName, becomes.stamped⟩
  · intro entry device stored first second silent alsoSilent
    exact deriveFamilyBase_set_silent ready stored silent alsoSilent

/-- `str` of a text. -/
def textOf : PyJson → String
  | .str text => text
  | _ => ""

/-- A sensor with a relay. -/
def kitchenSensor : List (String × PyJson) :=
  [("node_id", .int 7),
    ("attributes", .dict [("0/40/3", .str "FP300"), ("1/1026/0", .int 2150),
      ("2/6/0", .bool true)])]

/-- A bridge with a lamp that names itself. -/
def lampBridge (label : String) : List (String × PyJson) :=
  [("node_id", .int 7),
    ("attributes", .dict [("0/40/3", .str "Hue Bridge"), ("1/6/0", .bool true),
      ("1/57/5", .str label)])]

/-- A plugin with these devices under these names. -/
def called (devices : IndigoDevices) (names : InsertionMap DeviceId NameRecord) :
    NamedWorld where
  plugin := {
    indigo := devices
    nextId := 20
    sync := { startedSync with index := rebuildIndex devices }
    nodeTombstones := []
    retiredNodes := []
    creationSuspended := []
    selfDeletedIds := []
    effects := []
  }
  names

/-- The sensor after its user has named one device, and another one by hand. -/
def kitchen : NamedWorld :=
  called (.ofList [(10, ⟨"matterNode", some 7, some 0, ∅⟩),
      (11, ⟨"matterTemperatureSensor", some 7, some 1, ∅⟩), (12, ⟨"matterRelay", some 7, some 2, ∅⟩)])
    (.ofList [(10, ⟨"FP300".toList, some "FP300".toList⟩),
      (11, ⟨"Kitchen - Temperature".toList, none⟩), (12, ⟨"Kitchen 2".toList, none⟩)])

/-- The lamp under one of its names. -/
def lampCalled (name : String) : NamedWorld :=
  called (.ofList [(10, ⟨"matterNode", some 7, some 0, ∅⟩), (11, ⟨"matterRelay", some 7, some 1, ∅⟩)])
    (.ofList [(10, ⟨"Hue Bridge".toList, some "Hue Bridge".toList⟩), (11, ⟨name.toList, none⟩)])

theorem kitchen_consistent : kitchen.Consistent where
  plugin := ⟨located_rebuildIndex _, by decide⟩
  named := by decide

/-- The relay takes its name at last when Indigo refuses it once. -/
theorem familyNames_settle_kitchen :
    ∃ node, parseNode? kitchenSensor = some node ∧
      ∃ settled, ∀ count, settled ≤ count →
        Unchanged
          (kitchen.repeated textOf node
            (fun pass => ⟨fun _ _ => true, fun _ _ => 0 < pass, fun _ _ => true⟩) settled)
          (kitchen.repeated textOf node
            (fun pass => ⟨fun _ _ => true, fun _ _ => 0 < pass, fun _ _ => true⟩) count) := by
  refine ⟨_, rfl, ?_⟩
  exact (familyNames_settle textOf
    (derived_of_parseNode? (show parseNode? kitchenSensor = some _ from rfl)) kitchen_consistent
    fun pass => ⟨fun _ _ => true, fun _ _ => 0 < pass, fun _ _ => true⟩).1

/-- A relay named by hand is renamed although its name is made from neither the base that is
recorded nor the fallback; and the label of a lamp gives its bridge another name. -/
theorem hand_named_renamed :
    (∃ node, parseNode? kitchenSensor = some node ∧
      kitchen.names.get? 12 = some ⟨"Kitchen 2".toList, none⟩ ∧
      (kitchen.createDevices textOf ⟨fun _ _ => true, fun _ _ => true, fun _ _ => true⟩
        node).names.get? 12 = some ⟨"Kitchen - Switch".toList, none⟩ ∧
      (kitchen.names.get? 10).bind (·.nodeBaseName) = some (node.fallbackBase textOf) ∧
      isGeneratedName "Kitchen 2".toList (node.fallbackBase textOf) (roleLabel "matterRelay") =
        false) ∧
      ∃ voting, parseNode? (lampBridge "Lamp - Switch") = some voting ∧
        voting.bridgeLabel textOf 1 = "Lamp - Switch".toList ∧
        ((lampCalled "Lamp - Switch").createDevices textOf
          ⟨fun _ _ => true, fun _ _ => true, fun _ _ => true⟩ voting).names.get? 10 =
            some ⟨"Lamp".toList, some "Lamp".toList⟩ ∧
        ∃ silent, parseNode? (lampBridge "Lamp") = some silent ∧
          silent.bridgeLabel textOf 1 = "Lamp".toList ∧
          ((lampCalled "Lamp").createDevices textOf
            ⟨fun _ _ => true, fun _ _ => true, fun _ _ => true⟩ silent).names.get? 10 =
              some ⟨"Hue Bridge".toList, some "Hue Bridge".toList⟩ := by
  constructor
  · exact ⟨_, rfl, by decide, by decide +kernel, by decide, by decide⟩
  · exact ⟨_, rfl, by decide, by decide +kernel, _, rfl, by decide, by decide +kernel⟩

end NamedWorld

end IndigoMatter.Plugin
