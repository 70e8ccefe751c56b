import IndigoMatter.Library.PyJson
import IndigoMatter.Plugin.ThreadDiag
import Mathlib.Data.List.Sort

/-!
# Reading the Thread diagnostics cluster

The values of a node's ThreadNetworkDiagnostics cluster are parsed into a `NodeDiag`,
from which the Thread states of a node device are summarised.  A row of a table that
cannot be read is skipped; a neighbour table that cannot be read at all is not an empty
one, and then the role is the only state there is.
-/

namespace IndigoMatter.Plugin

open IndigoMatter.Library

def ATTR_CHANNEL : Int := 0

def ATTR_ROUTING_ROLE : Int := 1

def ATTR_NETWORK_NAME : Int := 2

def ATTR_PAN_ID : Int := 3

def ATTR_NEIGHBOR_TABLE : Int := 7

def ATTR_ROUTE_TABLE : Int := 8

def ATTR_PARTITION_ID : Int := 9

def ATTR_LEADER_ROUTER_ID : Int := 13

def ATTR_PARENT_CHANGE_COUNT : Int := 21

def ATTR_ATTRIBUTE_LIST : Int := 65531

/-- `_COUNTER_ATTRS`. -/
def COUNTER_ATTRS : List (Int × String) :=
  [(14, "detached_role"), (15, "child_role"), (16, "router_role"), (17, "leader_role"),
    (18, "attach_attempts"), (19, "partition_changes"),
    (20, "better_partition_attach_attempts"), (ATTR_PARENT_CHANGE_COUNT, "parent_changes")]

/-! ## Reading values -/

/-- `type(value).__name__`. -/
def typeName : PyJson → String
  | .null => "NoneType"
  | .bool _ => "bool"
  | .int _ => "int"
  | .float _ => "float"
  | .str _ => "str"
  | .list _ => "list"
  | .dict _ => "dict"

/-- Whether a value equals an integer. -/
def isNumber (number : Int) : PyJson → Bool
  | .bool value => (if value then 1 else 0) = number
  | .int value => value = number
  | .float value => value = number
  | _ => false

/-- `int(fields[name])`. -/
def intField (fields : List (String × PyJson)) (name : String) : Option Int :=
  (PyJson.field? fields name).bind PyJson.toInt?

/-- `bool(fields[name])`. -/
def boolField (fields : List (String × PyJson)) (name : String) : Option Bool :=
  (PyJson.field? fields name).map PyJson.truthy

/-- A row of the neighbour table; `none` where it is malformed. -/
def parseNeighbour : PyJson → Option Neighbour
  | .dict fields => do
      let _extAddress ← intField fields "0"
      let _ageS ← intField fields "1"
      let rloc16 ← intField fields "2"
      let lqi ← intField fields "5"
      let frameErrorPct ← intField fields "8"
      let _messageErrorPct ← intField fields "9"
      let rxOnWhenIdle ← boolField fields "10"
      let fullThreadDevice ← boolField fields "11"
      let isChild ← boolField fields "13"
      some {
        rloc16, lqi, frameErrorPct, rxOnWhenIdle, fullThreadDevice, isChild
        avgRssi := intField fields "6"
        lastRssi := intField fields "7" }
  | _ => none

/-- A row of the route table; `none` where it is malformed. -/
def parseRoute : PyJson → Option Route
  | .dict fields => do
      let _extAddress ← intField fields "0"
      let _rloc16 ← intField fields "1"
      let routerId ← intField fields "2"
      let nextHop ← intField fields "3"
      let pathCost ← intField fields "4"
      let _lqiIn ← intField fields "5"
      let _lqiOut ← intField fields "6"
      let _ageS ← intField fields "7"
      let allocated ← boolField fields "8"
      let linkEstablished ← boolField fields "9"
      some { routerId, nextHop, pathCost, allocated, linkEstablished }
  | _ => none

/-- The rows of a table, the warnings about it, and whether it is known. -/
def parseTable {α : Type} (table row : String) (parseRow : PyJson → Option α) :
    PyJson → List α × List String × Bool
  | .null => ([], [s!"{table} absent"], false)
  | .list entries =>
      (entries.filterMap parseRow,
        entries.zipIdx.filterMap fun (entry, index) =>
          if (parseRow entry).isNone then some s!"{row}[{index}]: malformed struct, skipped"
          else none,
        true)
  | raw => ([], [s!"{table} malformed ({typeName raw})"], false)

/-- `_parse_neighbours`. -/
def parseNeighbours (raw : PyJson) : List Neighbour × List String × Bool :=
  parseTable "NeighborTable" "neighbour" parseNeighbour raw

/-- `_parse_routes`. -/
def parseRoutes (raw : PyJson) : List Route × List String :=
  let parsed := parseTable "RouteTable" "route" parseRoute raw
  (parsed.1, parsed.2.1)

/-- The values of the cluster by the id of the attribute. -/
abbrev ClusterValues := InsertionMap Int PyJson

/-- `_attr`; null where there is no value. -/
def attr (attributes : ClusterValues) (attributeId : Int) : PyJson :=
  (attributes.get? attributeId).getD .null

/-- A counter, where the attribute list names it and it can be read. -/
def readCounter (attributes : ClusterValues) (listed : List PyJson) (counter : Int × String) :
    Option (String × Int) :=
  if listed.any (isNumber counter.1) then
    (attr attributes counter.1).toInt?.map fun value => (counter.2, value)
  else none

def parseCounters (attributes : ClusterValues) : InsertionMap String Int :=
  match attr attributes ATTR_ATTRIBUTE_LIST with
  | .list listed => .ofList (COUNTER_ATTRS.filterMap (readCounter attributes listed))
  | _ => ∅

/-- The warning about rows that look like the node's own but disagree. -/
def ambiguityWarnings (role : Int) (routes : List Route) : List String :=
  let candidates := selfEntryRouterIds routes
  if (role = ROLE_ROUTER ∨ role = ROLE_LEADER) ∧ 1 < candidates.length then
    [s!"self-entry ambiguous: router ids {candidates.insertionSort (· ≤ ·)} all match " ++
      "NextHop=invalid/PathCost=0/Allocated/LinkEstablished=False"]
  else []

/-- What identifies the node a diag is about. -/
structure DiagSubject where
  nodeId : Int
  name : String
  available : Bool

section Parsing

-- Python's `str`, which only the network name uses.
variable (str : PyJson → String)

/-- The diag of a node whose role is known, or was unreadable. -/
def diagOf (subject : DiagSubject) (attributes : ClusterValues) (role : Int)
    (readError : Option String) : NodeDiag :=
  let neighbours := parseNeighbours (attr attributes ATTR_NEIGHBOR_TABLE)
  let routes := parseRoutes (attr attributes ATTR_ROUTE_TABLE)
  let networkName := attr attributes ATTR_NETWORK_NAME
  { nodeId := subject.nodeId
    name := subject.name
    available := subject.available
    role, readError
    channel := (attr attributes ATTR_CHANNEL).toInt?
    networkName := if networkName.truthy then str networkName else ""
    panId := (attr attributes ATTR_PAN_ID).toInt?
    partitionId := (attr attributes ATTR_PARTITION_ID).toInt?
    leaderRouterId := (attr attributes ATTR_LEADER_ROUTER_ID).toInt?
    neighbours := neighbours.1
    routes := routes.1
    counters := parseCounters attributes
    source := .cache
    parseWarnings := neighbours.2.1 ++ routes.2 ++ ambiguityWarnings role routes.1
    neighboursKnown := neighbours.2.2
    lastInterview := none }

/-- `parse_node_diag`; `none` where the node has no value of the cluster. -/
def parseNodeDiag (subject : DiagSubject) (attributes : ClusterValues) : Option NodeDiag :=
  match (attr attributes ATTR_ROUTING_ROLE).toInt? with
  | some role => some (diagOf str subject attributes role none)
  | none =>
      if attributes.entries.isEmpty then none
      else some (diagOf str subject attributes ROLE_UNSPECIFIED (some "RoutingRole unreadable"))

end Parsing

/-! ## The Thread states -/

/-- `Neighbour.rssi`. -/
def Neighbour.rssi (neighbour : Neighbour) : Option Int := neighbour.lastRssi.or neighbour.avgRssi

namespace NodeDiag

def bestRssi (diag : NodeDiag) : Option Int := (diag.neighbours.filterMap Neighbour.rssi).max?

/-- The reading shown: the best one of a router, that of the parent of any other node. -/
def linkRssi (diag : NodeDiag) : Option Int :=
  if diag.isRouter then diag.bestRssi else diag.parent.bind Neighbour.rssi

/-- The worst that the flags say, apart from mere information. -/
def health (now : Rat) (diag : NodeDiag) : String :=
  let flags := (healthFlags diag now).filter fun flag => flag.severity ≠ .info
  if flags.any fun flag => flag.severity = .bad then "bad"
  else if flags.any fun flag => flag.severity = .warn then "warn"
  else "ok"

/-- `summary_states`. -/
def summaryStates (now : Rat) (diag : NodeDiag) : List (String × PyJson) :=
  if !diag.neighboursKnown then [("threadRole", .str diag.roleName)]
  else
    [("threadRole", .str diag.roleName),
      ("threadNeighbourCount", .int diag.neighbours.length),
      ("threadHealth", .str (diag.health now))] ++
    (diag.linkRssi.map fun rssi => ("threadLinkRssi", .int rssi)).toList

end NodeDiag

/-! ## What the states depend on -/

/-- The values the handler keeps. -/
def SUBSCRIBED_ATTRS : List Int :=
  [ATTR_ROUTING_ROLE, ATTR_NEIGHBOR_TABLE, ATTR_ROUTE_TABLE, ATTR_LEADER_ROUTER_ID,
    ATTR_PARENT_CHANGE_COUNT, ATTR_ATTRIBUTE_LIST]

/-- Two nodes report the same values, as far as the handler keeps them. -/
def SameReadings (first second : ClusterValues) : Prop :=
  ∀ attributeId ∈ SUBSCRIBED_ATTRS, first.get? attributeId = second.get? attributeId

namespace SameReadings

variable {first second : ClusterValues}

theorem attr_eq (same : SameReadings first second) {attributeId : Int}
    (subscribed : attributeId ∈ SUBSCRIBED_ATTRS) :
    attr first attributeId = attr second attributeId := by
  unfold attr
  rw [same attributeId subscribed]

theorem role_eq (same : SameReadings first second) :
    attr first ATTR_ROUTING_ROLE = attr second ATTR_ROUTING_ROLE :=
  same.attr_eq (by decide)

theorem neighbours_eq (same : SameReadings first second) :
    attr first ATTR_NEIGHBOR_TABLE = attr second ATTR_NEIGHBOR_TABLE :=
  same.attr_eq (by decide)

end SameReadings

theorem name_of_readCounter {attributes : ClusterValues} {listed : List PyJson}
    {counter : Int × String} {read : String × Int}
    (found : readCounter attributes listed counter = some read) : read.1 = counter.2 := by
  unfold readCounter at found
  split at found
  · rcases Option.map_eq_some_iff.mp found with ⟨value, _, rfl⟩
    rfl
  · cases found

/-- The one counter that the flags read is the last. -/
theorem get?_parent_changes (attributes : ClusterValues) (listed : List PyJson) :
    (InsertionMap.ofList (COUNTER_ATTRS.filterMap (readCounter attributes listed))).get?
        "parent_changes" =
      (readCounter attributes listed (ATTR_PARENT_CHANGE_COUNT, "parent_changes")).map
        Prod.snd := by
  have last : COUNTER_ATTRS =
      COUNTER_ATTRS.dropLast ++ [(ATTR_PARENT_CHANGE_COUNT, "parent_changes")] := rfl
  have others : (InsertionMap.ofList
      (COUNTER_ATTRS.dropLast.filterMap (readCounter attributes listed))).get?
        "parent_changes" = none := by
    rw [InsertionMap.get?_eq_none_iff, InsertionMap.mem_keys_ofList]
    intro present
    rcases List.mem_map.mp present with ⟨read, member, named⟩
    rcases List.mem_filterMap.mp member with ⟨counter, earlier, found⟩
    have absent : "parent_changes" ∉ COUNTER_ATTRS.dropLast.map Prod.snd := by decide
    apply absent
    rw [← named, name_of_readCounter found]
    exact List.mem_map_of_mem earlier
  rw [last, List.filterMap_append, InsertionMap.get?_ofList_append, others, Option.or_none]
  cases read : readCounter attributes listed (ATTR_PARENT_CHANGE_COUNT, "parent_changes") with
  | none => simp [read, InsertionMap.ofList]
  | some counter =>
      have name := name_of_readCounter read
      rcases counter with ⟨_, value⟩
      cases name
      simp [read, InsertionMap.ofList]

theorem SameReadings.parent_changes_eq {first second : ClusterValues}
    (same : SameReadings first second) :
    (parseCounters first).get? "parent_changes" = (parseCounters second).get? "parent_changes" := by
  unfold parseCounters
  rw [same.attr_eq (by decide : ATTR_ATTRIBUTE_LIST ∈ SUBSCRIBED_ATTRS)]
  split
  · rw [get?_parent_changes, get?_parent_changes]
    unfold readCounter
    rw [same.attr_eq (by decide : ATTR_PARENT_CHANGE_COUNT ∈ SUBSCRIBED_ATTRS)]
  · rfl

namespace NodeDiag

/-- The clock only shows in what is mere information. -/
theorem filter_staleFlags (diag : NodeDiag) (now : Rat) :
    (staleFlags diag now).filter (fun flag => flag.severity ≠ .info) = [] := by
  unfold staleFlags
  split
  · split <;> rfl
  · rfl

theorem health_now (diag : NodeDiag) (now later : Rat) : diag.health now = diag.health later := by
  have same : (healthFlags diag now).filter (fun flag => flag.severity ≠ .info) =
      (healthFlags diag later).filter (fun flag => flag.severity ≠ .info) := by
    unfold healthFlags
    rw [List.filter_append, List.filter_append _ (staleFlags diag later), filter_staleFlags,
      filter_staleFlags]
  unfold health
  rw [same]

theorem summaryStates_now (diag : NodeDiag) (now later : Rat) :
    diag.summaryStates now = diag.summaryStates later := by
  unfold summaryStates
  rw [diag.health_now now later]

/-- What neither the flags nor the states read. -/
theorem healthFlags_congr (diag : NodeDiag) (now : Rat) (channel panId partitionId : Option Int)
    (networkName : String) (readError : Option String) (counters : InsertionMap String Int)
    (same : counters.get? "parent_changes" = diag.counters.get? "parent_changes") :
    healthFlags { diag with channel, panId, partitionId, networkName, readError, counters } now =
      healthFlags diag now := by
  unfold healthFlags
  simp only [same]
  rfl

theorem summaryStates_congr (diag : NodeDiag) (now : Rat)
    (channel panId partitionId : Option Int) (networkName : String) (readError : Option String)
    (counters : InsertionMap String Int)
    (same : counters.get? "parent_changes" = diag.counters.get? "parent_changes") :
    { diag with
      channel, panId, partitionId, networkName, readError, counters }.summaryStates now =
        diag.summaryStates now := by
  unfold summaryStates health
  rw [healthFlags_congr diag now channel panId partitionId networkName readError counters same]
  rfl

/-- Which states there are. -/
def stateNames (diag : NodeDiag) : List String :=
  if !diag.neighboursKnown then ["threadRole"]
  else
    ["threadRole", "threadNeighbourCount", "threadHealth"] ++
      (diag.linkRssi.map fun _ => "threadLinkRssi").toList

theorem map_fst_summaryStates (diag : NodeDiag) (now : Rat) :
    (diag.summaryStates now).map Prod.fst = diag.stateNames := by
  unfold summaryStates stateNames
  split
  · rfl
  · cases diag.linkRssi <;> rfl

theorem lookup_summaryStates_eq_none_iff {diag : NodeDiag} {now : Rat} {key : String} :
    (diag.summaryStates now).lookup key = none ↔ key ∉ diag.stateNames := by
  rw [← diag.map_fst_summaryStates now, List.lookup_eq_none_iff]
  constructor
  · intro absent present
    rcases List.mem_map.mp present with ⟨entry, member, rfl⟩
    simpa using absent entry member
  · intro absent entry member
    rw [bne_iff_ne]
    rintro rfl
    exact absent (List.mem_map_of_mem member)

end NodeDiag

section Parsing

variable {str : PyJson → String} {subject : DiagSubject} {first second : ClusterValues}

/-- The role a node is taken to have. -/
def readRole (attributes : ClusterValues) : Int :=
  (attr attributes ATTR_ROUTING_ROLE).toInt?.getD ROLE_UNSPECIFIED

theorem eq_diagOf_of_parseNodeDiag {diag : NodeDiag}
    (parsed : parseNodeDiag str subject first = some diag) :
    ∃ readError, diag = diagOf str subject first (readRole first) readError := by
  unfold parseNodeDiag at parsed
  unfold readRole
  split at parsed
  · rename_i role read
    rw [read]
    exact ⟨none, (Option.some.inj parsed).symm⟩
  · rename_i unread
    rw [unread]
    split at parsed
    · cases parsed
    · exact ⟨_, (Option.some.inj parsed).symm⟩

theorem parseNodeDiag_of_role (str : PyJson → String) (subject : DiagSubject)
    (present : ATTR_ROUTING_ROLE ∈ first.keys) :
    ∃ diag, parseNodeDiag str subject first = some diag := by
  unfold parseNodeDiag
  split
  · exact ⟨_, rfl⟩
  · split
    · rename_i empty
      rw [InsertionMap.keys, List.isEmpty_iff.mp empty] at present
      cases present
    · exact ⟨_, rfl⟩

/-- The states only depend on the values that the handler keeps. -/
theorem summaryStates_of_sameReadings (same : SameReadings first second) {diag other : NodeDiag}
    (parsed : parseNodeDiag str subject first = some diag)
    (parsed' : parseNodeDiag str subject second = some other) (now : Rat) :
    diag.summaryStates now = other.summaryStates now := by
  rcases eq_diagOf_of_parseNodeDiag parsed with ⟨readError, rfl⟩
  rcases eq_diagOf_of_parseNodeDiag parsed' with ⟨readError', rfl⟩
  symm
  have role : readRole second = readRole first := by
    unfold readRole
    rw [same.role_eq]
  have others := NodeDiag.summaryStates_congr
    (diagOf str subject first (readRole first) readError) now
    (diagOf str subject second (readRole second) readError').channel
    (diagOf str subject second (readRole second) readError').panId
    (diagOf str subject second (readRole second) readError').partitionId
    (diagOf str subject second (readRole second) readError').networkName readError'
    (parseCounters second) same.parent_changes_eq.symm
  rw [← others]
  unfold diagOf
  rw [role, same.neighbours_eq, same.attr_eq (by decide : ATTR_ROUTE_TABLE ∈ SUBSCRIBED_ATTRS),
    same.attr_eq (by decide : ATTR_LEADER_ROUTER_ID ∈ SUBSCRIBED_ATTRS)]

/-- Which states there are only depends on the role and the neighbours. -/
theorem stateNames_of_sameLinks
    (role : attr first ATTR_ROUTING_ROLE = attr second ATTR_ROUTING_ROLE)
    (neighbours : attr first ATTR_NEIGHBOR_TABLE = attr second ATTR_NEIGHBOR_TABLE)
    {diag other : NodeDiag} (parsed : parseNodeDiag str subject first = some diag)
    (parsed' : parseNodeDiag str subject second = some other) :
    diag.stateNames = other.stateNames := by
  rcases eq_diagOf_of_parseNodeDiag parsed with ⟨readError, rfl⟩
  rcases eq_diagOf_of_parseNodeDiag parsed' with ⟨readError', rfl⟩
  have sameRole : readRole first = readRole second := by
    unfold readRole
    rw [role]
  unfold diagOf
  rw [sameRole, neighbours]
  rfl

end Parsing

end IndigoMatter.Plugin
