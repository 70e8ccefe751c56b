import IndigoMatter.Library.Transition
import IndigoMatter.Plugin.ThreadSummary
import Mathlib.Logic.Function.Basic

/-!
# Reports to node devices

The handler of the Thread diagnostics cluster sees one attribute at a time, from a live
update or from the replay of a snapshot.  It keeps the values it has seen of every node
id and, once the role and the neighbour table are among them, parses them anew with
every report and answers the states for the device of the node.

It is never told that a node is gone, so what it keeps of a node id outlives the node.
-/

namespace IndigoMatter.Plugin

open IndigoMatter.Library

namespace ThreadReports

/-! ## The handler -/

/-- A `matterNode` device; its node id is `none` where its properties have none that can be
read. -/
structure NodeDevice where
  name : String
  nodeId : Option Int
  states : InsertionMap String PyJson

namespace NodeDevice

def subject (device : NodeDevice) (nodeId : Int) : DiagSubject :=
  ⟨nodeId, device.name, (device.states.get? "reachable").elim true PyJson.truthy⟩

/-- `apply_states`. -/
def applyStates (device : NodeDevice) (written : List (String × PyJson)) : NodeDevice :=
  { device with
    states := written.foldl (fun states entry => states.set entry.1 entry.2) device.states }

end NodeDevice

/-- `_node_attrs`: the values last seen of every node id. -/
abbrev NodeAttrs := InsertionMap Int ClusterValues

def NodeAttrs.ofNode (nodeAttrs : NodeAttrs) (nodeId : Int) : ClusterValues :=
  (nodeAttrs.get? nodeId).getD ∅

section Handler

variable (str : PyJson → String) (now : Rat)

/-- The states of a device for the values seen of its node, those it declares. -/
def statesOf (device : NodeDevice) (nodeId : Int) (attributes : ClusterValues) :
    List (String × PyJson) :=
  if !attributes.has ATTR_ROUTING_ROLE || !attributes.has ATTR_NEIGHBOR_TABLE then []
  else
    match parseNodeDiag str (device.subject nodeId) attributes with
    | none => []
    | some diag => (diag.summaryStates now).filter fun entry => device.states.has entry.1

/-- `on_attribute_update`. -/
def onAttributeUpdate (nodeAttrs : NodeAttrs) (device : NodeDevice) (report : Int × PyJson) :
    NodeAttrs × List (String × PyJson) :=
  if report.1 ∉ SUBSCRIBED_ATTRS then (nodeAttrs, [])
  else
    match device.nodeId with
    | none => (nodeAttrs, [])
    | some nodeId =>
        let attributes := (nodeAttrs.ofNode nodeId).set report.1 report.2
        (nodeAttrs.set nodeId attributes, statesOf str now device nodeId attributes)

/-- The loop of `_prime_states`, which gathers the states of every attribute. -/
def primeStates (nodeAttrs : NodeAttrs) (device : NodeDevice) (reports : List (Int × PyJson)) :
    NodeAttrs × List (String × PyJson) :=
  reports.foldl
    (fun gathered report =>
      let answer := onAttributeUpdate str now gathered.1 device report
      (answer.1, gathered.2 ++ answer.2))
    (nodeAttrs, [])

end Handler

/-! ## Histories -/

/-- The handler, the node devices and, which no code keeps, what the node that now has an
id has reported itself since the handler was made. -/
structure Site where
  nodeAttrs : NodeAttrs
  devices : InsertionMap Int NodeDevice
  heard : Int → List (Int × PyJson)

namespace Site

def hear (site : Site) (device : NodeDevice) (reports : List (Int × PyJson)) :
    Int → List (Int × PyJson) :=
  match device.nodeId with
  | none => site.heard
  | some nodeId => Function.update site.heard nodeId (site.heard nodeId ++ reports)

/-- `reachable` of a device that has the state. -/
def markReachable (device : NodeDevice) (value : Bool) : NodeDevice :=
  if device.states.has "reachable" then
    { device with states := device.states.set "reachable" (.bool value) }
  else device

end Site

/-- What happens: a live update or the replay of a snapshot reaches a device, a node
becomes reachable or not, a node is decommissioned, another node takes an id, a device is
made or deleted, and the plugin is started again. -/
inductive Event
  | updated (now : Rat) (device : Int) (report : Int × PyJson)
  | primed (now : Rat) (device : Int) (snapshot : List (Int × PyJson))
  | reachability (device : Int) (value : Bool)
  | decommissioned (nodeId : Int)
  | commissioned (nodeId : Int)
  | deviceMade (device : Int) (made : NodeDevice)
  | deviceDeleted (device : Int)
  | restarted

section Histories

variable (str : PyJson → String)

namespace Site

/-- `_on_attribute` for a device that is there. -/
def update (now : Rat) (site : Site) (deviceId : Int) (report : Int × PyJson) : Site :=
  match site.devices.get? deviceId with
  | none => site
  | some device =>
      let answer := onAttributeUpdate str now site.nodeAttrs device report
      { nodeAttrs := answer.1
        devices := site.devices.set deviceId (device.applyStates answer.2)
        heard := site.hear device [report] }

/-- `_prime_states`: one write at the end. -/
def prime (now : Rat) (site : Site) (deviceId : Int) (snapshot : List (Int × PyJson)) : Site :=
  match site.devices.get? deviceId with
  | none => site
  | some device =>
      let answer := primeStates str now site.nodeAttrs device snapshot
      { nodeAttrs := answer.1
        devices := site.devices.set deviceId (device.applyStates answer.2)
        heard := site.hear device snapshot }

end Site

def step (site : Site) : Event → Option Site
  | .updated now device report => some (site.update str now device report)
  | .primed now device snapshot => some (site.prime str now device snapshot)
  | .reachability deviceId value =>
      (site.devices.get? deviceId).map fun device =>
        { site with devices := site.devices.set deviceId (Site.markReachable device value) }
  -- The handler has no part in this.
  | .decommissioned nodeId =>
      some { site with
        devices := site.devices.mapValues fun _ device =>
          if device.nodeId = some nodeId then Site.markReachable device false else device }
  | .commissioned nodeId => some { site with heard := Function.update site.heard nodeId [] }
  | .deviceMade deviceId made =>
      if site.devices.has deviceId then none
      else some { site with devices := site.devices.set deviceId made }
  | .deviceDeleted deviceId => some { site with devices := site.devices.delete deviceId }
  | .restarted => some { site with nodeAttrs := ∅, heard := fun _ => [] }

end Histories

/-- The handler keeps nothing of an earlier node where a node takes over this id. -/
def FreshId (nodeId : Int) (site : Site) : Event → Prop
  | .commissioned other => other = nodeId → site.nodeAttrs.get? nodeId = none
  | _ => True

def start : Site := ⟨∅, ∅, fun _ => []⟩

/-! ## A replay is its reports one by one -/

section Handler

variable {str : PyJson → String} {now : Rat}

/-- Two views of a device that the handler cannot tell apart. -/
structure Alike (first second : NodeDevice) : Prop where
  name : first.name = second.name
  nodeId : first.nodeId = second.nodeId
  reachable : first.states.get? "reachable" = second.states.get? "reachable"
  declared : ∀ key, first.states.has key = second.states.has key

theorem Alike.refl (device : NodeDevice) : Alike device device := ⟨rfl, rfl, rfl, fun _ => rfl⟩

theorem Alike.trans {first second third : NodeDevice} (earlier : Alike first second)
    (later : Alike second third) : Alike first third where
  name := earlier.name.trans later.name
  nodeId := earlier.nodeId.trans later.nodeId
  reachable := earlier.reachable.trans later.reachable
  declared key := (earlier.declared key).trans (later.declared key)

theorem statesOf_of_alike {first second : NodeDevice} (alike : Alike first second) (nodeId : Int)
    (attributes : ClusterValues) :
    statesOf str now first nodeId attributes = statesOf str now second nodeId attributes := by
  unfold statesOf NodeDevice.subject
  simp only [alike.name, alike.reachable, alike.declared]

theorem onAttributeUpdate_of_alike {first second : NodeDevice} (alike : Alike first second)
    (nodeAttrs : NodeAttrs) (report : Int × PyJson) :
    onAttributeUpdate str now nodeAttrs first report =
      onAttributeUpdate str now nodeAttrs second report := by
  unfold onAttributeUpdate
  simp only [alike.nodeId, statesOf_of_alike alike]

/-- The states are declared, and `reachable` is none of them. -/
structure Writable (device : NodeDevice) (key : String) : Prop where
  declared : device.states.has key = true
  notReachable : key ≠ "reachable"

theorem writable_of_mem_statesOf {device : NodeDevice} {nodeId : Int} {attributes : ClusterValues}
    {entry : String × PyJson} (member : entry ∈ statesOf str now device nodeId attributes) :
    Writable device entry.1 := by
  unfold statesOf at member
  split at member
  · cases member
  · split at member
    · cases member
    · rename_i diag _
      rcases List.mem_filter.mp member with ⟨given, declared⟩
      refine ⟨declared, ?_⟩
      have named : entry.1 ∈ diag.stateNames := by
        rw [← diag.map_fst_summaryStates now]
        exact List.mem_map_of_mem given
      have apart : "reachable" ∉ diag.stateNames := by
        unfold NodeDiag.stateNames
        split
        · simp
        · cases diag.linkRssi <;> simp
      rintro same
      exact apart (same ▸ named)

theorem writable_of_mem_onAttributeUpdate {nodeAttrs : NodeAttrs} {device : NodeDevice}
    {report : Int × PyJson} {entry : String × PyJson}
    (member : entry ∈ (onAttributeUpdate str now nodeAttrs device report).2) :
    Writable device entry.1 := by
  unfold onAttributeUpdate at member
  split at member
  · cases member
  · split at member
    · cases member
    · exact writable_of_mem_statesOf member

/-- Everything the handler has answered is writable. -/
theorem writable_of_mem_primeStates {nodeAttrs : NodeAttrs} {device : NodeDevice}
    {snapshot : List (Int × PyJson)} :
    ∀ entry ∈ (primeStates str now nodeAttrs device snapshot).2, Writable device entry.1 := by
  induction snapshot using List.reverseRecOn with
  | nil =>
      intro entry member
      cases member
  | append_singleton earlier report ih =>
      intro entry member
      unfold primeStates at member
      rw [List.foldl_append] at member
      rcases List.mem_append.mp member with before | last
      · exact ih entry before
      · exact writable_of_mem_onAttributeUpdate last

end Handler

namespace NodeDevice

theorem applyStates_append (device : NodeDevice) (first second : List (String × PyJson)) :
    device.applyStates (first ++ second) = (device.applyStates first).applyStates second := by
  unfold applyStates
  rw [List.foldl_append]

theorem get?_applyStates (device : NodeDevice) (written : List (String × PyJson)) (key : String) :
    (device.applyStates written).states.get? key =
      ((InsertionMap.ofList written).get? key).or (device.states.get? key) := by
  induction written generalizing device with
  | nil => rfl
  | cons entry rest ih =>
      have split : device.applyStates (entry :: rest) =
          ({ device with states := device.states.set entry.1 entry.2 } :
            NodeDevice).applyStates rest := rfl
      have first : (InsertionMap.ofList [entry]).get? key =
          if key = entry.1 then some entry.2 else none :=
        InsertionMap.get?_set ∅ entry.1 entry.2 key
      rw [split, ih, ← List.singleton_append, InsertionMap.get?_ofList_append, Option.or_assoc,
        first, InsertionMap.get?_set]
      split <;> rfl

/-- A state that is not written keeps its value. -/
theorem get?_applyStates_of_notMem (device : NodeDevice) {written : List (String × PyJson)}
    {key : String} (absent : key ∉ written.map Prod.fst) :
    (device.applyStates written).states.get? key = device.states.get? key := by
  rw [get?_applyStates, InsertionMap.get?_eq_none_iff.mpr]
  · rfl
  · rwa [InsertionMap.mem_keys_ofList]

theorem alike_applyStates {device : NodeDevice} {written : List (String × PyJson)}
    (writable : ∀ entry ∈ written, Writable device entry.1) :
    Alike (device.applyStates written) device where
  name := rfl
  nodeId := rfl
  reachable := by
    apply get?_applyStates_of_notMem
    intro present
    rcases List.mem_map.mp present with ⟨entry, member, named⟩
    exact (writable entry member).notReachable named
  declared key := by
    by_cases present : key ∈ written.map Prod.fst
    · rcases List.mem_map.mp present with ⟨entry, member, rfl⟩
      rw [(writable entry member).declared, InsertionMap.has_iff, InsertionMap.mem_keys_iff]
      rcases InsertionMap.mem_keys_iff.mp (InsertionMap.mem_keys_ofList.mpr present) with
        ⟨value, stored⟩
      exact ⟨value, by rw [get?_applyStates, stored]; rfl⟩
    · unfold InsertionMap.has
      rw [get?_applyStates_of_notMem device present]

end NodeDevice

namespace Site

variable {str : PyJson → String} {now : Rat} {site : Site} {deviceId : Int} {device : NodeDevice}

theorem update_eq (found : site.devices.get? deviceId = some device) (report : Int × PyJson) :
    site.update str now deviceId report =
      { nodeAttrs := (onAttributeUpdate str now site.nodeAttrs device report).1
        devices := site.devices.set deviceId
          (device.applyStates (onAttributeUpdate str now site.nodeAttrs device report).2)
        heard := site.hear device [report] } := by
  unfold update
  rw [found]

theorem prime_eq (found : site.devices.get? deviceId = some device)
    (snapshot : List (Int × PyJson)) :
    site.prime str now deviceId snapshot =
      { nodeAttrs := (primeStates str now site.nodeAttrs device snapshot).1
        devices := site.devices.set deviceId
          (device.applyStates (primeStates str now site.nodeAttrs device snapshot).2)
        heard := site.hear device snapshot } := by
  unfold prime
  rw [found]

theorem hear_append (site : Site) (device : NodeDevice) (earlier later : List (Int × PyJson))
    {nodeAttrs : NodeAttrs} {devices : InsertionMap Int NodeDevice} {other : NodeDevice}
    (same : other.nodeId = device.nodeId) :
    Site.hear ⟨nodeAttrs, devices, site.hear device earlier⟩ other later =
      site.hear device (earlier ++ later) := by
  unfold hear
  rw [same]
  cases device.nodeId with
  | none => rfl
  | some nodeId => simp

theorem hear_nil (site : Site) (device : NodeDevice) : site.hear device [] = site.heard := by
  unfold hear
  cases device.nodeId with
  | none => rfl
  | some nodeId => simp

/-- The replay of a snapshot does what its reports would have done one by one. -/
theorem prime_eq_foldl (str : PyJson → String) (now : Rat) (site : Site) (deviceId : Int)
    (snapshot : List (Int × PyJson)) :
    site.prime str now deviceId snapshot =
      snapshot.foldl (fun site report => site.update str now deviceId report) site := by
  cases found : site.devices.get? deviceId with
  | none =>
      have idle : site.prime str now deviceId snapshot = site := by
        unfold prime
        rw [found]
      have dropped : ∀ report, site.update str now deviceId report = site := by
        intro report
        unfold update
        rw [found]
      rw [idle]
      clear idle
      induction snapshot with
      | nil => rfl
      | cons report rest ih =>
          rw [List.foldl_cons, dropped]
          exact ih
  | some device =>
      induction snapshot using List.reverseRecOn with
      | nil =>
          rw [prime_eq found, hear_nil]
          have kept : site.devices.set deviceId device = site.devices :=
            InsertionMap.set_of_get? found
          exact congrArg (fun devices => Site.mk site.nodeAttrs devices site.heard) kept
      | append_singleton earlier report ih =>
          have alike : Alike
              (device.applyStates (primeStates str now site.nodeAttrs device earlier).2) device :=
            NodeDevice.alike_applyStates writable_of_mem_primeStates
          have gathered : primeStates str now site.nodeAttrs device (earlier ++ [report]) =
              ((onAttributeUpdate str now (primeStates str now site.nodeAttrs device earlier).1
                  device report).1,
                (primeStates str now site.nodeAttrs device earlier).2 ++
                  (onAttributeUpdate str now (primeStates str now site.nodeAttrs device earlier).1
                    device report).2) := by
            unfold primeStates
            rw [List.foldl_append]
            rfl
          rw [List.foldl_append, ← ih, prime_eq found, prime_eq found, List.foldl_cons,
            List.foldl_nil, update_eq (InsertionMap.get?_set_self _ _ _),
            onAttributeUpdate_of_alike alike, InsertionMap.set_set, hear_append _ _ _ _ alike.nodeId,
            ← NodeDevice.applyStates_append, gathered]

end Site

/-! ## What the handler keeps is what the node has reported -/

/-- The role and the neighbour table are among the reports. -/
def Known (reports : List (Int × PyJson)) : Prop :=
  ATTR_ROUTING_ROLE ∈ reports.map Prod.fst ∧ ATTR_NEIGHBOR_TABLE ∈ reports.map Prod.fst

theorem Known.append {earlier : List (Int × PyJson)} (known : Known earlier)
    (later : List (Int × PyJson)) : Known (earlier ++ later) := by
  unfold Known
  simp only [List.map_append, List.mem_append]
  exact ⟨.inl known.1, .inl known.2⟩

/-- The values a node has reported, the last of every attribute. -/
abbrev lastValues (reports : List (Int × PyJson)) : ClusterValues := .ofList reports

theorem get?_lastValues_append_single (reports : List (Int × PyJson)) (report : Int × PyJson)
    (attributeId : Int) :
    (lastValues (reports ++ [report])).get? attributeId =
      if attributeId = report.1 then some report.2 else (lastValues reports).get? attributeId := by
  have single : (lastValues [report]).get? attributeId =
      if attributeId = report.1 then some report.2 else none :=
    InsertionMap.get?_set ∅ report.1 report.2 attributeId
  rw [InsertionMap.get?_ofList_append, single]
  split <;> rfl

namespace Site

/-- Of a node id the handler keeps what the node that has it now has reported. -/
def Own (site : Site) (nodeId : Int) : Prop :=
  SameReadings (site.nodeAttrs.ofNode nodeId) (lastValues (site.heard nodeId))

end Site

section Handler

variable {str : PyJson → String} {now : Rat} {device : NodeDevice} {nodeId : Int}
  {attributes : ClusterValues} {reports : List (Int × PyJson)}

theorem has_iff_of_sameReadings (same : SameReadings attributes (lastValues reports))
    {attributeId : Int} (subscribed : attributeId ∈ SUBSCRIBED_ATTRS) :
    attributes.has attributeId = true ↔ attributeId ∈ reports.map Prod.fst := by
  rw [← InsertionMap.mem_keys_ofList, ← InsertionMap.has_iff]
  unfold InsertionMap.has
  rw [same attributeId subscribed]

theorem known_iff (same : SameReadings attributes (lastValues reports)) :
    Known reports ↔
      attributes.has ATTR_ROUTING_ROLE = true ∧ attributes.has ATTR_NEIGHBOR_TABLE = true := by
  rw [has_iff_of_sameReadings same (by decide), has_iff_of_sameReadings same (by decide)]
  rfl

/-- Nothing is answered until the role and the neighbour table have been reported. -/
theorem statesOf_of_not_known (same : SameReadings attributes (lastValues reports))
    (unknown : ¬Known reports) : statesOf str now device nodeId attributes = [] := by
  unfold statesOf
  rw [if_pos]
  rw [known_iff same] at unknown
  cases role : attributes.has ATTR_ROUTING_ROLE with
  | false => rfl
  | true =>
      cases table : attributes.has ATTR_NEIGHBOR_TABLE with
      | false => rfl
      | true => exact absurd ⟨role, table⟩ unknown

theorem nodup_stateNames (diag : NodeDiag) : diag.stateNames.Nodup := by
  unfold NodeDiag.stateNames
  split
  · simp
  · cases diag.linkRssi <;> simp

theorem get?_ofList_declared (diag : NodeDiag) (key : String) :
    (InsertionMap.ofList
        ((diag.summaryStates now).filter fun entry => device.states.has entry.1)).get? key =
      if device.states.has key then (diag.summaryStates now).lookup key else none := by
  have nodup : ((diag.summaryStates now).map Prod.fst).Nodup := by
    rw [diag.map_fst_summaryStates now]
    exact nodup_stateNames diag
  have filtered : (((diag.summaryStates now).filter fun entry =>
      device.states.has entry.1).map Prod.fst).Nodup :=
    (List.filter_sublist.map Prod.fst).nodup nodup
  have selected : InsertionMap.ofList
      ((diag.summaryStates now).filter fun entry => device.states.has entry.1) =
        (InsertionMap.ofList (diag.summaryStates now)).filterKeys device.states.has := by
    apply InsertionMap.ext
    rw [InsertionMap.entries_ofList filtered]
    exact (congrArg (List.filter _) (InsertionMap.entries_ofList nodup)).symm
  rw [selected, InsertionMap.get?_filterKeys]
  unfold InsertionMap.get?
  rw [InsertionMap.entries_ofList nodup]

/-- From then on every report is answered with the states of the values reported so far. -/
theorem statesOf_of_known (str : PyJson → String) (now : Rat) (device : NodeDevice)
    (nodeId : Int) (same : SameReadings attributes (lastValues reports))
    (known : Known reports) :
    ∃ diag, parseNodeDiag str (device.subject nodeId) (lastValues reports) = some diag ∧
      ∀ key, (InsertionMap.ofList (statesOf str now device nodeId attributes)).get? key =
        if device.states.has key then (diag.summaryStates now).lookup key else none := by
  have both := (known_iff same).mp known
  rcases parseNodeDiag_of_role str (device.subject nodeId)
    (InsertionMap.mem_keys_ofList.mpr known.1) with ⟨diag, parsed⟩
  rcases parseNodeDiag_of_role str (device.subject nodeId)
    (InsertionMap.has_iff.mp both.1) with ⟨kept, parsedKept⟩
  refine ⟨diag, parsed, fun key => ?_⟩
  unfold statesOf
  rw [both.1, both.2, parsedKept]
  show (InsertionMap.ofList
    ((kept.summaryStates now).filter fun entry => device.states.has entry.1)).get? key = _
  rw [get?_ofList_declared, summaryStates_of_sameReadings same parsedKept parsed]

end Handler

section Updates

variable {str : PyJson → String} {now : Rat} {site : Site} {deviceId : Int} {device : NodeDevice}
  {nodeId : Int}

theorem Site.heard_update (found : site.devices.get? deviceId = some device)
    (bound : device.nodeId = some nodeId) (report : Int × PyJson) :
    (site.update str now deviceId report).heard =
      Function.update site.heard nodeId (site.heard nodeId ++ [report]) := by
  rw [Site.update_eq found]
  unfold Site.hear
  rw [bound]

theorem NodeAttrs.ofNode_set (nodeAttrs : NodeAttrs) (nodeId other : Int)
    (attributes : ClusterValues) :
    NodeAttrs.ofNode (nodeAttrs.set nodeId attributes) other =
      if other = nodeId then attributes else nodeAttrs.ofNode other := by
  unfold NodeAttrs.ofNode
  rw [InsertionMap.get?_set]
  split <;> rfl

/-- With a report the values kept of its node stay those it has reported. -/
theorem sameReadings_set {kept : ClusterValues} {reports : List (Int × PyJson)}
    (same : SameReadings kept (lastValues reports)) (report : Int × PyJson) :
    SameReadings (kept.set report.1 report.2) (lastValues (reports ++ [report])) := by
  intro attributeId subscribed
  rw [get?_lastValues_append_single, InsertionMap.get?_set, same attributeId subscribed]

theorem sameReadings_append_unsubscribed {kept : ClusterValues} {reports : List (Int × PyJson)}
    (same : SameReadings kept (lastValues reports)) {report : Int × PyJson}
    (unsubscribed : report.1 ∉ SUBSCRIBED_ATTRS) :
    SameReadings kept (lastValues (reports ++ [report])) := by
  intro attributeId subscribed
  have differs : attributeId ≠ report.1 := by
    rintro rfl
    exact unsubscribed subscribed
  rw [get?_lastValues_append_single, if_neg differs, same attributeId subscribed]

/-- What a report does to its device, by the values reported so far. -/
inductive Written (str : PyJson → String) (now : Rat) (device : NodeDevice) (nodeId : Int)
    (reports : List (Int × PyJson)) (attributeId : Int) (states : List (String × PyJson)) : Prop
  | ignored (unsubscribed : attributeId ∉ SUBSCRIBED_ATTRS) (nothing : states = [])
  | answered (subscribed : attributeId ∈ SUBSCRIBED_ATTRS) (attributes : ClusterValues)
      (same : SameReadings attributes (lastValues reports))
      (given : states = statesOf str now device nodeId attributes)

theorem Site.Own.written (own : site.Own nodeId) (str : PyJson → String) (now : Rat)
    (bound : device.nodeId = some nodeId)
    (report : Int × PyJson) :
    Written str now device nodeId (site.heard nodeId ++ [report]) report.1
      (onAttributeUpdate str now site.nodeAttrs device report).2 := by
  unfold onAttributeUpdate
  split
  · rename_i unsubscribed
    exact .ignored unsubscribed rfl
  · rename_i subscribed
    rw [bound]
    exact .answered (not_not.mp subscribed) _ (sameReadings_set own report) rfl

theorem Site.Own.update (own : site.Own nodeId) (deviceId : Int) (report : Int × PyJson) :
    (site.update str now deviceId report).Own nodeId := by
  cases found : site.devices.get? deviceId with
  | none =>
      unfold Site.update
      rw [found]
      exact own
  | some device =>
      rw [Site.update_eq found]
      unfold onAttributeUpdate Site.hear Site.Own
      unfold Site.Own at own
      cases bound : device.nodeId with
      | none =>
          split
          · exact own
          · exact own
      | some owner =>
          by_cases here : nodeId = owner
          · subst here
            split
            · rename_i unsubscribed
              simpa using sameReadings_append_unsubscribed own unsubscribed
            · simpa [NodeAttrs.ofNode_set] using sameReadings_set own report
          · split
            · simpa [here] using own
            · simpa [NodeAttrs.ofNode_set, here] using own

theorem Site.Own.updates (own : site.Own nodeId) (deviceId : Int) (reports : List (Int × PyJson)) :
    (reports.foldl (fun site report => site.update str now deviceId report) site).Own nodeId := by
  induction reports generalizing site with
  | nil => exact own
  | cons report rest ih => exact ih (own.update deviceId report)

/-- The handler keeps a node's own values as long as its id does not pass on what it holds. -/
theorem Site.Own.step {event : Event} {after : Site} (own : site.Own nodeId)
    (fresh : FreshId nodeId site event) (taken : step str site event = some after) :
    after.Own nodeId := by
  cases event with
  | updated now deviceId report =>
      cases taken
      exact own.update deviceId report
  | primed now deviceId snapshot =>
      cases taken
      rw [Site.prime_eq_foldl]
      exact own.updates deviceId snapshot
  | reachability deviceId value =>
      rcases Option.map_eq_some_iff.mp taken with ⟨_, _, rfl⟩
      exact own
  | decommissioned other =>
      cases taken
      exact own
  | commissioned other =>
      cases taken
      by_cases here : other = nodeId
      · subst here
        intro attributeId _
        have nothing : site.nodeAttrs.ofNode other = ∅ := by
          unfold NodeAttrs.ofNode
          rw [show site.nodeAttrs.get? other = none from fresh rfl]
          rfl
        simp [nothing, InsertionMap.ofList]
      · have apart : nodeId ≠ other := Ne.symm here
        unfold Site.Own at own ⊢
        simpa [apart] using own
  | deviceMade deviceId made =>
      have unused : (if site.devices.has deviceId then none
          else some { site with devices := site.devices.set deviceId made }) = some after := taken
      split at unused
      · cases unused
      · cases unused
        exact own
  | deviceDeleted deviceId =>
      cases taken
      exact own
  | restarted =>
      cases taken
      intro attributeId _
      rfl

theorem Site.own_of_run {events : List Event}
    (run : RunWhere (step str) (FreshId nodeId) start events site) : site.Own nodeId := by
  apply run.invariant
  · intro attributeId _
    rfl
  · intro before event after own fresh taken
    exact own.step fresh taken

end Updates

/-! ## Nothing is written too early -/

section Silence

variable {str : PyJson → String} {now : Rat} {site : Site} {deviceId nodeId : Int}
  {device : NodeDevice}

theorem Site.get?_devices_update (found : site.devices.get? deviceId = some device)
    (report : Int × PyJson) :
    (site.update str now deviceId report).devices.get? deviceId =
      some (device.applyStates (onAttributeUpdate str now site.nodeAttrs device report).2) := by
  rw [Site.update_eq found]
  exact InsertionMap.get?_set_self _ _ _

theorem Site.get?_devices_update_of_ne {other : Int} (apart : other ≠ deviceId)
    (report : Int × PyJson) :
    (site.update str now deviceId report).devices.get? other = site.devices.get? other := by
  cases found : site.devices.get? deviceId with
  | none =>
      unfold Site.update
      rw [found]
  | some device =>
      rw [Site.update_eq found]
      show (site.devices.set deviceId _).get? other = _
      rw [InsertionMap.get?_set, if_neg apart]

/-- Reports only add to what a node has reported. -/
theorem Site.heard_update_append (str : PyJson → String) (now : Rat) (site : Site) (deviceId nodeId : Int) (report : Int × PyJson) :
    ∃ more, (site.update str now deviceId report).heard nodeId = site.heard nodeId ++ more := by
  cases found : site.devices.get? deviceId with
  | none =>
      refine ⟨[], ?_⟩
      unfold Site.update
      rw [found, List.append_nil]
  | some device =>
      cases bound : device.nodeId with
      | none =>
          refine ⟨[], ?_⟩
          rw [Site.update_eq found]
          unfold Site.hear
          rw [bound, List.append_nil]
      | some owner =>
          rw [Site.heard_update found bound]
          by_cases here : nodeId = owner
          · subst here
            exact ⟨[report], by simp⟩
          · exact ⟨[], by simp [here]⟩

theorem Site.heard_updates_append (str : PyJson → String) (now : Rat) (site : Site) (deviceId nodeId : Int)
    (reports : List (Int × PyJson)) :
    ∃ more, (reports.foldl (fun site report => site.update str now deviceId report) site).heard
      nodeId = site.heard nodeId ++ more := by
  induction reports generalizing site with
  | nil => exact ⟨[], (List.append_nil _).symm⟩
  | cons report rest ih =>
      rcases site.heard_update_append str now deviceId nodeId report with
        ⟨first, one⟩
      rcases ih (site.update str now deviceId report) with ⟨others, all⟩
      refine ⟨first ++ others, ?_⟩
      rw [List.foldl_cons, all, one, List.append_assoc]

theorem Site.Own.silent_update (own : site.Own nodeId)
    (found : site.devices.get? deviceId = some device) (bound : device.nodeId = some nodeId)
    {report : Int × PyJson}
    (unknown : ¬Known ((site.update str now deviceId report).heard nodeId)) :
    (site.update str now deviceId report).devices.get? deviceId = some device := by
  rw [Site.get?_devices_update found]
  rw [Site.heard_update found bound, Function.update_self] at unknown
  cases own.written str now bound report with
  | ignored _ nothing =>
      rw [nothing]
      rfl
  | answered _ attributes same given =>
      rw [given, statesOf_of_not_known same unknown]
      rfl

theorem Site.Own.silent_updates (own : site.Own nodeId) (source : Int)
    (found : site.devices.get? deviceId = some device) (bound : device.nodeId = some nodeId)
    (reports : List (Int × PyJson))
    (unknown : ¬Known ((reports.foldl
      (fun site report => site.update str now source report) site).heard nodeId)) :
    (reports.foldl (fun site report => site.update str now source report) site).devices.get?
      deviceId = some device := by
  induction reports generalizing site with
  | nil => exact found
  | cons report rest ih =>
      apply ih (own.update source report) _ unknown
      by_cases here : source = deviceId
      · subst here
        apply own.silent_update found bound
        intro known
        rcases (site.update str now source report).heard_updates_append str now source nodeId
          rest with ⟨more, all⟩
        rw [List.foldl_cons, all] at unknown
        exact unknown (known.append more)
      · rw [Site.get?_devices_update_of_ne (Ne.symm here)]
        exact found

theorem get?_markReachable {device : NodeDevice} {value : Bool} {key : String}
    (other : key ≠ "reachable") :
    (Site.markReachable device value).states.get? key = device.states.get? key := by
  unfold Site.markReachable
  split
  · show (device.states.set "reachable" _).get? key = _
    rw [InsertionMap.get?_set, if_neg other]
  · rfl

/-- Until a node has reported its role and its neighbours nothing changes a state of its
device, but that it is reachable. -/
theorem Site.Own.silent_step {event : Event} {after : Site} (own : site.Own nodeId)
    (taken : ThreadReports.step str site event = some after)
    (found : site.devices.get? deviceId = some device) (bound : device.nodeId = some nodeId)
    (unknown : ¬Known (after.heard nodeId)) {device' : NodeDevice}
    (found' : after.devices.get? deviceId = some device') {key : String}
    (other : key ≠ "reachable") : device'.states.get? key = device.states.get? key := by
  cases event with
  | updated now source report =>
      cases taken
      have kept := own.silent_updates source found bound [report] unknown
      rw [Option.some.inj (found'.symm.trans kept)]
  | primed now source snapshot =>
      cases taken
      rw [Site.prime_eq_foldl] at unknown found'
      rw [Option.some.inj (found'.symm.trans (own.silent_updates source found bound snapshot unknown))]
  | reachability source value =>
      rcases Option.map_eq_some_iff.mp taken with ⟨marked, there, rfl⟩
      by_cases here : deviceId = source
      · subst here
        rw [InsertionMap.get?_set_self] at found'
        cases found'
        rw [get?_markReachable other, Option.some.inj (found.symm.trans there)]
      · rw [InsertionMap.get?_set, if_neg here] at found'
        rw [Option.some.inj (found.symm.trans found')]
  | decommissioned node =>
      cases taken
      rw [InsertionMap.get?_mapValues, found] at found'
      cases found'
      show (if _ then _ else _ : NodeDevice).states.get? key = _
      split
      · exact get?_markReachable other
      · rfl
  | commissioned node =>
      cases taken
      rw [Option.some.inj (found.symm.trans found')]
  | deviceMade source made =>
      have unused : (if site.devices.has source then none
          else some { site with devices := site.devices.set source made }) = some after := taken
      split at unused
      · cases unused
      · rename_i absent
        cases unused
        have apart : deviceId ≠ source := by
          rintro rfl
          apply absent
          unfold InsertionMap.has
          rw [found]
          rfl
        rw [InsertionMap.get?_set, if_neg apart] at found'
        rw [Option.some.inj (found.symm.trans found')]
  | deviceDeleted source =>
      cases taken
      rw [InsertionMap.get?_delete] at found'
      split at found'
      · cases found'
      · rw [Option.some.inj (found.symm.trans found')]
  | restarted =>
      cases taken
      rw [Option.some.inj (found.symm.trans found')]

end Silence

/-! ## A complete set -/

/-- The device holds every state that the values reported so far have. -/
def Shows (str : PyJson → String) (device : NodeDevice) (nodeId : Int)
    (reports : List (Int × PyJson)) : Prop :=
  ∀ diag, parseNodeDiag str (device.subject nodeId) (lastValues reports) = some diag →
    ∀ now key value, (diag.summaryStates now).lookup key = some value →
      device.states.has key = true → device.states.get? key = some value

/-- The device holds what it held at first of every state that the values reported so far
omit. -/
def Keeps (str : PyJson → String) (origin device : NodeDevice) (nodeId : Int)
    (reports : List (Int × PyJson)) : Prop :=
  ∀ key, (Known reports → ∀ diag,
      parseNodeDiag str (device.subject nodeId) (lastValues reports) = some diag →
        key ∉ diag.stateNames) →
    device.states.get? key = origin.states.get? key

/-- How far a device is with what has been delivered to it since `origin`, where its node
had reported `earlier`. -/
structure Progress (str : PyJson → String) (deviceId nodeId : Int)
    (earlier : List (Int × PyJson)) (origin : NodeDevice) (site : Site) (device : NodeDevice)
    (delivered : List (Int × PyJson)) : Prop where
  found : site.devices.get? deviceId = some device
  alike : Alike device origin
  heard : site.heard nodeId = earlier ++ delivered
  shows : Known (earlier ++ delivered) →
    (∃ attributeId ∈ delivered.map Prod.fst, attributeId ∈ SUBSCRIBED_ATTRS) →
      Shows str device nodeId (earlier ++ delivered)
  keeps : ATTR_ROUTING_ROLE ∉ earlier.map Prod.fst → ATTR_NEIGHBOR_TABLE ∉ earlier.map Prod.fst →
    (delivered.map Prod.fst).Nodup → Keeps str origin device nodeId (earlier ++ delivered)

section Completeness

variable {str : PyJson → String} {now : Rat} {site : Site} {deviceId nodeId : Int}
  {device origin : NodeDevice} {earlier delivered reports : List (Int × PyJson)}

theorem Alike.subject_eq {first second : NodeDevice} (alike : Alike first second) (nodeId : Int) :
    first.subject nodeId = second.subject nodeId := by
  unfold NodeDevice.subject
  rw [alike.name, alike.reachable]

theorem attr_append_of_ne {report : Int × PyJson} {attributeId : Int}
    (apart : attributeId ≠ report.1) :
    attr (lastValues (reports ++ [report])) attributeId = attr (lastValues reports) attributeId := by
  unfold attr
  rw [get?_lastValues_append_single, if_neg apart]

theorem known_of_append_single {report : Int × PyJson} (role : ATTR_ROUTING_ROLE ≠ report.1)
    (table : ATTR_NEIGHBOR_TABLE ≠ report.1) (known : Known (reports ++ [report])) :
    Known reports := by
  unfold Known at known
  simp only [List.map_append, List.map_cons, List.map_nil, List.mem_append, List.mem_singleton]
    at known
  exact ⟨known.1.resolve_right role, known.2.resolve_right table⟩

theorem exists_parse_of_known (str : PyJson → String) (subject : DiagSubject) (known : Known reports) :
    ∃ diag, parseNodeDiag str subject (lastValues reports) = some diag :=
  parseNodeDiag_of_role str subject (InsertionMap.mem_keys_ofList.mpr known.1)

/-- A report of a value that the handler does not keep changes no state. -/
theorem Shows.unsubscribed (shows : Shows str device nodeId reports) (known : Known reports)
    {report : Int × PyJson} (unsubscribed : report.1 ∉ SUBSCRIBED_ATTRS) :
    Shows str device nodeId (reports ++ [report]) := by
  intro diag parsed now key value listed declared
  rcases exists_parse_of_known str (device.subject nodeId) known with ⟨before, parsed'⟩
  have same : SameReadings (lastValues reports) (lastValues (reports ++ [report])) :=
    sameReadings_append_unsubscribed (fun _ _ => rfl) unsubscribed
  apply shows before parsed' now key value _ declared
  rw [summaryStates_of_sameReadings same parsed' parsed]
  exact listed

/-- Neither the role nor the neighbours have been reported again, so the same states are
omitted as before. -/
theorem Keeps.of_sameLinks (keeps : Keeps str origin device nodeId reports)
    {report : Int × PyJson} (role : Known reports → ATTR_ROUTING_ROLE ≠ report.1)
    (table : Known reports → ATTR_NEIGHBOR_TABLE ≠ report.1) {key : String}
    (omitted : Known (reports ++ [report]) → ∀ diag,
      parseNodeDiag str (device.subject nodeId) (lastValues (reports ++ [report])) = some diag →
        key ∉ diag.stateNames) : device.states.get? key = origin.states.get? key := by
  apply keeps key
  intro known diag parsed
  rcases exists_parse_of_known str (device.subject nodeId) (known.append [report]) with
    ⟨later, parsed'⟩
  rw [stateNames_of_sameLinks (attr_append_of_ne (role known)).symm
    (attr_append_of_ne (table known)).symm parsed parsed']
  exact omitted (known.append [report]) later parsed'

theorem apart_of_nodup {attributeId : Int} {report : Int × PyJson}
    (absent : attributeId ∉ earlier.map Prod.fst)
    (nodup : ((delivered ++ [report]).map Prod.fst).Nodup)
    (present : attributeId ∈ (earlier ++ delivered).map Prod.fst) : attributeId ≠ report.1 := by
  rintro rfl
  rw [List.map_append, List.mem_append] at present
  rw [List.map_append, List.nodup_append] at nodup
  exact nodup.2.2 _ (present.resolve_left absent) _ (by simp) rfl

section Answer

variable {attributes : ClusterValues}

theorem alike_answered :
    Alike (device.applyStates (statesOf str now device nodeId attributes)) device :=
  NodeDevice.alike_applyStates fun _ => writable_of_mem_statesOf

/-- The answer to a report puts every state there is on the device. -/
theorem shows_answered (same : SameReadings attributes (lastValues reports))
    (known : Known reports) :
    Shows str (device.applyStates (statesOf str now device nodeId attributes)) nodeId reports := by
  intro diag parsed later key value listed declared
  rcases statesOf_of_known str now device nodeId same
    known with ⟨answered, parsed', given⟩
  rw [alike_answered.subject_eq, parsed'] at parsed
  cases parsed
  rw [alike_answered.declared] at declared
  rw [NodeDevice.get?_applyStates, given, if_pos declared, diag.summaryStates_now now later,
    listed]
  rfl

/-- It touches no state that is omitted. -/
theorem get?_answered_of_omitted (same : SameReadings attributes (lastValues reports))
    {key : String}
    (omitted : Known reports → ∀ diag,
      parseNodeDiag str (device.subject nodeId) (lastValues reports) = some diag →
        key ∉ diag.stateNames) :
    (device.applyStates (statesOf str now device nodeId attributes)).states.get? key =
      device.states.get? key := by
  by_cases known : Known reports
  · rcases statesOf_of_known str now device nodeId same
      known with ⟨answered, parsed, given⟩
    have absent : (answered.summaryStates now).lookup key = none :=
      NodeDiag.lookup_summaryStates_eq_none_iff.mpr (omitted known answered parsed)
    rw [NodeDevice.get?_applyStates, given, absent, ite_self, Option.none_or]
  · rw [statesOf_of_not_known same known]
    rfl

end Answer

theorem Progress.update (now : Rat) (own : site.Own nodeId)
    (progress : Progress str deviceId nodeId earlier origin site device delivered)
    (bound : device.nodeId = some nodeId) (report : Int × PyJson) :
    ∃ device', Progress str deviceId nodeId earlier origin
      (site.update str now deviceId report) device' (delivered ++ [report]) := by
  have written := own.written str now bound report
  have alike : Alike
      (device.applyStates (onAttributeUpdate str now site.nodeAttrs device report).2) device :=
    NodeDevice.alike_applyStates fun entry => writable_of_mem_onAttributeUpdate
  rw [progress.heard] at written
  refine ⟨_, Site.get?_devices_update progress.found report, alike.trans progress.alike, ?_, ?_,
    ?_⟩
  · rw [Site.heard_update progress.found bound, Function.update_self, progress.heard,
      List.append_assoc]
  · intro known someSubscribed
    rw [← List.append_assoc] at known ⊢
    cases written with
    | ignored unsubscribed nothing =>
        rw [nothing]
        have before : Known (earlier ++ delivered) := by
          apply known_of_append_single _ _ known
          · rintro same
            exact unsubscribed (same ▸ by decide)
          · rintro same
            exact unsubscribed (same ▸ by decide)
        apply (progress.shows before _).unsubscribed before unsubscribed
        rcases someSubscribed with ⟨attributeId, member, subscribed⟩
        rw [List.map_append, List.mem_append] at member
        refine ⟨attributeId, member.resolve_right ?_, subscribed⟩
        intro last
        cases List.mem_singleton.mp last
        exact unsubscribed subscribed
    | answered _ attributes same given =>
        rw [given]
        exact shows_answered same known
  · intro role table nodup key omitted
    rw [← List.append_assoc] at omitted
    rw [alike.subject_eq] at omitted
    have before := progress.keeps role table
      ((List.map_append ▸ nodup).of_append_left)
    cases written with
    | ignored unsubscribed nothing =>
        rw [nothing]
        refine before.of_sameLinks ?_ ?_ omitted
        · rintro _ same
          exact unsubscribed (same ▸ by decide)
        · rintro _ same
          exact unsubscribed (same ▸ by decide)
    | answered _ attributes same given =>
        rw [given, get?_answered_of_omitted same omitted]
        refine before.of_sameLinks ?_ ?_ omitted
        · intro known
          exact apart_of_nodup role nodup known.1
        · intro known
          exact apart_of_nodup table nodup known.2

theorem Progress.updates (now : Rat) (own : site.Own nodeId)
    (progress : Progress str deviceId nodeId earlier origin site device delivered)
    (bound : origin.nodeId = some nodeId) (reports : List (Int × PyJson)) :
    ∃ device', Progress str deviceId nodeId earlier origin
      (reports.foldl (fun site report => site.update str now deviceId report) site) device'
      (delivered ++ reports) := by
  induction reports generalizing site device delivered with
  | nil => exact ⟨device, by simpa using progress⟩
  | cons report rest ih =>
      rcases progress.update now own (progress.alike.nodeId.trans bound) report with
        ⟨next, further⟩
      simpa using ih (own.update deviceId report) further

end Completeness

/-- What may happen while a set is delivered to a device: anything that concerns neither
the device nor its node, but for the reports to the device themselves. -/
def Undisturbed (deviceId nodeId : Int) (site : Site) : Event → Prop
  | .updated _ other _ | .primed _ other _ =>
      other = deviceId ∨ (site.devices.get? other).bind NodeDevice.nodeId ≠ some nodeId
  | .reachability other _ | .deviceDeleted other => other ≠ deviceId
  | .decommissioned other | .commissioned other => other ≠ nodeId
  | .deviceMade _ _ => True
  | .restarted => False

theorem Undisturbed.freshId {deviceId nodeId : Int} {site : Site} {event : Event}
    (undisturbed : Undisturbed deviceId nodeId site event) : FreshId nodeId site event := by
  cases event with
  | commissioned other =>
      intro same
      exact absurd same undisturbed
  | _ => trivial

/-- A value of every attribute that the node is known to report, the role and the neighbours
among them. -/
structure CompleteSet (earlier values : List (Int × PyJson)) : Prop where
  nodup : (values.map Prod.fst).Nodup
  known : Known values
  covers : ∀ attributeId ∈ SUBSCRIBED_ATTRS, attributeId ∈ earlier.map Prod.fst →
    attributeId ∈ values.map Prod.fst

section Delivery

variable {str : PyJson → String} {site : Site} {deviceId nodeId : Int}
  {device origin : NodeDevice} {earlier delivered values : List (Int × PyJson)}

theorem Progress.elsewhere {after : Site}
    (progress : Progress str deviceId nodeId earlier origin site device delivered)
    (devices : after.devices.get? deviceId = site.devices.get? deviceId)
    (heard : after.heard nodeId = site.heard nodeId) :
    Progress str deviceId nodeId earlier origin after device delivered where
  found := devices.trans progress.found
  alike := progress.alike
  heard := heard.trans progress.heard
  shows := progress.shows
  keeps := progress.keeps

theorem Site.hear_of_ne {other : NodeDevice} (apart : other.nodeId ≠ some nodeId)
    (reports : List (Int × PyJson)) : site.hear other reports nodeId = site.heard nodeId := by
  unfold hear
  cases bound : other.nodeId with
  | none => rfl
  | some owner =>
      have differs : nodeId ≠ owner := by
        rintro rfl
        exact apart bound
      exact Function.update_of_ne differs _ _

/-- A snapshot delivered to the device, or to that of another node. -/
theorem Progress.prime {source : Int} (own : site.Own nodeId)
    (progress : Progress str deviceId nodeId earlier origin site device delivered)
    (bound : origin.nodeId = some nodeId) (now : Rat) (snapshot : List (Int × PyJson))
    (undisturbed : source = deviceId ∨
      (site.devices.get? source).bind NodeDevice.nodeId ≠ some nodeId) :
    ∃ device' delivered', Progress str deviceId nodeId earlier origin
      (site.prime str now source snapshot) device' delivered' := by
  rcases undisturbed with rfl | apart
  · rw [Site.prime_eq_foldl]
    rcases progress.updates now own bound snapshot with ⟨next, further⟩
    exact ⟨next, _, further⟩
  · refine ⟨device, delivered, ?_⟩
    have owner := progress.alike.nodeId.trans bound
    cases there : site.devices.get? source with
    | none =>
        unfold Site.prime
        rw [there]
        exact progress
    | some other =>
        rw [there] at apart
        rw [Site.prime_eq there]
        apply progress.elsewhere _ (Site.hear_of_ne apart snapshot)
        have differs : deviceId ≠ source := by
          rintro rfl
          rw [progress.found] at there
          cases there
          exact apart owner
        show (site.devices.set source _).get? deviceId = _
        rw [InsertionMap.get?_set, if_neg differs]

theorem Progress.step {event : Event} {after : Site} (own : site.Own nodeId)
    (progress : Progress str deviceId nodeId earlier origin site device delivered)
    (bound : origin.nodeId = some nodeId) (undisturbed : Undisturbed deviceId nodeId site event)
    (taken : ThreadReports.step str site event = some after) :
    ∃ device' delivered', Progress str deviceId nodeId earlier origin after device' delivered' := by
  cases event with
  | updated now source report =>
      cases taken
      have one : site.update str now source report = site.prime str now source [report] :=
        (Site.prime_eq_foldl str now site source [report]).symm
      rw [one]
      exact progress.prime own bound now [report] undisturbed
  | primed now source snapshot =>
      cases taken
      exact progress.prime own bound now snapshot undisturbed
  | reachability source value =>
      rcases Option.map_eq_some_iff.mp taken with ⟨marked, there, rfl⟩
      refine ⟨device, delivered, progress.elsewhere ?_ rfl⟩
      rw [InsertionMap.get?_set, if_neg (Ne.symm undisturbed)]
  | decommissioned node =>
      cases taken
      have other : device.nodeId ≠ some node := by
        rw [progress.alike.nodeId, bound]
        rintro same
        exact undisturbed (Option.some.inj same).symm
      refine ⟨device, delivered, progress.elsewhere ?_ rfl⟩
      rw [InsertionMap.get?_mapValues, progress.found, Option.map_some, if_neg other]
  | commissioned node =>
      cases taken
      exact ⟨device, delivered,
        progress.elsewhere rfl (Function.update_of_ne (Ne.symm undisturbed) _ _)⟩
  | deviceMade source made =>
      have unused : (if site.devices.has source then none
          else some { site with devices := site.devices.set source made }) = some after := taken
      split at unused
      · cases unused
      · rename_i absent
        cases unused
        refine ⟨device, delivered, progress.elsewhere ?_ rfl⟩
        have apart : deviceId ≠ source := by
          rintro rfl
          apply absent
          unfold InsertionMap.has
          rw [progress.found]
          rfl
        rw [InsertionMap.get?_set, if_neg apart]
  | deviceDeleted source =>
      cases taken
      refine ⟨device, delivered, progress.elsewhere ?_ rfl⟩
      rw [InsertionMap.get?_delete, if_neg (Ne.symm undisturbed)]
  | restarted => exact undisturbed.elim

theorem Progress.start (found : site.devices.get? deviceId = some device) :
    Progress str deviceId nodeId (site.heard nodeId) device site device [] where
  found := found
  alike := .refl device
  heard := (List.append_nil _).symm
  shows _ delivered := by
    rcases delivered with ⟨_, member, _⟩
    cases member
  keeps _ _ _ _ _ := rfl

theorem progress_of_run {later : List Event} {after : Site} (own : site.Own nodeId)
    (run : RunWhere (step str) (Undisturbed deviceId nodeId) site later after)
    (found : site.devices.get? deviceId = some device) (bound : device.nodeId = some nodeId) :
    after.Own nodeId ∧ ∃ device' delivered,
      Progress str deviceId nodeId (site.heard nodeId) device after device' delivered := by
  induction run with
  | nil => exact ⟨own, device, [], .start found⟩
  | snoc _ meets taken ih =>
      rcases ih with ⟨ownBefore, device', delivered, progress⟩
      exact ⟨ownBefore.step meets.freshId taken, progress.step ownBefore bound meets taken⟩

/-- Whatever a complete set comes after, and in whatever order, its values are what is kept. -/
theorem sameReadings_of_completeSet (complete : CompleteSet earlier values)
    (perm : delivered.Perm values) :
    SameReadings (lastValues (earlier ++ delivered)) (lastValues values) := by
  intro attributeId subscribed
  have agree : ∀ value other, (attributeId, value) ∈ delivered → (attributeId, other) ∈ delivered →
      value = other := by
    intro value other first second
    have nodup : (delivered.map Prod.fst).Nodup :=
      (perm.map Prod.fst).nodup_iff.mpr complete.nodup
    have same := List.inj_on_of_nodup_map nodup first second rfl
    exact congrArg Prod.snd same
  rw [InsertionMap.get?_ofList_append, InsertionMap.get?_ofList_of_perm perm agree]
  by_cases before : attributeId ∈ earlier.map Prod.fst
  · rcases InsertionMap.mem_keys_iff.mp
      (InsertionMap.mem_keys_ofList.mpr (complete.covers attributeId subscribed before)) with
      ⟨value, held⟩
    rw [held]
    rfl
  · have absent : (lastValues earlier).get? attributeId = none := by
      rw [InsertionMap.get?_eq_none_iff, InsertionMap.mem_keys_ofList]
      exact before
    rw [absent, Option.or_none]

end Delivery

/-- In a history where no node takes over an id while the handler still keeps values of it:
until the node that has the id has itself reported its role and its neighbours, nothing
changes a state of its device; a complete set of values, delivered in any order and by
whatever mix of updates and replays, leaves on the device every state that
`summary_states` gives for exactly these values, and where neither the role nor the
neighbours had been reported before the set, a state that it omits is as it was. -/
theorem threadStates_of_own_reports {str : PyJson → String} {nodeId : Int} {events : List Event}
    {site : Site} (run : RunWhere (step str) (FreshId nodeId) start events site) :
    (∀ event after deviceId device device' key, step str site event = some after →
      site.devices.get? deviceId = some device → device.nodeId = some nodeId →
      ¬Known (after.heard nodeId) → after.devices.get? deviceId = some device' →
      key ≠ "reachable" → device'.states.get? key = device.states.get? key) ∧
    (∀ later after deviceId device delivered values,
      RunWhere (step str) (Undisturbed deviceId nodeId) site later after →
      site.devices.get? deviceId = some device → device.nodeId = some nodeId →
      after.heard nodeId = site.heard nodeId ++ delivered → delivered.Perm values →
      CompleteSet (site.heard nodeId) values →
      ∃ device' diag, after.devices.get? deviceId = some device' ∧
        parseNodeDiag str (device'.subject nodeId) (lastValues values) = some diag ∧
        ∀ now key, device'.states.has key = true →
          match (diag.summaryStates now).lookup key with
          | some value => device'.states.get? key = some value
          | none =>
              ATTR_ROUTING_ROLE ∉ (site.heard nodeId).map Prod.fst →
                ATTR_NEIGHBOR_TABLE ∉ (site.heard nodeId).map Prod.fst →
                device'.states.get? key = device.states.get? key) := by
  have own := Site.own_of_run run
  constructor
  · intro event after deviceId device device' key taken found bound unknown found' other
    exact own.silent_step taken found bound unknown found' other
  · intro later after deviceId device delivered values rest found bound heard perm complete
    rcases progress_of_run own rest found bound with ⟨_, device', delivered', progress⟩
    have same : delivered' = delivered :=
      List.append_cancel_left (progress.heard.symm.trans heard)
    subst same
    have readings := sameReadings_of_completeSet complete perm
    have keys : ∀ attributeId, attributeId ∈ values.map Prod.fst →
        attributeId ∈ delivered'.map Prod.fst := by
      intro attributeId member
      exact (perm.map Prod.fst).mem_iff.mpr member
    have known : Known (site.heard nodeId ++ delivered') := by
      unfold Known
      simp only [List.map_append, List.mem_append]
      exact ⟨.inr (keys _ complete.known.1), .inr (keys _ complete.known.2)⟩
    rcases exists_parse_of_known str (device'.subject nodeId) complete.known with
      ⟨diag, parsed⟩
    rcases exists_parse_of_known str (device'.subject nodeId) known with
      ⟨reported, parsed'⟩
    refine ⟨device', diag, progress.found, parsed, fun now key declared => ?_⟩
    rw [← summaryStates_of_sameReadings readings parsed' parsed]
    split
    · rename_i value listed
      exact progress.shows known ⟨_, keys _ complete.known.1, by decide⟩ reported parsed' now key
        value listed declared
    · rename_i omitted
      intro role table
      apply progress.keeps role table ((perm.map Prod.fst).nodup_iff.mpr complete.nodup) key
      intro _ other parsedOther
      rw [parsed'] at parsedOther
      cases parsedOther
      exact NodeDiag.lookup_summaryStates_eq_none_iff.mp omitted

/-! ## Runs -/

/-- The device of node five as it is made. -/
def bulb : NodeDevice where
  name := "Bulb"
  nodeId := some 5
  states := .ofList
    [("reachable", .bool true), ("threadRole", .str ""), ("threadNeighbourCount", .int 0),
      ("threadLinkRssi", .int 0), ("threadHealth", .str "")]

/-- A router nearby. -/
def parentRow : PyJson :=
  .dict
    [("0", .int 1), ("1", .int 0), ("2", .int 1024), ("5", .int 3), ("6", .int (-50)),
      ("7", .int (-50)), ("8", .int 0), ("9", .int 0), ("10", .bool true), ("11", .bool true),
      ("13", .bool false)]

/-- Everything a sleepy end device reports. -/
def sleepyReports (neighbours : List PyJson) : List (Int × PyJson) :=
  [(ATTR_ROUTING_ROLE, .int 2), (ATTR_NEIGHBOR_TABLE, .list neighbours),
    (ATTR_ROUTE_TABLE, .list []), (ATTR_LEADER_ROUTER_ID, .int 3),
    (ATTR_PARENT_CHANGE_COUNT, .int 0),
    (ATTR_ATTRIBUTE_LIST, .list [.int 1, .int 7, .int 8, .int 13, .int 21])]

theorem threadStates_of_own_reports_sleepy :
    ∃ device, ((step fun _ => "") ⟨∅, .ofList [(1, bulb)], fun _ => []⟩
      (.primed 0 1 (sleepyReports [parentRow]).reverse)).bind (·.devices.get? 1) = some device ∧
        device.states.get? "threadLinkRssi" = some (.int (-50)) := by
  have made : RunWhere (step fun _ => "") (FreshId 5) start [.deviceMade 1 bulb]
      ⟨∅, .ofList [(1, bulb)], fun _ => []⟩ :=
    .snoc .nil trivial rfl
  have complete : CompleteSet [] (sleepyReports [parentRow]) :=
    ⟨by decide, ⟨by decide, by decide⟩, fun _ _ earlier => by cases earlier⟩
  rcases (threadStates_of_own_reports made).2
    [.primed 0 1 (sleepyReports [parentRow]).reverse] _ 1 bulb
    (sleepyReports [parentRow]).reverse (sleepyReports [parentRow])
    (.snoc .nil (.inl rfl) rfl) rfl rfl rfl (List.reverse_perm _) complete with
    ⟨device, diag, found, parsed, states⟩
  cases found
  cases parsed
  exact ⟨_, rfl, states 0 "threadLinkRssi" rfl⟩

/-- Node five is decommissioned and another node takes its id, with a device of its own. -/
def handedOver : List Event :=
  [.deviceMade 1 bulb, .primed 0 1 (sleepyReports [parentRow]), .decommissioned 5,
    .deviceDeleted 1, .commissioned 5, .deviceMade 2 bulb]

/-- A node that takes over an id shows the role of the one before it, and a device goes on
showing the strength of a link that it no longer has. -/
theorem leftovers_remain :
    (∃ events site after device device',
      Run (step fun _ => "") start events site ∧
      step (fun _ => "") site (.updated 0 2 (ATTR_LEADER_ROUTER_ID, .int 3)) = some after ∧
      site.devices.get? 2 = some device ∧ device.nodeId = some 5 ∧
      after.heard 5 = [(ATTR_LEADER_ROUTER_ID, .int 3)] ∧ ¬Known (after.heard 5) ∧
      after.devices.get? 2 = some device' ∧
      device.states.get? "threadRole" = some (.str "") ∧
      device'.states.get? "threadRole" = some (.str "SleepyEndDevice")) ∧
    (∃ events site after device diag,
      RunWhere (step fun _ => "") (FreshId 5) start events site ∧
      step (fun _ => "") site (.primed 0 1 (sleepyReports [])) = some after ∧
      CompleteSet (site.heard 5) (sleepyReports []) ∧
      after.devices.get? 1 = some device ∧
      parseNodeDiag (fun _ => "") (device.subject 5) (lastValues (sleepyReports [])) =
        some diag ∧
      (diag.summaryStates 0).lookup "threadLinkRssi" = none ∧
      bulb.states.get? "threadLinkRssi" = some (.int 0) ∧
      device.states.get? "threadLinkRssi" = some (.int (-50))) := by
  constructor
  · have run : Run (step fun _ => "") start handedOver
        ((follow (step fun _ => "") (fun _ _ => True) start handedOver).getD start) :=
      runWhere_follow_getD rfl start
    refine ⟨handedOver, _, _, _, _, run, rfl, rfl, rfl, rfl, ?_, rfl, rfl, rfl⟩
    rintro ⟨role, _⟩
    exact absurd role (by decide)
  · have run : RunWhere (step fun _ => "") (FreshId 5) start
        [.deviceMade 1 bulb, .primed 0 1 (sleepyReports [parentRow])]
        ((Site.mk ∅ (.ofList [(1, bulb)]) fun _ => []).prime (fun _ => "") 0 1
          (sleepyReports [parentRow])) :=
      .snoc (.snoc .nil trivial rfl) trivial rfl
    refine ⟨_, _, _, _, _, run, rfl, ⟨by decide, ⟨by decide, by decide⟩, ?_⟩, rfl, rfl, rfl, rfl,
      rfl⟩
    intro attributeId subscribed _
    revert attributeId
    decide

end ThreadReports

end IndigoMatter.Plugin
