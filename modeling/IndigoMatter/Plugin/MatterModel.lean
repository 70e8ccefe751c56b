import IndigoMatter.Library.InsertionMap
import IndigoMatter.Library.PyJson
import Mathlib.Data.List.Dedup
import Mathlib.Data.List.Sort

/-!
# The model of a Matter node

The server describes a node by one flat map from `endpoint/cluster/attribute` to a
value.  Endpoints and the clusters they carry are read off those paths, so an
endpoint without an attribute does not exist.

Names, labels and vendor data are left out.
-/

namespace IndigoMatter.Plugin

open IndigoMatter.Library

abbrev NodeId := Int

/-- `node_id_to_str`. -/
def nodeIdToStr (nodeId : NodeId) : String :=
  let digits (n : Nat) := String.ofList ((Nat.toDigits 16 n).map Char.toUpper)
  match nodeId with
  | .ofNat n => "0x" ++ digits n
  | .negSucc n => "0x-" ++ digits (n + 1)

abbrev EndpointId := Int

abbrev ClusterId := Int

/-- The path of one attribute of a node. -/
structure AttributePath where
  endpoint : EndpointId
  cluster : ClusterId
  attributeId : Int
deriving DecidableEq

/-- `EndpointInfo`. -/
structure EndpointInfo where
  endpointId : EndpointId
  clusterIds : List ClusterId
  deviceTypes : List Int
deriving DecidableEq

/-- `NodeInfo`. -/
structure NodeInfo where
  nodeId : NodeId
  available : Bool
  endpoints : List EndpointInfo
  attributes : InsertionMap AttributePath PyJson

/-- `EndpointInfo.has`. -/
def EndpointInfo.has (endpoint : EndpointInfo) (cluster : ClusterId) : Bool :=
  cluster ∈ endpoint.clusterIds

/-- `_to_int` of a text: decimal first, then the prefixed forms. -/
def toInt? (text : List Char) : Option Int :=
  pyInt? text <|> pyIntWithPrefix? text

/-- `Protocol.parse_attr_key`; `none` where it raises. -/
def parseAttrKey? (key : String) : Option AttributePath :=
  match key.toList.splitOn '/' with
  | [endpoint, cluster, attributeId] => do
      return ⟨← toInt? endpoint, ← toInt? cluster, ← toInt? attributeId⟩
  | _ => none

/-- `_normalise_attributes`: keys that do not parse are skipped. -/
def normaliseAttributes (raw : List (String × PyJson)) : InsertionMap AttributePath PyJson :=
  raw.foldl
    (fun out entry =>
      match parseAttrKey? entry.1 with
      | some path => out.set path entry.2
      | none => out)
    ∅

/-- The attribute that lists an endpoint's device types. -/
def deviceTypeListPath (endpoint : EndpointId) : AttributePath := ⟨endpoint, 0x001D, 0x0000⟩

/-- The device type of one entry of the list, where it has one. -/
def deviceTypeEntry? : PyJson → Option PyJson
  | .dict fields =>
      match PyJson.field? fields "0" with
      | some .null => none
      | found => found
  | _ => none

/-- `_device_types`; `none` where an entry does not convert. -/
def deviceTypes? (attributes : InsertionMap AttributePath PyJson) (endpoint : EndpointId) :
    Option (List Int) :=
  match attributes.get? (deviceTypeListPath endpoint) with
  | some (.list entries) => (entries.filterMap deviceTypeEntry?).mapM PyJson.toInt?
  | _ => some []

/-- The endpoints that have an attribute, in ascending order. -/
def endpointIds (attributes : InsertionMap AttributePath PyJson) : List EndpointId :=
  (attributes.keys.map AttributePath.endpoint).dedup.insertionSort (· ≤ ·)

/-- The clusters an endpoint has an attribute of. -/
def clustersOf (attributes : InsertionMap AttributePath PyJson) (endpoint : EndpointId) :
    List ClusterId :=
  ((attributes.keys.filter (·.endpoint = endpoint)).map AttributePath.cluster).dedup

/-- `raw.get("attributes") or {}`; `none` where it has no items. -/
def rawAttributes? (raw : List (String × PyJson)) : Option (List (String × PyJson)) :=
  match PyJson.field? raw "attributes" with
  | some (.dict fields) => some fields
  | some other => if other.truthy then none else some []
  | none => some []

/-- `parse_node`; `none` where it raises. -/
def parseNode? (raw : List (String × PyJson)) : Option NodeInfo := do
  let attributes := normaliseAttributes (← rawAttributes? raw)
  let endpoints ← (endpointIds attributes).mapM fun endpoint => do
    return ⟨endpoint, clustersOf attributes endpoint, ← deviceTypes? attributes endpoint⟩
  let nodeId ← (PyJson.field? raw "node_id").bind PyJson.toInt?
  return {
    nodeId
    available := ((PyJson.field? raw "available").getD (.bool true)).truthy
    endpoints
    attributes
  }

/-! ## Endpoints come from attribute paths -/

theorem mem_endpointIds {attributes : InsertionMap AttributePath PyJson} {endpoint : EndpointId} :
    endpoint ∈ endpointIds attributes ↔ ∃ path ∈ attributes.keys, path.endpoint = endpoint := by
  simp [endpointIds]

theorem endpointIds_nodup (attributes : InsertionMap AttributePath PyJson) :
    (endpointIds attributes).Nodup :=
  (List.perm_insertionSort _ _).nodup_iff.mpr (List.nodup_dedup _)

theorem mem_clustersOf {attributes : InsertionMap AttributePath PyJson} {endpoint : EndpointId}
    {cluster : ClusterId} :
    cluster ∈ clustersOf attributes endpoint ↔
      ∃ path ∈ attributes.keys, path.endpoint = endpoint ∧ path.cluster = cluster := by
  simp [clustersOf, and_assoc]

/-- A node model whose endpoints are those of its attributes. -/
structure NodeInfo.Derived (node : NodeInfo) : Prop where
  endpointIds_eq : node.endpoints.map (·.endpointId) = endpointIds node.attributes
  clusterIds_eq : ∀ endpoint ∈ node.endpoints,
    endpoint.clusterIds = clustersOf node.attributes endpoint.endpointId

private theorem describeAll_eq_some {attributes : InsertionMap AttributePath PyJson}
    {ids : List EndpointId} {endpoints : List EndpointInfo}
    (described : (ids.mapM fun endpoint => do
      return ⟨endpoint, clustersOf attributes endpoint, ← deviceTypes? attributes endpoint⟩) =
        some endpoints) :
    endpoints.map (·.endpointId) = ids ∧
      ∀ endpoint ∈ endpoints, endpoint.clusterIds = clustersOf attributes endpoint.endpointId := by
  induction ids generalizing endpoints with
  | nil =>
      simp only [List.mapM_nil, Option.pure_def, Option.some.injEq] at described
      simp [← described]
  | cons id rest ih =>
      simp only [List.mapM_cons, Option.pure_def, Option.bind_eq_bind, Option.bind_eq_some_iff,
        Option.some.injEq] at described
      rcases described with ⟨first, ⟨types, _, rfl⟩, others, described, rfl⟩
      rcases ih described with ⟨ids_eq, clusters_eq⟩
      constructor
      · simp [ids_eq]
      · simpa using clusters_eq

theorem derived_of_parseNode? {raw : List (String × PyJson)} {node : NodeInfo}
    (parsed : parseNode? raw = some node) : node.Derived := by
  simp only [parseNode?, Option.bind_eq_bind, Option.pure_def, Option.bind_eq_some_iff,
    Option.some.injEq] at parsed
  rcases parsed with ⟨_, _, endpoints, described, _, _, rfl⟩
  rcases describeAll_eq_some described with ⟨ids_eq, clusters_eq⟩
  exact ⟨ids_eq, clusters_eq⟩

namespace NodeInfo.Derived

variable {node : NodeInfo}

theorem exists_endpoint (derived : node.Derived) {path : AttributePath}
    (present : path ∈ node.attributes.keys) :
    ∃ endpoint ∈ node.endpoints, endpoint.endpointId = path.endpoint := by
  have listed : path.endpoint ∈ node.endpoints.map (·.endpointId) := by
    rw [derived.endpointIds_eq, mem_endpointIds]
    exact ⟨path, present, rfl⟩
  simpa using listed

theorem has_iff (derived : node.Derived) {endpoint : EndpointInfo}
    (listed : endpoint ∈ node.endpoints) {cluster : ClusterId} :
    endpoint.has cluster = true ↔
      ∃ path ∈ node.attributes.keys,
        path.endpoint = endpoint.endpointId ∧ path.cluster = cluster := by
  rw [EndpointInfo.has, decide_eq_true_eq, derived.clusterIds_eq endpoint listed, mem_clustersOf]

/-- Endpoint ids are distinct. -/
theorem eq_of_endpointId_eq (derived : node.Derived) {first second : EndpointInfo}
    (firstListed : first ∈ node.endpoints) (secondListed : second ∈ node.endpoints)
    (equal : first.endpointId = second.endpointId) : first = second := by
  have nodup : (node.endpoints.map (·.endpointId)).Nodup := by
    rw [derived.endpointIds_eq]
    exact endpointIds_nodup _
  exact List.inj_on_of_nodup_map nodup firstListed secondListed equal

end NodeInfo.Derived

end IndigoMatter.Plugin
