import IndigoMatter.Library.PyJson
import IndigoMatter.Plugin.ThreadDiag
import Mathlib.Data.List.Sort

/-!
# The Thread mesh

`build_mesh` puts the diagnostics of the nodes together: a node for every
diagnosed device, for every router only the tables know, and for the child rows
nobody was found for; the links the tables report; and the flags,
disagreements and warnings.

A child row is counted as found when its address is one that some diagnosed
device's parent row carries, for that router.  What stands in for the others is
kept with the rows it stands for.
-/

namespace IndigoMatter.Plugin

open IndigoMatter.Library

/-! ## The parts of a mesh -/

structure MeshNode where
  key : MeshKey
  nodeId : Option Int
  name : String
  roleName : String
  routerId : Option Int
  rloc16 : Option Int
  foreign : Bool
  isLeader : Bool
  partitionId : Option Int
  childrenCount : Nat
deriving DecidableEq

inductive LinkKind
  | parent
  | router
  | child
deriving DecidableEq

/-- A link, as the node reports it that it is seen from. -/
structure MeshLink where
  a : MeshKey
  b : MeshKey
  kind : LinkKind
  avgRssi : Option Int
  lastRssi : Option Int
  lqi : Int
  frameErrorPct : Int
  seenFrom : MeshKey
deriving DecidableEq

structure Mesh where
  networkName : String
  channel : Option Int
  panId : Option Int
  partitionIds : List Int
  majorityPartition : Option Int
  majorityLeader : Option Int
  nodes : List MeshNode
  links : List MeshLink
  flags : List HealthFlag
  unreadable : List (Int × String)
  disagreements : List String
  warnings : List (Int × String)

/-! ## The header -/

/-- The first name that is not empty. -/
def firstNetworkName (diags : List NodeDiag) : String :=
  diags.foldl (fun name diag => if name ≠ "" then name else diag.networkName) ""

/-- The first value that is there. -/
def firstPresent (field : NodeDiag → Option Int) (diags : List NodeDiag) : Option Int :=
  diags.foldl (fun value diag => if value.isSome then value else field diag) none

/-- `Counter(values).most_common()`. -/
def mostCommon (values : List Int) : List (Int × Nat) :=
  (values.eraseDups.map fun value => (value, values.count value)).insertionSort
    fun first second => second.2 ≤ first.2

/-- `_majority`: the most common value, unless two are. -/
def majority (values : List Int) : Option Int :=
  match mostCommon values with
  | [] => none
  | [only] => some only.1
  | first :: second :: _ => if first.2 = second.2 then none else some first.1

/-- The nodes whose partition ids are counted. -/
def partitionPool (diags : List NodeDiag) : List NodeDiag :=
  let live := diags.filter fun diag => diag.source = .live
  if live.isEmpty then diags else live

def majorityPartition (diags : List NodeDiag) : Option Int :=
  majority ((partitionPool diags).filterMap NodeDiag.partitionId)

def majorityLeader (diags : List NodeDiag) : Option Int :=
  majority (diags.filterMap NodeDiag.leaderRouterId)

def partitionIds (diags : List NodeDiag) : List Int :=
  (diags.filterMap NodeDiag.partitionId).dedup.insertionSort (· ≤ ·)

/-! ## Routers -/

/-- `owned_key_by_router_id`: the last node that resolves a router id has it. -/
def ownedKeyByRouterId (diags : List NodeDiag) : InsertionMap Int MeshKey :=
  .ofList (diags.filterMap fun diag => diag.routerId.map fun routerId => (routerId, meshKey diag))

/-- The router ids a node's tables name. -/
def NodeDiag.namedRouters (diag : NodeDiag) : List Int :=
  diag.neighbours.map Neighbour.routerId ++ (diag.routes.filter Route.allocated).map Route.routerId

/-- The routers only the tables know, in order. -/
def foreignIds (diags : List NodeDiag) : List Int :=
  ((diags.flatMap NodeDiag.namedRouters).filter fun routerId =>
    !(ownedKeyByRouterId diags).has routerId).dedup.insertionSort (· ≤ ·)

/-- `target_key`. -/
def targetKey (diags : List NodeDiag) (routerId : Int) : MeshKey :=
  ((ownedKeyByRouterId diags).get? routerId).getD (.router routerId)

/-! ## Links -/

/-- The link a row reports. -/
def rowLink (a b : MeshKey) (kind : LinkKind) (row : Neighbour) (seenFrom : MeshKey) : MeshLink :=
  ⟨a, b, kind, row.avgRssi, row.lastRssi, row.lqi, row.frameErrorPct, seenFrom⟩

/-- The links a node reports: a router those to its peers, any other node the one to
its parent. -/
def reportedLinks (diags : List NodeDiag) (diag : NodeDiag) : List MeshLink :=
  if diag.isRouter then
    (diag.neighbours.filter fun row => !row.isChild).map fun row =>
      rowLink (meshKey diag) (targetKey diags row.routerId) .router row (meshKey diag)
  else
    diag.parent.toList.map fun row =>
      rowLink (meshKey diag) (targetKey diags row.routerId) .parent row (meshKey diag)

/-- `identified_child_rlocs`: the addresses in the parent rows that lead to a key. -/
def identifiedChildRlocs (diags : List NodeDiag) (key : MeshKey) : List Int :=
  ((diags.filterMap NodeDiag.parent).filter fun row => targetKey diags row.routerId = key).map
    Neighbour.rloc16

/-! ## Child rows nobody was found for -/

/-- `_worst_of`: the first with the worst reading, or with no readings at all the
first with the least address. -/
def worstOf (rows : List Neighbour) : Option Neighbour :=
  let readings := rows.filterMap fun row => (worstReading row).map fun reading => (row, reading.1)
  match minBy Prod.snd readings with
  | some (row, _) => some row
  | none => minBy Neighbour.rloc16 rows

/-- What is drawn in place of child rows, and the rows it stands for. -/
structure StandIn where
  rows : List Neighbour
  node : MeshNode
  link : MeshLink

/-- A node that is no device of its own. -/
def childNode (key : MeshKey) (name : String) (rloc16 : Option Int) : MeshNode :=
  ⟨key, none, name, "Child", none, rloc16, false, false, none, 0⟩

/-- A row drawn on its own. -/
def lone (diag : NodeDiag) (row : Neighbour) : StandIn where
  rows := [row]
  node := childNode (.child row.rloc16) ("Child 0x" ++ hexText 4 row.rloc16) (some row.rloc16)
  link := rowLink (.child row.rloc16) (meshKey diag) .child row (meshKey diag)

/-- Rows drawn as one, with the link of the worst of them. -/
def group (diag : NodeDiag) (rows : List Neighbour) (worst : Neighbour) : StandIn where
  rows := rows
  node := childNode (.unattributed diag.nodeId) s!"{rows.length} unattributed child(ren)" none
  link := rowLink (.unattributed diag.nodeId) (meshKey diag) .child worst (meshKey diag)

/-- The child rows of a node with or without an address in a parent row for it. -/
def childRows (diags : List NodeDiag) (diag : NodeDiag) (identified : Bool) : List Neighbour :=
  diag.children.filter fun row =>
    decide (row.rloc16 ∈ identifiedChildRlocs diags (meshKey diag)) = identified

/-- What a router's child rows are drawn as. -/
def standIns (diags : List NodeDiag) (diag : NodeDiag) : List StandIn :=
  if !diag.isRouter then []
  else
    let excess := childRows diags diag false
    if (childRows diags diag true).isEmpty then excess.map (lone diag)
    else (worstOf excess).toList.map (group diag excess)

/-- The warning that comes with rows drawn as one. -/
def unattributedWarning (diags : List NodeDiag) (diag : NodeDiag) : Option (Int × String) :=
  let excess := childRows diags diag false
  if !diag.isRouter ∨ excess.isEmpty ∨ (childRows diags diag true).isEmpty then none
  else
    let router := (diag.routerId.map toString).getD "?"
    some (diag.nodeId, s!"router {router}: {excess.length} of {diag.children.length} " ++
      "child entries could not be matched to an Indigo device; RLOCs not shown because they " ++
      "may belong to a device already listed")

/-! ## Nodes -/

/-- The links of the mesh. -/
def meshLinks (diags : List NodeDiag) : List MeshLink :=
  diags.flatMap (reportedLinks diags) ++
    (diags.flatMap (standIns diags)).map StandIn.link

/-- The children of a key: the parent and child links that end there. -/
def childrenCount (diags : List NodeDiag) (key : MeshKey) : Nat :=
  ((meshLinks diags).filter fun link => link.kind ≠ .router ∧ link.b = key).length

/-- The node of a diagnosed device. -/
def ownedNode (diags : List NodeDiag) (diag : NodeDiag) : MeshNode where
  key := meshKey diag
  nodeId := some diag.nodeId
  name := diag.name
  roleName := diag.roleName
  routerId := diag.routerId
  rloc16 := diag.rloc16
  foreign := false
  isLeader := diag.routerId.isSome && diag.routerId = majorityLeader diags
  partitionId := diag.partitionId
  childrenCount := childrenCount diags (meshKey diag)

/-- The node of a router only the tables know. -/
def foreignNode (diags : List NodeDiag) (routerId : Int) : MeshNode :=
  let isLeader : Bool := majorityLeader diags = some routerId
  { key := .router routerId
    nodeId := none
    name := s!"Router {routerId}" ++ if isLeader then " (leader — probably your border router)" else ""
    roleName := "Router"
    routerId := some routerId
    rloc16 := some (routerId * 1024)
    foreign := true
    isLeader := isLeader
    partitionId := none
    childrenCount := childrenCount diags (.router routerId) }

/-- The nodes of the mesh. -/
def meshNodes (diags : List NodeDiag) : List MeshNode :=
  diags.map (ownedNode diags) ++ (foreignIds diags).map (foreignNode diags) ++
    (diags.flatMap (standIns diags)).map StandIn.node

/-! ## Names in messages -/

/-- `name.split(" (", 1)[0]`. -/
def beforeParenthesis : List Char → List Char
  | [] => []
  | ' ' :: '(' :: _ => []
  | c :: rest => c :: beforeParenthesis rest

/-- The names by address; the last node with an address gives its name. -/
def namesByRloc (nodes : List MeshNode) : InsertionMap Int String :=
  .ofList (nodes.filterMap fun node =>
    node.rloc16.map fun rloc16 => (rloc16, .ofList (beforeParenthesis node.name.toList)))

section Messages

variable (wordChar : Char → Bool)

/-- The four digits behind `to 0x` at the head of a text, where a word ends behind
them. -/
def mention? : List Char → Option (List Char)
  | 't' :: 'o' :: ' ' :: '0' :: 'x' :: a :: b :: c :: d :: rest =>
      if [a, b, c, d].all (fun digit => (digitOf? digit).isSome) ∧ !(rest.head?.any wordChar) then
        some [a, b, c, d]
      else none
  | _ => none

/-- The address four digits spell. -/
def mentioned (digits : List Char) : Int :=
  digits.foldl (fun value digit => value * 16 + (digitOf? digit).getD 0) 0

/-- A mention with the name it resolves to. -/
def named (names : Int → Option String) (digits : List Char) : List Char :=
  match names (mentioned digits) with
  | some name =>
      if name ≠ "" then s!"to {name} (0x".toList ++ digits ++ [')']
      else "to 0x".toList ++ digits
  | none => "to 0x".toList ++ digits

/-- `_resolve_rloc_mentions` of a text, behind characters that are used up. -/
def resolveFrom (names : Int → Option String) : Nat → List Char → List Char
  | _, [] => []
  | used + 1, _ :: rest => resolveFrom names used rest
  | 0, c :: rest =>
      match mention? wordChar (c :: rest) with
      | some digits => named names digits ++ resolveFrom names 8 rest
      | none => c :: resolveFrom names 0 rest

/-- `_resolve_rloc_mentions`. -/
def resolveRlocMentions (message : String) (names : Int → Option String) : String :=
  .ofList (resolveFrom wordChar names 0 message.toList)

/-- The flags of the mesh, with names in their messages. -/
def meshFlags (diags : List NodeDiag) (now : Rat) : List HealthFlag :=
  (diags.flatMap fun diag => healthFlags diag now).map fun flag =>
    { flag with
      message := resolveRlocMentions wordChar flag.message (namesByRloc (meshNodes diags)).get? }

end Messages

/-! ## The mesh -/

def DiagSource.label : DiagSource → String
  | .live => "live"
  | .cache => "cached"

/-- The nodes that report another partition than most, or all that report one where
there is no majority. -/
def disagreements (diags : List NodeDiag) : List String :=
  match majorityPartition diags with
  | some majority =>
      diags.filterMap fun diag => diag.partitionId.bind fun partition =>
        if partition ≠ majority then
          some (s!"0x{hexText 0 diag.nodeId} reports partition {partition} " ++
            s!"({diag.source.label}); majority is {majority}")
        else none
  | none =>
      if 1 < (partitionIds diags).length then
        diags.filterMap fun diag => diag.partitionId.map fun partition =>
          s!"0x{hexText 0 diag.nodeId} reports partition {partition} ({diag.source.label})"
      else []

/-- The warnings of the parser, and those of the mesh. -/
def meshWarnings (diags : List NodeDiag) : List (Int × String) :=
  (diags.flatMap fun diag => diag.parseWarnings.map fun warning => (diag.nodeId, warning)) ++
    diags.filterMap (unattributedWarning diags)

/-- `build_mesh`. -/
def buildMesh (wordChar : Char → Bool) (diags : List NodeDiag) (now : Rat) : Mesh where
  networkName := firstNetworkName diags
  channel := firstPresent NodeDiag.channel diags
  panId := firstPresent NodeDiag.panId diags
  partitionIds := partitionIds diags
  majorityPartition := majorityPartition diags
  majorityLeader := majorityLeader diags
  nodes := meshNodes diags
  links := meshLinks diags
  flags := meshFlags wordChar diags now
  unreadable := diags.filterMap fun diag =>
    (diag.readError.filter (· ≠ "")).map fun error => (diag.nodeId, error)
  disagreements := disagreements diags
  warnings := meshWarnings diags

end IndigoMatter.Plugin
