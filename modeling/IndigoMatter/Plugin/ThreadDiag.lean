import IndigoMatter.Library.FirstBest
import IndigoMatter.Library.InsertionMap
import Mathlib.Data.Int.Bitwise
import Mathlib.Data.List.Dedup
import Mathlib.Data.Rat.Floor

/-!
# Thread diagnostics of one node

One node's ThreadNetworkDiagnostics as the survey has parsed them, what follows
from its two tables, and the health flags of the node.  A router finds its own
router id in its route table; any other node finds its parent in its neighbour
table.

Fields that neither the flags nor the mesh read are left out.
-/

namespace IndigoMatter.Plugin

open IndigoMatter.Library

/-! ## Numbers in messages -/

/-- The digits of a number in base sixteen. -/
def hexDigits (value : Nat) : List Char := (Nat.toDigits 16 value).map Char.toUpper

/-- A number in hexadecimal; zeros fill up the width, behind the sign. -/
def hexText (width : Nat) (value : Int) : String :=
  let sign := if value < 0 then ['-'] else []
  let digits := hexDigits value.natAbs
  .ofList (sign ++ List.replicate (width - sign.length - digits.length) '0' ++ digits)

/-- The text of a boolean. -/
def boolText (value : Bool) : String := if value then "True" else "False"

/-! ## The tables -/

def ROLE_UNSPECIFIED : Int := 0

def ROLE_UNASSIGNED : Int := 1

def ROLE_ROUTER : Int := 5

def ROLE_LEADER : Int := 6

/-- `ROLE_NAMES`. -/
def ROLE_NAMES : List (Int × String) :=
  [(0, "Unspecified"), (1, "Unassigned"), (2, "SleepyEndDevice"), (3, "EndDevice"), (4, "Reed"),
    (5, "Router"), (6, "Leader")]

def INVALID_ROUTER_ID : Int := 63

def RSSI_WEAK : Int := -80

def RSSI_BAD : Int := -90

def FRAME_ERROR_HIGH : Int := 20

def PATH_COST_FAR : Int := 3

def PARENT_CHANGES_HIGH : Int := 5

/-- A row of the neighbour table. -/
structure Neighbour where
  rloc16 : Int
  lqi : Int
  avgRssi : Option Int
  lastRssi : Option Int
  frameErrorPct : Int
  rxOnWhenIdle : Bool
  fullThreadDevice : Bool
  isChild : Bool
deriving DecidableEq

/-- The router a row's address belongs to. -/
def Neighbour.routerId (neighbour : Neighbour) : Int := neighbour.rloc16 >>> 10

/-- A row of the route table. -/
structure Route where
  routerId : Int
  nextHop : Int
  pathCost : Int
  allocated : Bool
  linkEstablished : Bool
deriving DecidableEq

/-- Shaped like the reader's own row. -/
def Route.isSelf (route : Route) : Bool :=
  route.nextHop = INVALID_ROUTER_ID && route.pathCost = 0 && route.allocated &&
    !route.linkEstablished

/-- Where a node's values come from. -/
inductive DiagSource
  | cache
  | live
deriving DecidableEq

/-- `NodeDiag`; times are seconds. -/
structure NodeDiag where
  nodeId : Int
  name : String
  available : Bool
  role : Int
  channel : Option Int
  networkName : String
  panId : Option Int
  partitionId : Option Int
  leaderRouterId : Option Int
  neighbours : List Neighbour
  routes : List Route
  counters : InsertionMap String Int
  source : DiagSource
  readError : Option String
  parseWarnings : List String
  neighboursKnown : Bool
  lastInterview : Option Rat
deriving DecidableEq

/-- `_self_entry_router_ids`. -/
def selfEntryRouterIds (routes : List Route) : List Int :=
  ((routes.filter Route.isSelf).map Route.routerId).dedup

namespace NodeDiag

def roleName (diag : NodeDiag) : String :=
  (ROLE_NAMES.lookup diag.role).getD s!"Unknown({diag.role})"

def isRouter (diag : NodeDiag) : Bool := diag.role = ROLE_ROUTER || diag.role = ROLE_LEADER

/-- The router id of the one row shaped like the node's own. -/
def routerId (diag : NodeDiag) : Option Int :=
  if !diag.isRouter then none
  else
    match selfEntryRouterIds diag.routes with
    | [routerId] => some routerId
    | _ => none

/-- The router id shifted into the place it has in an address. -/
def rloc16 (diag : NodeDiag) : Option Int := diag.routerId.map fun routerId => routerId * 1024

/-- The rows a parent is chosen from: those that are no child of the node, where
there are any. -/
def parentCandidates (diag : NodeDiag) : List Neighbour :=
  let candidates := diag.neighbours.filter fun row => row.rxOnWhenIdle && row.fullThreadDevice
  let preferred := candidates.filter fun row => !row.isChild
  if preferred.isEmpty then candidates else preferred

/-- What a parent is chosen by. -/
def parentRank (row : Neighbour) : Int := row.avgRssi.getD (-1000)

/-- The parent: the first of the candidates with the best average. -/
def parent (diag : NodeDiag) : Option Neighbour :=
  if diag.isRouter then none else maxBy parentRank diag.parentCandidates

def children (diag : NodeDiag) : List Neighbour := diag.neighbours.filter Neighbour.isChild

/-- `_path_cost_to_leader`: of the first row of the leader. -/
def pathCostToLeader (diag : NodeDiag) : Option Int :=
  diag.leaderRouterId.bind fun leader =>
    (diag.routes.find? fun route => route.routerId = leader).map Route.pathCost

end NodeDiag

/-! ## Health flags -/

/-- The field a reading comes from. -/
inductive RssiField
  | avg
  | last
deriving DecidableEq

def RssiField.text : RssiField → String
  | avg => "avg"
  | last => "last"

/-- `_worst_reading`: the worse of the two readings. -/
def worstReading (row : Neighbour) : Option (Int × RssiField) :=
  match row.avgRssi, row.lastRssi with
  | none, none => none
  | none, some last => some (last, .last)
  | some avg, none => some (avg, .avg)
  | some avg, some last => if last ≤ avg then some (last, .last) else some (avg, .avg)

/-- `_worst_link_reading`: the first best row of a router, the parent of any other
node. -/
def worstLinkReading (diag : NodeDiag) : Option (Int × RssiField) :=
  if diag.isRouter then maxBy Prod.fst (diag.neighbours.filterMap worstReading)
  else diag.parent.bind worstReading

/-- The keys of the mesh; they are texts of four shapes. -/
inductive MeshKey
  | node (nodeId : Int)
  | router (routerId : Int)
  | child (rloc16 : Int)
  | unattributed (nodeId : Int)
deriving DecidableEq

/-- The text of a key. -/
def MeshKey.text : MeshKey → String
  | node nodeId => "node:0x" ++ hexText 0 nodeId
  | router routerId => s!"rid:{routerId}"
  | child rloc16 => "child:0x" ++ hexText 4 rloc16
  | unattributed nodeId => "child:node:0x" ++ hexText 0 nodeId ++ "#unattributed"

/-- `_mesh_key`. -/
def meshKey (diag : NodeDiag) : MeshKey := .node diag.nodeId

inductive Severity
  | info
  | warn
  | bad
deriving DecidableEq

inductive FlagCode
  | detached
  | routerIdUnknown
  | neighboursUnknown
  | weakLink
  | highFrameError
  | singleNeighbour
  | noParent
  | farFromLeader
  | unstableParent
  | stale
deriving DecidableEq

structure HealthFlag where
  nodeKey : MeshKey
  severity : Severity
  code : FlagCode
  message : String
deriving DecidableEq

/-- `humanise_age`. -/
def humaniseAge (seconds : Rat) : String :=
  if seconds < 60 then "just now"
  else if seconds / 60 < 60 then s!"{(seconds / 60).floor}m"
  else if seconds / 3600 < 24 then s!"{(seconds / 3600).floor}h"
  else s!"{(seconds / 86400).floor}d"

/-- `_age_phrase`: nothing for a time materially in the future. -/
def agePhrase (seconds : Rat) : Option String :=
  if seconds < -120 then none
  else if seconds < 60 then some "just now"
  else some (humaniseAge seconds ++ " ago")

/-- The flags about the link a node is judged by. -/
def weakLinkFlags (diag : NodeDiag) : List HealthFlag :=
  match worstLinkReading diag with
  | none => []
  | some (rssi, field) =>
      let message := s!"{diag.name}: link at {rssi} dBm ({field.text}Rssi)"
      if rssi < RSSI_BAD then [⟨meshKey diag, .bad, .weakLink, message⟩]
      else if rssi < RSSI_WEAK then [⟨meshKey diag, .warn, .weakLink, message⟩]
      else []

/-- The flag of a row with many frame errors. -/
def frameErrorFlag (diag : NodeDiag) (row : Neighbour) : Option HealthFlag :=
  if FRAME_ERROR_HIGH < row.frameErrorPct then
    some ⟨meshKey diag, .warn, .highFrameError,
      s!"{diag.name}: {row.frameErrorPct}% frame errors to 0x{hexText 4 row.rloc16}"⟩
  else none

/-- The flags about how few links a node has. -/
def fewLinksFlags (diag : NodeDiag) : List HealthFlag :=
  if diag.isRouter then
    match diag.neighbours with
    | [] => [⟨meshKey diag, .bad, .singleNeighbour, s!"{diag.name}: no neighbours"⟩]
    | [_] => [⟨meshKey diag, .warn, .singleNeighbour, s!"{diag.name}: only one neighbour"⟩]
    | _ => []
  else if diag.parent.isNone then
    [⟨meshKey diag, .bad, .noParent,
      s!"{diag.name}: no parent router — the device cannot reach the mesh"⟩]
  else []

/-- The flags of the neighbour table, which may not be known yet. -/
def neighbourFlags (diag : NodeDiag) : List HealthFlag :=
  if !diag.neighboursKnown then
    [⟨meshKey diag, .info, .neighboursUnknown,
      s!"{diag.name}: neighbour table not yet available"⟩]
  else
    weakLinkFlags diag ++ diag.neighbours.filterMap (frameErrorFlag diag) ++ fewLinksFlags diag

/-- The flag of a cached value of a node that sleeps. -/
def staleFlags (diag : NodeDiag) (now : Rat) : List HealthFlag :=
  if diag.source = .cache ∧ !diag.isRouter then
    match diag.lastInterview.bind fun interview => agePhrase (now - interview) with
    | some phrase =>
        [⟨meshKey diag, .info, .stale, s!"{diag.name}: cached — baseline interview {phrase}; " ++
          "matter-server's cache can be hours stale for sleepy devices"⟩]
    | none =>
        [⟨meshKey diag, .info, .stale,
          s!"{diag.name}: cached — matter-server's cache can be hours stale for sleepy devices"⟩]
  else []

/-- `health_flags`. -/
def healthFlags (diag : NodeDiag) (now : Rat) : List HealthFlag :=
  (if diag.role = ROLE_UNSPECIFIED ∨ diag.role = ROLE_UNASSIGNED ∨ !diag.available then
    [⟨meshKey diag, .bad, .detached,
      s!"{diag.name}: detached (role={diag.roleName}, available={boolText diag.available})"⟩]
  else []) ++
  (if diag.isRouter ∧ diag.routerId = none then
    [⟨meshKey diag, .warn, .routerIdUnknown,
      s!"{diag.name}: its router id could not be resolved from its route table; " ++
        "a 'Router N' box on the map may be this device"⟩]
  else []) ++
  neighbourFlags diag ++
  (match diag.pathCostToLeader with
    | some cost =>
        if PATH_COST_FAR ≤ cost then
          [⟨meshKey diag, .warn, .farFromLeader, s!"{diag.name}: {cost} hops from the leader"⟩]
        else []
    | none => []) ++
  (match diag.counters.get? "parent_changes" with
    | some changes =>
        if PARENT_CHANGES_HIGH ≤ changes then
          [⟨meshKey diag, .warn, .unstableParent, s!"{diag.name}: {changes} parent changes"⟩]
        else []
    | none => []) ++
  staleFlags diag now

end IndigoMatter.Plugin
