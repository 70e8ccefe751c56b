import IndigoMatter.Library.InsertionMap
import IndigoMatter.Library.Transition
import Mathlib.Data.Finset.Card

/-!
# Controller churn

`ChurnDetector` keeps, for each controller peer, the sessions it holds and the
terminated subscriptions it has lost, and says which peers churn.  It forgets as
late as it can: old deletions go when a new one comes or a verdict is asked for,
and a peer goes when a verdict finds nothing left of it.

Times are milliseconds; the wire writes `since` as the text of the instant.
-/

namespace IndigoMatter.Bridge

open IndigoMatter.Library

def CHURN_WINDOW_MINUTES : Nat := 30

def CHURN_DELETION_THRESHOLD : Nat := 3

def CHURN_MIN_PILED_SESSIONS : Nat := 2

def CHURN_SESSION_THRESHOLD : Nat := 4

/-- `#windowMs`, with the window the node uses. -/
def windowMs : Int := CHURN_WINDOW_MINUTES * 60000

/-- What a verdict says of one peer. -/
structure ChurnPeer where
  peerNodeId : String
  fabricIndex : Nat
  liveSessions : Nat
  invalidDeletions : Nat
  windowMinutes : Nat
  since : Int
deriving DecidableEq

/-- A verdict. -/
structure SubscriptionChurn where
  checked : Bool
  active : Bool
  peers : List ChurnPeer
deriving DecidableEq

/-- What one poll saw. -/
structure ChurnPoll where
  verdict : SubscriptionChurn
  changed : Bool
deriving DecidableEq

/-- The bookkeeping of one peer. -/
structure PeerState where
  peerNodeId : String
  fabricIndex : Nat
  sessions : Finset Nat
  deletions : List Int
  since : Option Int
deriving DecidableEq

/-- `peerKey`. -/
def peerKey (peerNodeId : String) (fabricIndex : Nat) : String :=
  toString fabricIndex ++ "/" ++ peerNodeId

/-- `signatureOf`. -/
def signatureOf (churn : SubscriptionChurn) : String :=
  "|".intercalate ([toString churn.checked, toString churn.active] ++
    churn.peers.map fun peer => toString peer.fabricIndex ++ "/" ++ peer.peerNodeId)

namespace PeerState

/-- `prune`: drop the deletions up to `cutoff` from the front. -/
def prune (cutoff : Int) (peer : PeerState) : PeerState :=
  { peer with deletions := peer.deletions.dropWhile fun landed => landed ≤ cutoff }

/-- Whether a pruned peer is over a threshold. -/
def over? (peer : PeerState) : Bool :=
  CHURN_SESSION_THRESHOLD ≤ peer.sessions.card ||
    (CHURN_DELETION_THRESHOLD ≤ peer.deletions.length &&
      CHURN_MIN_PILED_SESSIONS ≤ peer.sessions.card)

/-- What a verdict makes of a peer. -/
def judge (nowMs : Int) (peer : PeerState) : PeerState :=
  let pruned := peer.prune (nowMs - windowMs)
  { pruned with since := if pruned.over? then some (pruned.since.getD nowMs) else none }

/-- The entry of a judged peer, which is one of the verdict's when it is over. -/
def report (nowMs : Int) (peer : PeerState) : Option ChurnPeer :=
  if peer.over? then
    some {
      peerNodeId := peer.peerNodeId
      fabricIndex := peer.fabricIndex
      liveSessions := peer.sessions.card
      invalidDeletions := peer.deletions.length
      windowMinutes := CHURN_WINDOW_MINUTES
      since := peer.since.getD nowMs }
  else none

/-- Whether a verdict lets a judged peer go. -/
def idle (peer : PeerState) : Bool :=
  !peer.over? && decide (peer.sessions = ∅) && peer.deletions.isEmpty

end PeerState

/-- `ChurnDetector`. -/
structure ChurnDetector where
  peers : InsertionMap String PeerState
  sessionPeers : InsertionMap Nat String
  broken : Bool
  signature : String

namespace ChurnDetector

/-- A fresh detector. -/
def new : ChurnDetector := ⟨∅, ∅, false, signatureOf ⟨true, false, []⟩⟩

/-- `markBroken`. -/
def markBroken (detector : ChurnDetector) : ChurnDetector :=
  { detector with
    broken := true
    peers := ∅
    sessionPeers := ∅ }

/-- `#peer`: the state of a peer, as it is or fresh. -/
def peer (detector : ChurnDetector) (peerNodeId : String) (fabricIndex : Nat) : PeerState :=
  (detector.peers.get? (peerKey peerNodeId fabricIndex)).getD
    ⟨peerNodeId, fabricIndex, ∅, [], none⟩

/-- `sessionOpened`. -/
def sessionOpened (sessionId : Nat) (peerNodeId : String) (fabricIndex : Nat)
    (detector : ChurnDetector) : ChurnDetector :=
  if detector.broken then detector
  else
    let key := peerKey peerNodeId fabricIndex
    let state := detector.peer peerNodeId fabricIndex
    { detector with
      sessionPeers := detector.sessionPeers.set sessionId key
      peers := detector.peers.set key { state with sessions := insert sessionId state.sessions } }

/-- `sessionClosed`. -/
def sessionClosed (sessionId : Nat) (detector : ChurnDetector) : ChurnDetector :=
  if detector.broken then detector
  else
    match detector.sessionPeers.get? sessionId with
    | none => detector
    | some key =>
        let closed := { detector with sessionPeers := detector.sessionPeers.delete sessionId }
        match closed.peers.get? key with
        | none => closed
        | some state =>
            { closed with
              peers := closed.peers.set key
                { state with sessions := state.sessions.erase sessionId } }

/-- `subscriptionRemoved`; the clock reads `now`. -/
def subscriptionRemoved (now : Int) (peerNodeId : String) (fabricIndex : Nat)
    (wasTerminated : Bool) (detector : ChurnDetector) : ChurnDetector :=
  if detector.broken || !wasTerminated then detector
  else
    let state := detector.peer peerNodeId fabricIndex
    let pushed := { state with deletions := state.deletions ++ [now] }
    { detector with
      peers := detector.peers.set (peerKey peerNodeId fabricIndex)
        (pushed.prune (now - windowMs)) }

section Verdict

variable (localeLe : String → String → Bool)

/-- `verdict`, with the order `localeCompare` puts node ids in. -/
def verdict (nowMs : Int) (detector : ChurnDetector) : SubscriptionChurn × ChurnDetector :=
  if detector.broken then (⟨false, false, []⟩, detector)
  else
    let judged := detector.peers.mapValues fun _ peer => peer.judge nowMs
    let peers := (judged.values.filterMap (PeerState.report nowMs)).mergeSort
      fun first second => localeLe first.peerNodeId second.peerNodeId
    (⟨true, !peers.isEmpty, peers⟩,
      { detector with
        peers := judged.filterKeys fun key => !(judged.get? key).any PeerState.idle })

/-- `poll`. -/
def poll (nowMs : Int) (detector : ChurnDetector) : ChurnPoll × ChurnDetector :=
  let (verdict, judged) := detector.verdict localeLe nowMs
  (⟨verdict, decide (signatureOf verdict ≠ judged.signature)⟩,
    { judged with signature := signatureOf verdict })

end Verdict

end ChurnDetector

/-! ## Calls -/

/-- A call of the detector. -/
inductive ChurnCall
  | sessionOpened (sessionId : Nat) (peerNodeId : String) (fabricIndex : Nat)
  | sessionClosed (sessionId : Nat)
  | subscriptionRemoved (now : Int) (peerNodeId : String) (fabricIndex : Nat)
      (wasTerminated : Bool)
  | verdict (nowMs : Int)
  | poll (nowMs : Int)
  | markBroken
deriving DecidableEq

namespace ChurnCall

/-- The instant of a call that reads the clock. -/
def time? : ChurnCall → Option Int
  | .subscriptionRemoved now _ _ _ => some now
  | .verdict nowMs => some nowMs
  | .poll nowMs => some nowMs
  | _ => none

/-- What a call makes of the detector. -/
def run (localeLe : String → String → Bool) (call : ChurnCall) (detector : ChurnDetector) :
    ChurnDetector :=
  match call with
  | .sessionOpened sessionId peerNodeId fabricIndex =>
      detector.sessionOpened sessionId peerNodeId fabricIndex
  | .sessionClosed sessionId => detector.sessionClosed sessionId
  | .subscriptionRemoved now peerNodeId fabricIndex wasTerminated =>
      detector.subscriptionRemoved now peerNodeId fabricIndex wasTerminated
  | .verdict nowMs => (detector.verdict localeLe nowMs).2
  | .poll nowMs => (detector.poll localeLe nowMs).2
  | .markBroken => detector.markBroken

end ChurnCall

/-- A detector, the calls it has had, newest first, and the clock. -/
structure ChurnRun where
  detector : ChurnDetector
  history : List ChurnCall
  clock : Int

namespace ChurnRun

/-- Before the first call. -/
def start (clock : Int) : ChurnRun := ⟨.new, [], clock⟩

/-- One call; the clock does not go back. -/
def step (localeLe : String → String → Bool) : LabelledStep ChurnRun ChurnCall :=
  fun run call =>
    let clock := call.time?.getD run.clock
    if run.clock ≤ clock then
      some ⟨call.run localeLe run.detector, call :: run.history, clock⟩
    else none

end ChurnRun

end IndigoMatter.Bridge
