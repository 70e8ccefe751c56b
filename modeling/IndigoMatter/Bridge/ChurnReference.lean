import IndigoMatter.Bridge.ChurnDetector
import Mathlib.Data.List.TakeWhile

/-!
# Churn without forgetting

The verdict over the whole history of calls: which sessions a peer holds, how many
terminated subscriptions it has lost inside the window, and since when every
verdict has found it over a threshold.  Nothing is ever dropped from a history, so
the detector's lazy pruning is sound when its verdicts are these.

A session that is opened for a second peer before it is closed stays in the
session set of the first.  The agreement is proved for the runs without such a call.
-/

namespace IndigoMatter.Bridge

open IndigoMatter.Library

/-- A controller peer. -/
structure ControllerPeer where
  nodeId : String
  fabricIndex : Nat
deriving DecidableEq

/-! ## The reference -/

/-- The sessions a peer holds after a history, which is newest first. -/
def openSessions (peer : ControllerPeer) : List ChurnCall → Finset Nat
  | [] => ∅
  | .sessionOpened sessionId nodeId fabricIndex :: earlier =>
      if peer = ⟨nodeId, fabricIndex⟩ then insert sessionId (openSessions peer earlier)
      else (openSessions peer earlier).erase sessionId
  | .sessionClosed sessionId :: earlier => (openSessions peer earlier).erase sessionId
  | _ :: earlier => openSessions peer earlier

/-- When the terminated subscriptions of a peer went, oldest first. -/
def terminations (peer : ControllerPeer) : List ChurnCall → List Int
  | [] => []
  | .subscriptionRemoved now nodeId fabricIndex wasTerminated :: earlier =>
      if wasTerminated = true ∧ peer = ⟨nodeId, fabricIndex⟩ then
        terminations peer earlier ++ [now]
      else terminations peer earlier
  | _ :: earlier => terminations peer earlier

/-- How many of them went inside the window. -/
def recentTerminations (peer : ControllerPeer) (nowMs : Int) (history : List ChurnCall) : Nat :=
  (terminations peer history).countP fun landed => decide (nowMs - windowMs < landed)

/-- Whether a peer is over a threshold. -/
def overThreshold (peer : ControllerPeer) (nowMs : Int) (history : List ChurnCall) : Bool :=
  CHURN_SESSION_THRESHOLD ≤ (openSessions peer history).card ||
    (CHURN_DELETION_THRESHOLD ≤ recentTerminations peer nowMs history &&
      CHURN_MIN_PILED_SESSIONS ≤ (openSessions peer history).card)

/-- When the first of the verdicts was given that have found a peer over a threshold
ever since. -/
def streakStart (peer : ControllerPeer) : List ChurnCall → Option Int
  | [] => none
  | .verdict nowMs :: earlier | .poll nowMs :: earlier =>
      if overThreshold peer nowMs earlier then some ((streakStart peer earlier).getD nowMs)
      else none
  | _ :: earlier => streakStart peer earlier

/-- Whether the detector has stopped watching. -/
def Unwatched (history : List ChurnCall) : Prop := .markBroken ∈ history

instance (history : List ChurnCall) : Decidable (Unwatched history) :=
  inferInstanceAs (Decidable (_ ∈ _))

/-- What a verdict has to say of a peer. -/
def referenceEntry (peer : ControllerPeer) (nowMs : Int) (history : List ChurnCall) :
    Option ChurnPeer :=
  if overThreshold peer nowMs history = true ∧ ¬Unwatched history then
    some {
      peerNodeId := peer.nodeId
      fabricIndex := peer.fabricIndex
      liveSessions := (openSessions peer history).card
      invalidDeletions := recentTerminations peer nowMs history
      windowMinutes := CHURN_WINDOW_MINUTES
      since := (streakStart peer history).getD nowMs }
  else none

/-- A verdict that says what the reference says of every peer, and of each once. -/
structure MatchesReference (history : List ChurnCall) (nowMs : Int)
    (churn : SubscriptionChurn) : Prop where
  checked : churn.checked = true ↔ ¬Unwatched history
  active : churn.active = true ↔ ∃ peer, (referenceEntry peer nowMs history).isSome = true
  peers : ∀ entry, entry ∈ churn.peers ↔
    referenceEntry ⟨entry.peerNodeId, entry.fabricIndex⟩ nowMs history = some entry
  once : (churn.peers.map fun entry => (entry.peerNodeId, entry.fabricIndex)).Nodup

/-! ## Keys -/

/-- The key of a peer. -/
def ControllerPeer.key (peer : ControllerPeer) : String := peerKey peer.nodeId peer.fabricIndex

/-- A fabric index has no slash, so the key gives both halves back. -/
theorem ControllerPeer.key_injective : Function.Injective ControllerPeer.key := by
  rintro ⟨firstId, firstFabric⟩ ⟨secondId, secondFabric⟩ same
  have unslashed (fabricIndex : Nat) : '/' ∉ (toString fabricIndex).toList := by
    intro slash
    have digit := Nat.isDigit_of_mem_toDigits (b := 10) (by decide) (by decide)
      (Nat.toList_repr ▸ slash)
    exact absurd digit (by decide)
  have text (nodeId : String) (fabricIndex : Nat) : (peerKey nodeId fabricIndex).toList =
      (toString fabricIndex).toList ++ '/' :: nodeId.toList := by
    unfold peerKey
    rw [String.toList_append, String.toList_append, List.append_assoc]
    rfl
  have lists := congrArg String.toList same
  change (peerKey firstId firstFabric).toList = (peerKey secondId secondFabric).toList at lists
  rw [text, text] at lists
  have upToSlash (digits rest : List Char) (none : '/' ∉ digits) :
      (digits ++ '/' :: rest).takeWhile (· ≠ '/') = digits := by
    rw [List.takeWhile_append_of_pos]
    · simp
    · intro c mem
      simp only [decide_eq_true_eq]
      rintro rfl
      exact none mem
  have fabrics := congrArg (List.takeWhile (· ≠ '/')) lists
  rw [upToSlash _ _ (unslashed _), upToSlash _ _ (unslashed _)] at fabrics
  rw [fabrics] at lists
  have ids := (List.cons.inj (List.append_cancel_left lists)).2
  have numbers : firstFabric = secondFabric := by
    have values := congrArg (fun digits => Nat.ofDigitChars 10 digits 0) fabrics
    simpa [Nat.toString_eq_ofList_toDigits] using values
  rw [numbers, String.toList_injective ids]

/-! ## Bookkeeping -/

/-- What the detector keeps of a peer. -/
def ChurnDetector.of (detector : ChurnDetector) (peer : ControllerPeer) : PeerState :=
  detector.peer peer.nodeId peer.fabricIndex

/-- A peer the detector keeps nothing of. -/
def ControllerPeer.unknown (peer : ControllerPeer) : PeerState :=
  ⟨peer.nodeId, peer.fabricIndex, ∅, [], none⟩

/-- Every state is kept under the key of its peer. -/
def ChurnDetector.Keyed (detector : ChurnDetector) : Prop :=
  ∀ key state, detector.peers.get? key = some state →
    key = peerKey state.peerNodeId state.fabricIndex

theorem ChurnDetector.of_eq (detector : ChurnDetector) (peer : ControllerPeer) :
    detector.of peer = (detector.peers.get? peer.key).getD peer.unknown := rfl

theorem ChurnDetector.of_set (detector : ChurnDetector) (peer other : ControllerPeer)
    (state : PeerState) :
    { detector with peers := detector.peers.set peer.key state }.of other =
      if other = peer then state else detector.of other := by
  rw [of_eq, of_eq, InsertionMap.get?_set]
  by_cases same : other = peer
  · rw [if_pos same, if_pos (congrArg ControllerPeer.key same)]
    rfl
  · rw [if_neg same, if_neg fun keys => same (ControllerPeer.key_injective keys)]

/-- The state of a peer names the peer. -/
theorem ChurnDetector.Keyed.names {detector : ChurnDetector} (keyed : detector.Keyed)
    (peer : ControllerPeer) :
    (detector.of peer).peerNodeId = peer.nodeId ∧
      (detector.of peer).fabricIndex = peer.fabricIndex := by
  rw [ChurnDetector.of_eq]
  cases found : detector.peers.get? peer.key with
  | none => exact ⟨rfl, rfl⟩
  | some state =>
      have same : peer = ⟨state.peerNodeId, state.fabricIndex⟩ :=
        ControllerPeer.key_injective (keyed _ _ found)
      rw [same]
      exact ⟨rfl, rfl⟩

theorem ChurnDetector.Keyed.set {detector : ChurnDetector} (keyed : detector.Keyed)
    {peer : ControllerPeer} {state : PeerState} (nodeId : state.peerNodeId = peer.nodeId)
    (fabricIndex : state.fabricIndex = peer.fabricIndex) :
    { detector with peers := detector.peers.set peer.key state }.Keyed := by
  intro key stored found
  rw [InsertionMap.get?_set] at found
  by_cases same : key = peer.key
  · rw [if_pos same] at found
    obtain rfl := Option.some.inj found
    rw [same, nodeId, fabricIndex]
    rfl
  · rw [if_neg same] at found
    exact keyed key stored found

/-! ## Pruning -/

/-- Of a list that never falls, dropping what is early leaves what is late. -/
theorem dropWhile_eq_filter {cutoff : Int} {instants : List Int}
    (ordered : instants.Pairwise (· ≤ ·)) :
    instants.dropWhile (fun landed => decide (landed ≤ cutoff)) =
      instants.filter fun landed => decide (cutoff < landed) := by
  induction instants with
  | nil => rfl
  | cons first rest ih =>
      rw [List.pairwise_cons] at ordered
      by_cases early : first ≤ cutoff
      · rw [List.dropWhile_cons_of_pos (by simpa using early),
          List.filter_cons_of_neg (by simpa using early)]
        exact ih ordered.2
      · rw [List.dropWhile_cons_of_neg (by simpa using early), eq_comm, List.filter_eq_self]
        intro landed mem
        rw [decide_eq_true_eq]
        rcases List.mem_cons.mp mem with rfl | later
        · omega
        · have := ordered.1 landed later
          omega

/-- A list of which only early instants have been dropped from the front. -/
def PrunedFrom (all kept : List Int) (cutoff : Int) : Prop :=
  ∃ dropped, all = dropped ++ kept ∧ ∀ landed ∈ dropped, landed ≤ cutoff

theorem PrunedFrom.mono {all kept : List Int} {cutoff later : Int}
    (pruned : PrunedFrom all kept cutoff) (ordered : cutoff ≤ later) :
    PrunedFrom all kept later := by
  rcases pruned with ⟨dropped, parts, early⟩
  exact ⟨dropped, parts, fun landed mem => (early landed mem).trans ordered⟩

theorem PrunedFrom.prune {all kept : List Int} {cutoff : Int}
    (pruned : PrunedFrom all kept cutoff) :
    PrunedFrom all (kept.dropWhile fun landed => decide (landed ≤ cutoff)) cutoff := by
  rcases pruned with ⟨dropped, parts, early⟩
  refine ⟨dropped ++ kept.takeWhile fun landed => decide (landed ≤ cutoff), ?_, ?_⟩
  · rw [List.append_assoc, List.takeWhile_append_dropWhile, parts]
  · intro landed mem
    rcases List.mem_append.mp mem with old | new
    · exact early landed old
    · have kept := List.mem_takeWhile_imp new
      simpa using kept

theorem PrunedFrom.append {all kept : List Int} {cutoff : Int}
    (pruned : PrunedFrom all kept cutoff) (landed : Int) :
    PrunedFrom (all ++ [landed]) (kept ++ [landed]) cutoff := by
  rcases pruned with ⟨dropped, rfl, early⟩
  exact ⟨dropped, List.append_assoc _ _ _, early⟩

/-- What is left counts what is late. -/
theorem PrunedFrom.length_dropWhile {all kept : List Int} {cutoff : Int}
    (pruned : PrunedFrom all kept cutoff) (ordered : all.Pairwise (· ≤ ·)) :
    (kept.dropWhile fun landed => decide (landed ≤ cutoff)).length =
      all.countP fun landed => decide (cutoff < landed) := by
  rcases pruned with ⟨dropped, rfl, early⟩
  rw [List.pairwise_append] at ordered
  have none : dropped.countP (fun landed => decide (cutoff < landed)) = 0 := by
    rw [List.countP_eq_zero]
    intro landed mem
    have := early landed mem
    simpa using this
  rw [dropWhile_eq_filter ordered.2.1, ← List.countP_eq_length_filter, List.countP_append, none,
    Nat.zero_add]

/-- Replacing the state of one peer keeps what holds of the states of all peers and
of the new one. -/
theorem ChurnDetector.of_replaced {detector final : ChurnDetector} {peer : ControllerPeer}
    {changed : PeerState}
    (state : ∀ other, final.of other = if other = peer then changed else detector.of other)
    (property : ControllerPeer → PeerState → Prop)
    (others : ∀ other, property other (detector.of other)) (here : property peer changed)
    (other : ControllerPeer) : property other (final.of other) := by
  rw [state]
  split
  · rename_i same
    rw [same]
    exact here
  · exact others other

/-! ## The invariant -/

/-- What the detector keeps of the history. -/
structure Tracks (detector : ChurnDetector) (history : List ChurnCall) (clock : Int) : Prop where
  keyed : detector.Keyed
  sessions : ∀ peer, (detector.of peer).sessions = openSessions peer history
  since : ∀ peer, (detector.of peer).since = streakStart peer history
  deletions : ∀ peer,
    PrunedFrom (terminations peer history) (detector.of peer).deletions (clock - windowMs)
  ordered : ∀ peer, (terminations peer history).Pairwise (· ≤ ·)
  past : ∀ peer, ∀ landed ∈ terminations peer history, landed ≤ clock
  holders : ∀ sessionId key, detector.sessionPeers.get? sessionId = some key ↔
    ∃ peer : ControllerPeer, peer.key = key ∧ sessionId ∈ openSessions peer history

/-- A session belongs to one peer. -/
theorem Tracks.holder_unique {detector : ChurnDetector} {history : List ChurnCall} {clock : Int}
    (tracks : Tracks detector history clock) {sessionId : Nat} {first second : ControllerPeer}
    (inFirst : sessionId ∈ openSessions first history)
    (inSecond : sessionId ∈ openSessions second history) : first = second := by
  have atFirst := (tracks.holders sessionId _).mpr ⟨first, rfl, inFirst⟩
  have atSecond := (tracks.holders sessionId _).mpr ⟨second, rfl, inSecond⟩
  exact ControllerPeer.key_injective (Option.some.inj (atFirst.symm.trans atSecond))

theorem tracks_new (clock : Int) : Tracks .new [] clock where
  keyed := by
    intro key state found
    cases found
  sessions := fun _ => rfl
  since := fun _ => rfl
  deletions := fun _ => ⟨[], rfl, by simp⟩
  ordered := fun _ => .nil
  past := by
    intro peer landed mem
    cases mem
  holders := by
    intro sessionId key
    constructor
    · intro found
      cases found
    · rintro ⟨peer, -, mem⟩
      cases mem

/-- The verdict's count of a peer is the reference's. -/
theorem Tracks.over?_prune {detector : ChurnDetector} {history : List ChurnCall}
    {clock nowMs : Int} (tracks : Tracks detector history clock) (later : clock ≤ nowMs)
    (peer : ControllerPeer) :
    ((detector.of peer).prune (nowMs - windowMs)).over? = overThreshold peer nowMs history := by
  have pruned : PrunedFrom (terminations peer history) (detector.of peer).deletions
      (nowMs - windowMs) := (tracks.deletions peer).mono (by omega)
  have count := pruned.length_dropWhile (tracks.ordered peer)
  unfold PeerState.over? PeerState.prune overThreshold recentTerminations
  rw [← count, ← tracks.sessions peer]

/-! ## Steps -/

section Steps

variable {detector : ChurnDetector} {history : List ChurnCall} {clock : Int}

/-- A session that nobody else holds is opened. -/
theorem Tracks.sessionOpened (tracks : Tracks detector history clock)
    (watching : detector.broken = false) {sessionId : Nat} {peer : ControllerPeer}
    (unmoved : ∀ key, detector.sessionPeers.get? sessionId = some key → key = peer.key) :
    Tracks (detector.sessionOpened sessionId peer.nodeId peer.fabricIndex)
      (.sessionOpened sessionId peer.nodeId peer.fabricIndex :: history) clock := by
  have elsewhere (other : ControllerPeer) (different : other ≠ peer) :
      (openSessions other history).erase sessionId = openSessions other history := by
    apply Finset.erase_eq_of_notMem
    intro held
    have key := unmoved _ ((tracks.holders sessionId other.key).mpr ⟨other, rfl, held⟩)
    exact different (ControllerPeer.key_injective key)
  have sessions (other : ControllerPeer) :
      openSessions other (.sessionOpened sessionId peer.nodeId peer.fabricIndex :: history) =
        if other = peer then insert sessionId (openSessions peer history)
        else openSessions other history := by
    by_cases same : other = peer
    · subst same
      exact (if_pos rfl).trans (if_pos rfl).symm
    · rw [if_neg same, ← elsewhere other same]
      exact (if_neg same).trans (by rw [elsewhere other same])
  have state (other : ControllerPeer) :
      (detector.sessionOpened sessionId peer.nodeId peer.fabricIndex).of other =
        if other = peer then { detector.of peer with
          sessions := insert sessionId (detector.of peer).sessions }
        else detector.of other := by
    unfold ChurnDetector.sessionOpened
    rw [watching, if_neg Bool.false_ne_true]
    exact detector.of_set peer other _
  have names := tracks.keyed.names peer
  constructor
  · unfold ChurnDetector.sessionOpened
    rw [watching, if_neg Bool.false_ne_true]
    exact tracks.keyed.set names.1 names.2
  · intro other
    rw [state, sessions]
    split
    · rw [← tracks.sessions peer]
    · exact tracks.sessions other
  · exact ChurnDetector.of_replaced state (fun other state => state.since = streakStart other history)
      tracks.since (tracks.since peer)
  · exact ChurnDetector.of_replaced state (fun other state => PrunedFrom (terminations other
      history) state.deletions (clock - windowMs)) tracks.deletions (tracks.deletions peer)
  · exact tracks.ordered
  · exact tracks.past
  · intro other key
    unfold ChurnDetector.sessionOpened
    rw [watching, if_neg Bool.false_ne_true]
    dsimp only
    rw [InsertionMap.get?_set]
    by_cases same : other = sessionId
    · subst same
      rw [if_pos rfl]
      constructor
      · intro found
        refine ⟨peer, Option.some.inj found, ?_⟩
        rw [sessions, if_pos rfl]
        exact Finset.mem_insert_self _ _
      · rintro ⟨holder, rfl, held⟩
        rw [sessions] at held
        split at held
        · rename_i isPeer
          rw [isPeer]
          rfl
        · rename_i notPeer
          rw [← elsewhere holder notPeer] at held
          exact absurd held (Finset.notMem_erase _ _)
    · rw [if_neg same, tracks.holders other key]
      apply exists_congr
      intro holder
      rw [sessions]
      split
      · rename_i isPeer
        rw [isPeer, Finset.mem_insert]
        simp only [same, false_or]
      · rfl

theorem Tracks.sessionClosed (tracks : Tracks detector history clock)
    (watching : detector.broken = false) (sessionId : Nat) :
    Tracks (detector.sessionClosed sessionId) (.sessionClosed sessionId :: history) clock := by
  have sessions (other : ControllerPeer) :
      openSessions other (.sessionClosed sessionId :: history) =
        (openSessions other history).erase sessionId := rfl
  cases held : detector.sessionPeers.get? sessionId with
  | none =>
      have closed : detector.sessionClosed sessionId = detector := by
        unfold ChurnDetector.sessionClosed
        rw [watching, if_neg Bool.false_ne_true, held]
      have untouched (other : ControllerPeer) :
          (openSessions other history).erase sessionId = openSessions other history := by
        apply Finset.erase_eq_of_notMem
        intro mem
        have found := (tracks.holders sessionId other.key).mpr ⟨other, rfl, mem⟩
        rw [held] at found
        cases found
      rw [closed]
      refine ⟨tracks.keyed, ?_, tracks.since, tracks.deletions, tracks.ordered, tracks.past, ?_⟩
      · intro other
        rw [sessions, untouched]
        exact tracks.sessions other
      · intro other key
        rw [tracks.holders]
        simp only [sessions, untouched]
  | some key =>
      rcases (tracks.holders sessionId key).mp held with ⟨peer, rfl, mem⟩
      have stored : detector.peers.get? peer.key = some (detector.of peer) := by
        cases found : detector.peers.get? peer.key with
        | none =>
            rw [← tracks.sessions peer, ChurnDetector.of_eq, found] at mem
            exact absurd mem (Finset.notMem_empty _)
        | some state =>
            rw [ChurnDetector.of_eq, found]
            rfl
      have closed : detector.sessionClosed sessionId =
          { detector with
            sessionPeers := detector.sessionPeers.delete sessionId
            peers := detector.peers.set peer.key { detector.of peer with
              sessions := (detector.of peer).sessions.erase sessionId } } := by
        unfold ChurnDetector.sessionClosed
        rw [watching, if_neg Bool.false_ne_true, held]
        dsimp only
        rw [stored]
      have state (other : ControllerPeer) :
          (detector.sessionClosed sessionId).of other =
            if other = peer then { detector.of peer with
              sessions := (detector.of peer).sessions.erase sessionId }
            else detector.of other := by
        rw [closed]
        exact detector.of_set peer other _
      have names := tracks.keyed.names peer
      constructor
      · rw [closed]
        exact tracks.keyed.set names.1 names.2
      · intro other
        rw [state, sessions]
        split
        · rename_i same
          rw [same, ← tracks.sessions peer]
        · rename_i different
          rw [tracks.sessions other, Finset.erase_eq_of_notMem]
          intro inOther
          exact different (tracks.holder_unique inOther mem)
      · exact ChurnDetector.of_replaced state (fun other state => state.since = streakStart other history)
          tracks.since (tracks.since peer)
      · exact ChurnDetector.of_replaced state (fun other state => PrunedFrom (terminations other
          history) state.deletions (clock - windowMs)) tracks.deletions (tracks.deletions peer)
      · exact tracks.ordered
      · exact tracks.past
      · intro other key
        rw [closed]
        dsimp only
        rw [InsertionMap.get?_delete]
        by_cases same : other = sessionId
        · rw [if_pos same]
          constructor
          · intro found
            cases found
          · rintro ⟨holder, -, inHolder⟩
            rw [same, sessions] at inHolder
            exact absurd inHolder (Finset.notMem_erase _ _)
        · rw [if_neg same, tracks.holders other key]
          apply exists_congr
          intro holder
          rw [sessions, Finset.mem_erase]
          simp only [ne_eq, same, not_false_eq_true, true_and]

theorem Tracks.advance (tracks : Tracks detector history clock) {now : Int}
    (later : clock ≤ now) : Tracks detector history now where
  keyed := tracks.keyed
  sessions := tracks.sessions
  since := tracks.since
  deletions := fun peer => (tracks.deletions peer).mono (by omega)
  ordered := tracks.ordered
  past := fun peer landed mem => (tracks.past peer landed mem).trans later
  holders := tracks.holders

theorem Tracks.subscriptionRemoved (tracks : Tracks detector history clock)
    (watching : detector.broken = false) {now : Int} (later : clock ≤ now)
    (peer : ControllerPeer) (wasTerminated : Bool) :
    Tracks (detector.subscriptionRemoved now peer.nodeId peer.fabricIndex wasTerminated)
      (.subscriptionRemoved now peer.nodeId peer.fabricIndex wasTerminated :: history) now := by
  have advanced := tracks.advance later
  have landings (other : ControllerPeer) :
      terminations other
          (.subscriptionRemoved now peer.nodeId peer.fabricIndex wasTerminated :: history) =
        if wasTerminated = true ∧ other = peer then terminations other history ++ [now]
        else terminations other history := rfl
  cases wasTerminated with
  | false =>
      have ignored : detector.subscriptionRemoved now peer.nodeId peer.fabricIndex false =
          detector := by
        unfold ChurnDetector.subscriptionRemoved
        rw [watching]
        rfl
      have same (other : ControllerPeer) := (landings other).trans
        (if_neg fun holds => Bool.false_ne_true holds.1)
      rw [ignored]
      refine ⟨advanced.keyed, advanced.sessions, advanced.since, ?_, ?_, ?_, advanced.holders⟩
      · intro other
        rw [same]
        exact advanced.deletions other
      · intro other
        rw [same]
        exact advanced.ordered other
      · intro other
        rw [same]
        exact advanced.past other
  | true =>
      have recorded : detector.subscriptionRemoved now peer.nodeId peer.fabricIndex true =
          { detector with
            peers := detector.peers.set peer.key (PeerState.prune (now - windowMs)
              { detector.of peer with deletions := (detector.of peer).deletions ++ [now] }) } := by
        unfold ChurnDetector.subscriptionRemoved
        rw [watching]
        rfl
      have state (other : ControllerPeer) :
          (detector.subscriptionRemoved now peer.nodeId peer.fabricIndex true).of other =
            if other = peer then PeerState.prune (now - windowMs)
              { detector.of peer with deletions := (detector.of peer).deletions ++ [now] }
            else detector.of other := by
        rw [recorded]
        exact detector.of_set peer other _
      have names := tracks.keyed.names peer
      constructor
      · rw [recorded]
        exact tracks.keyed.set names.1 names.2
      · exact ChurnDetector.of_replaced state (fun other state => state.sessions = openSessions other history)
          tracks.sessions (tracks.sessions peer)
      · exact ChurnDetector.of_replaced state (fun other state => state.since = streakStart other history)
          tracks.since (tracks.since peer)
      · intro other
        rw [state, landings]
        by_cases same : other = peer
        · rw [if_pos same, if_pos ⟨rfl, same⟩, same]
          exact ((advanced.deletions peer).append now).prune
        · rw [if_neg same, if_neg fun holds => same holds.2]
          exact advanced.deletions other
      · intro other
        rw [landings]
        split
        · rw [List.pairwise_append]
          refine ⟨tracks.ordered other, List.pairwise_singleton _ _, ?_⟩
          intro landed mem last isNow
          rw [List.mem_singleton.mp isNow]
          exact advanced.past other landed mem
        · exact tracks.ordered other
      · intro other landed mem
        rw [landings] at mem
        split at mem
        · rcases List.mem_append.mp mem with old | new
          · exact advanced.past other landed old
          · exact Int.le_of_eq (List.mem_singleton.mp new)
        · exact advanced.past other landed mem
      · rw [recorded]
        exact tracks.holders

/-- The state a peer is given when nothing is kept of it. -/
theorem PeerState.eq_unknown {state : PeerState} {peer : ControllerPeer}
    (nodeId : state.peerNodeId = peer.nodeId) (fabricIndex : state.fabricIndex = peer.fabricIndex)
    (sessions : state.sessions = ∅) (deletions : state.deletions = [])
    (since : state.since = none) : state = peer.unknown := by
  cases state
  simp only [ControllerPeer.unknown, PeerState.mk.injEq]
  exact ⟨nodeId, fabricIndex, sessions, deletions, since⟩

theorem PeerState.idle_iff {state : PeerState} :
    state.idle = true ↔ state.over? = false ∧ state.sessions = ∅ ∧ state.deletions = [] := by
  simp [PeerState.idle, and_assoc]

/-- Without sessions no peer is over a threshold. -/
theorem PeerState.over?_of_empty {state : PeerState} (sessions : state.sessions = ∅) :
    state.over? = false := by
  simp [PeerState.over?, sessions, CHURN_SESSION_THRESHOLD, CHURN_MIN_PILED_SESSIONS]

theorem PeerState.since_judge_of_idle {state : PeerState} {nowMs : Int}
    (idle : (state.judge nowMs).idle = true) : (state.judge nowMs).since = none := by
  rcases PeerState.idle_iff.mp idle with ⟨-, sessions, -⟩
  have under : (state.prune (nowMs - windowMs)).over? = false := PeerState.over?_of_empty sessions
  simp [PeerState.judge, under]

/-- A verdict judges every peer; what it lets go is as unknown as it would be judged. -/
theorem of_verdict (watching : detector.broken = false) (keyed : detector.Keyed)
    (localeLe : String → String → Bool) (nowMs : Int) (peer : ControllerPeer) :
    (detector.verdict localeLe nowMs).2.of peer = (detector.of peer).judge nowMs := by
  have names := keyed.names peer
  unfold ChurnDetector.verdict
  rw [watching, if_neg Bool.false_ne_true, ChurnDetector.of_eq, ChurnDetector.of_eq]
  dsimp only
  rw [InsertionMap.get?_filterKeys, InsertionMap.get?_mapValues]
  cases found : detector.peers.get? peer.key with
  | none =>
      have sessions : (peer.unknown.prune (nowMs - windowMs)).sessions = ∅ := rfl
      have unknown : peer.unknown.judge nowMs = peer.unknown := by
        apply PeerState.eq_unknown rfl rfl rfl rfl
        simp [PeerState.judge, PeerState.over?_of_empty sessions]
      simp [unknown]
  | some state =>
      rw [ChurnDetector.of_eq, found] at names
      by_cases idle : (state.judge nowMs).idle = true
      · rcases PeerState.idle_iff.mp idle with ⟨-, sessions, deletions⟩
        have unknown : state.judge nowMs = peer.unknown :=
          PeerState.eq_unknown names.1 names.2 sessions deletions
            (PeerState.since_judge_of_idle idle)
        rw [unknown] at idle
        simp [unknown, idle]
      · simp [idle]

theorem keyed_verdict (watching : detector.broken = false) (keyed : detector.Keyed)
    (localeLe : String → String → Bool) (nowMs : Int) :
    (detector.verdict localeLe nowMs).2.Keyed := by
  intro key state found
  unfold ChurnDetector.verdict at found
  rw [watching, if_neg Bool.false_ne_true] at found
  dsimp only at found
  rw [InsertionMap.get?_filterKeys, InsertionMap.get?_mapValues] at found
  split at found
  · rcases Option.map_eq_some_iff.mp found with ⟨stored, kept, rfl⟩
    exact keyed key stored kept
  · cases found

theorem Tracks.verdict (tracks : Tracks detector history clock)
    (watching : detector.broken = false) (localeLe : String → String → Bool) {nowMs : Int}
    (later : clock ≤ nowMs) :
    Tracks (detector.verdict localeLe nowMs).2 (.verdict nowMs :: history) nowMs := by
  have advanced := tracks.advance later
  have state := of_verdict watching tracks.keyed localeLe nowMs
  constructor
  · exact keyed_verdict watching tracks.keyed localeLe nowMs
  · intro peer
    rw [state]
    exact tracks.sessions peer
  · intro peer
    rw [state]
    change (if ((detector.of peer).prune (nowMs - windowMs)).over? = true then
      some ((detector.of peer).since.getD nowMs) else none) = _
    rw [tracks.over?_prune later, tracks.since peer]
    rfl
  · intro peer
    rw [state]
    exact (advanced.deletions peer).prune
  · exact tracks.ordered
  · exact advanced.past
  · have kept : (detector.verdict localeLe nowMs).2.sessionPeers = detector.sessionPeers := by
      unfold ChurnDetector.verdict
      rw [watching, if_neg Bool.false_ne_true]
    rw [kept]
    exact tracks.holders

end Steps

/-! ## Verdicts -/

section Verdicts

variable {detector : ChurnDetector} {history : List ChurnCall} {clock nowMs : Int}

/-- The entry of a peer in a verdict is the reference's. -/
theorem Tracks.report_judge (tracks : Tracks detector history clock) (later : clock ≤ nowMs)
    (watched : ¬Unwatched history) (peer : ControllerPeer) :
    ((detector.of peer).judge nowMs).report nowMs = referenceEntry peer nowMs history := by
  have names := tracks.keyed.names peer
  have exceeding := tracks.over?_prune later peer
  have pruned : PrunedFrom (terminations peer history) (detector.of peer).deletions
      (nowMs - windowMs) := (tracks.deletions peer).mono (by omega)
  have count := pruned.length_dropWhile (tracks.ordered peer)
  have judgedOver : ((detector.of peer).judge nowMs).over? = overThreshold peer nowMs history :=
    exceeding
  unfold PeerState.report referenceEntry
  rw [judgedOver]
  by_cases exceeds : overThreshold peer nowMs history = true
  · rw [if_pos exceeds, if_pos ⟨exceeds, watched⟩]
    have since : ((detector.of peer).judge nowMs).since =
        some ((streakStart peer history).getD nowMs) := by
      unfold PeerState.judge
      dsimp only
      rw [exceeding, if_pos exceeds, ← tracks.since peer]
      rfl
    rw [since]
    unfold PeerState.judge PeerState.prune recentTerminations
    dsimp only
    rw [names.1, names.2, tracks.sessions peer, count, Option.getD_some]
  · rw [if_neg exceeds, if_neg fun holds => exceeds holds.1]

/-- A peer that is over a threshold holds sessions, so the detector knows it. -/
theorem Tracks.known_of_over (tracks : Tracks detector history clock) {peer : ControllerPeer}
    (exceeding : overThreshold peer nowMs history = true) :
    detector.peers.get? peer.key = some (detector.of peer) := by
  cases found : detector.peers.get? peer.key with
  | some state =>
      rw [ChurnDetector.of_eq, found]
      rfl
  | none =>
      have none : openSessions peer history = ∅ := by
        rw [← tracks.sessions peer, ChurnDetector.of_eq, found]
        rfl
      simp [overThreshold, none, CHURN_SESSION_THRESHOLD, CHURN_MIN_PILED_SESSIONS] at exceeding

/-- What a watching detector reports are the entries of the reference. -/
theorem Tracks.mem_reported_iff (tracks : Tracks detector history clock) (later : clock ≤ nowMs)
    (watched : ¬Unwatched history) (entry : ChurnPeer) :
    entry ∈ (detector.peers.mapValues fun _ peer => peer.judge nowMs).values.filterMap
        (PeerState.report nowMs) ↔
      referenceEntry ⟨entry.peerNodeId, entry.fabricIndex⟩ nowMs history = some entry := by
  rw [List.mem_filterMap]
  constructor
  · rintro ⟨judged, mem, reported⟩
    rcases InsertionMap.mem_values_iff.mp mem with ⟨key, found⟩
    rw [InsertionMap.get?_mapValues] at found
    rcases Option.map_eq_some_iff.mp found with ⟨state, stored, rfl⟩
    have named : (⟨entry.peerNodeId, entry.fabricIndex⟩ : ControllerPeer) =
        ⟨state.peerNodeId, state.fabricIndex⟩ := by
      unfold PeerState.report at reported
      split at reported
      · obtain rfl := Option.some.inj reported
        rfl
      · cases reported
    have kept : detector.of ⟨state.peerNodeId, state.fabricIndex⟩ = state := by
      rw [ChurnDetector.of_eq]
      change (detector.peers.get? (peerKey state.peerNodeId state.fabricIndex)).getD _ = state
      rw [← tracks.keyed key state stored, stored]
      rfl
    rw [named, ← tracks.report_judge later watched, kept]
    exact reported
  · intro reported
    have exceeding : overThreshold ⟨entry.peerNodeId, entry.fabricIndex⟩ nowMs history = true := by
      unfold referenceEntry at reported
      split at reported
      · rename_i holds
        exact holds.1
      · cases reported
    have judged := (tracks.report_judge later watched _).trans reported
    refine ⟨_, InsertionMap.mem_values_iff.mpr
      ⟨ControllerPeer.key ⟨entry.peerNodeId, entry.fabricIndex⟩, ?_⟩, judged⟩
    rw [InsertionMap.get?_mapValues, tracks.known_of_over exceeding]
    rfl

/-- No peer is reported twice. -/
theorem Tracks.reported_once (tracks : Tracks detector history clock) :
    (((detector.peers.mapValues fun _ peer => peer.judge nowMs).values.filterMap
      (PeerState.report nowMs)).map fun entry => (entry.peerNodeId, entry.fabricIndex)).Nodup := by
  apply List.Nodup.of_map fun named : String × Nat => peerKey named.1 named.2
  rw [List.map_map, InsertionMap.values, List.filterMap_map]
  refine List.Nodup.sublist ?_ (detector.peers.mapValues fun _ peer => peer.judge nowMs).keys_nodup
  apply filterMap_map_sublist
  rintro ⟨key, judged⟩ listed entry reported
  have found := InsertionMap.mem_entries_iff.mp listed
  rw [InsertionMap.get?_mapValues] at found
  rcases Option.map_eq_some_iff.mp found with ⟨state, stored, rfl⟩
  change PeerState.report nowMs (state.judge nowMs) = some entry at reported
  unfold PeerState.report at reported
  split at reported
  · obtain rfl := Option.some.inj reported
    exact (tracks.keyed key state stored).symm
  · cases reported

/-- The verdict of a detector that has kept track is the reference's. -/
theorem Tracks.matchesReference (tracks : Tracks detector history clock)
    (watching : detector.broken = false) (watched : ¬Unwatched history)
    (localeLe : String → String → Bool) (later : clock ≤ nowMs) :
    MatchesReference history nowMs (detector.verdict localeLe nowMs).1 := by
  have mem := tracks.mem_reported_iff later watched
  unfold ChurnDetector.verdict
  rw [watching, if_neg Bool.false_ne_true]
  constructor
  · exact ⟨fun _ => watched, fun _ => rfl⟩
  · dsimp only
    rw [Bool.not_eq_true', List.isEmpty_eq_false_iff_exists_mem]
    constructor
    · rintro ⟨entry, listed⟩
      rw [List.mem_mergeSort, mem] at listed
      exact ⟨_, by rw [listed]; rfl⟩
    · rintro ⟨peer, reported⟩
      rcases Option.isSome_iff_exists.mp reported with ⟨entry, reported⟩
      refine ⟨entry, List.mem_mergeSort.mpr ((mem entry).mpr ?_)⟩
      have named : (⟨entry.peerNodeId, entry.fabricIndex⟩ : ControllerPeer) = peer := by
        unfold referenceEntry at reported
        split at reported
        · obtain rfl := Option.some.inj reported
          rfl
        · cases reported
      rw [named]
      exact reported
  · intro entry
    rw [List.mem_mergeSort]
    exact mem entry
  · exact ((List.mergeSort_perm _ _).map _).nodup_iff.mpr tracks.reported_once

end Verdicts

/-! ## Runs -/

/-- A call that does not open a session another peer holds. -/
def LeavesSessions (run : ChurnRun) : ChurnCall → Prop
  | .sessionOpened sessionId peerNodeId fabricIndex =>
      ∀ key ∈ run.detector.sessionPeers.get? sessionId, key = peerKey peerNodeId fabricIndex
  | _ => True

instance (run : ChurnRun) (call : ChurnCall) : Decidable (LeavesSessions run call) := by
  cases call <;> unfold LeavesSessions <;> infer_instance

/-- No session is counted for two peers. -/
def CountsOnce (detector : ChurnDetector) : Prop :=
  ∀ sessionId first second firstState secondState,
    detector.peers.get? first = some firstState → sessionId ∈ firstState.sessions →
    detector.peers.get? second = some secondState → sessionId ∈ secondState.sessions →
    first = second

/-- A detector that keeps track of its calls, or has stopped watching. -/
inductive Faithful (run : ChurnRun) : Prop
  | watching (intact : run.detector.broken = false) (watched : ¬Unwatched run.history)
      (tracks : Tracks run.detector run.history run.clock)
  | stopped (broken : run.detector.broken = true) (unwatched : Unwatched run.history)
      (forgotten : run.detector.peers = ∅)

theorem Tracks.countsOnce {detector : ChurnDetector} {history : List ChurnCall} {clock : Int}
    (tracks : Tracks detector history clock) : CountsOnce detector := by
  intro sessionId first second firstState secondState firstFound inFirst secondFound inSecond
  have held (key : String) (state : PeerState) (found : detector.peers.get? key = some state)
      (mem : sessionId ∈ state.sessions) : detector.sessionPeers.get? sessionId = some key := by
    refine (tracks.holders sessionId key).mpr
      ⟨⟨state.peerNodeId, state.fabricIndex⟩, (tracks.keyed key state found).symm, ?_⟩
    rw [← tracks.sessions, ChurnDetector.of_eq]
    change sessionId ∈ ((detector.peers.get? (peerKey state.peerNodeId
      state.fabricIndex)).getD _).sessions
    rw [← tracks.keyed key state found, found]
    exact mem
  exact Option.some.inj ((held first firstState firstFound inFirst).symm.trans
    (held second secondState secondFound inSecond))

theorem run_of_broken {detector : ChurnDetector} (broken : detector.broken = true)
    (forgotten : detector.peers = ∅) (localeLe : String → String → Bool) (call : ChurnCall) :
    (call.run localeLe detector).broken = true ∧ (call.run localeLe detector).peers = ∅ := by
  cases call <;> simp [ChurnCall.run, ChurnDetector.sessionOpened, ChurnDetector.sessionClosed,
    ChurnDetector.subscriptionRemoved, ChurnDetector.verdict, ChurnDetector.poll,
    ChurnDetector.markBroken, broken, forgotten]

/-- Only `markBroken` stops a watching detector. -/
theorem run_of_watching {detector : ChurnDetector} (intact : detector.broken = false)
    (localeLe : String → String → Bool) {call : ChurnCall} (goesOn : call ≠ .markBroken) :
    (call.run localeLe detector).broken = false := by
  cases call with
  | markBroken => exact absurd rfl goesOn
  | sessionClosed sessionId =>
      change (detector.sessionClosed sessionId).broken = false
      unfold ChurnDetector.sessionClosed
      rw [intact, if_neg Bool.false_ne_true]
      dsimp only
      split
      · exact intact
      · split
        · rfl
        · rfl
  | sessionOpened _ _ _ => simp [ChurnCall.run, ChurnDetector.sessionOpened, intact]
  | subscriptionRemoved _ _ _ wasTerminated =>
      cases wasTerminated <;> simp [ChurnCall.run, ChurnDetector.subscriptionRemoved, intact]
  | verdict _ => simp [ChurnCall.run, ChurnDetector.verdict, intact]
  | poll _ => simp [ChurnCall.run, ChurnDetector.poll, ChurnDetector.verdict, intact]

/-- A call that leaves the sessions of other peers alone is kept track of. -/
theorem tracks_run {detector : ChurnDetector} {history : List ChurnCall} {clock : Int}
    (tracks : Tracks detector history clock) (intact : detector.broken = false)
    (localeLe : String → String → Bool) {call : ChurnCall} (goesOn : call ≠ .markBroken)
    (leaves : LeavesSessions ⟨detector, history, clock⟩ call)
    (later : clock ≤ call.time?.getD clock) :
    Tracks (call.run localeLe detector) (call :: history) (call.time?.getD clock) := by
  cases call with
  | markBroken => exact absurd rfl goesOn
  | sessionOpened sessionId peerNodeId fabricIndex =>
      exact @Tracks.sessionOpened detector history clock tracks intact sessionId
        ⟨peerNodeId, fabricIndex⟩ leaves
  | sessionClosed sessionId => exact tracks.sessionClosed intact sessionId
  | subscriptionRemoved now peerNodeId fabricIndex wasTerminated =>
      exact tracks.subscriptionRemoved intact later ⟨peerNodeId, fabricIndex⟩ wasTerminated
  | verdict nowMs => exact tracks.verdict intact localeLe later
  | poll nowMs =>
      have judged := tracks.verdict intact localeLe later
      exact ⟨judged.keyed, judged.sessions, judged.since, judged.deletions, judged.ordered,
        judged.past, judged.holders⟩

theorem faithful_step {localeLe : String → String → Bool} {run next : ChurnRun}
    {call : ChurnCall} (faithful : Faithful run) (leaves : LeavesSessions run call)
    (taken : ChurnRun.step localeLe run call = some next) : Faithful next := by
  unfold ChurnRun.step at taken
  dsimp only at taken
  split at taken
  · rename_i later
    obtain rfl := Option.some.inj taken
    cases faithful with
    | stopped broken unwatched forgotten =>
        have still := run_of_broken broken forgotten localeLe call
        exact .stopped still.1 (List.mem_cons_of_mem call unwatched) still.2
    | watching intact watched tracks =>
        by_cases goesOn : call = .markBroken
        · subst goesOn
          exact .stopped rfl List.mem_cons_self rfl
        · apply Faithful.watching
          · exact run_of_watching intact localeLe goesOn
          · intro unwatched
            rcases List.mem_cons.mp unwatched with now | before
            · exact goesOn now.symm
            · exact watched before
          · exact tracks_run tracks intact localeLe goesOn leaves later
  · cases taken

theorem Faithful.matchesReference {run : ChurnRun} (faithful : Faithful run)
    (localeLe : String → String → Bool) {nowMs : Int} (later : run.clock ≤ nowMs) :
    MatchesReference run.history nowMs (run.detector.verdict localeLe nowMs).1 := by
  cases faithful with
  | watching intact watched tracks =>
      exact tracks.matchesReference intact watched localeLe later
  | stopped broken unwatched _ =>
      have silent (peer : ControllerPeer) : referenceEntry peer nowMs run.history = none :=
        if_neg fun holds => holds.2 unwatched
      unfold ChurnDetector.verdict
      rw [broken, if_pos rfl]
      constructor
      · simp [unwatched]
      · simp [silent]
      · simp [silent]
      · exact List.nodup_nil

theorem Faithful.countsOnce {run : ChurnRun} (faithful : Faithful run) :
    CountsOnce run.detector := by
  cases faithful with
  | watching _ _ tracks => exact tracks.countsOnce
  | stopped _ _ forgotten =>
      intro sessionId first second firstState secondState found
      rw [forgotten] at found
      cases found

/-- In a run in which no session is opened for a second peer before it is closed, every
verdict and every poll says what the whole history says, and no session is counted
for two peers. -/
theorem verdicts_match_of_safe_run {localeLe : String → String → Bool} {clock : Int}
    {calls : List ChurnCall} {final : ChurnRun}
    (run : RunWhere (ChurnRun.step localeLe) LeavesSessions (.start clock) calls final) :
    (∀ nowMs, final.clock ≤ nowMs →
      MatchesReference final.history nowMs (final.detector.verdict localeLe nowMs).1 ∧
      MatchesReference final.history nowMs (final.detector.poll localeLe nowMs).1.verdict) ∧
    CountsOnce final.detector := by
  have faithful : Faithful final := by
    apply run.invariant
    · exact .watching rfl (by simp [Unwatched, ChurnRun.start]) (tracks_new clock)
    · intro state call next holds leaves taken
      exact faithful_step holds leaves taken
  constructor
  · intro nowMs later
    exact ⟨faithful.matchesReference localeLe later, faithful.matchesReference localeLe later⟩
  · exact faithful.countsOnce

/-- Two sessions of one peer and three lost subscriptions, in order of time. -/
def churningPeer : List ChurnCall :=
  [.sessionOpened 1 "E" 2, .subscriptionRemoved 10 "E" 2 true, .sessionOpened 2 "E" 2,
    .subscriptionRemoved 20 "E" 2 true, .subscriptionRemoved 30 "E" 2 true, .verdict 40]

theorem verdicts_match_churningPeer :
    ∃ final, RunWhere (ChurnRun.step fun _ _ => true) LeavesSessions (.start 0) churningPeer
      final ∧ MatchesReference final.history 50 (final.detector.verdict (fun _ _ => true) 50).1 := by
  have run := @runWhere_follow_getD _ _ (ChurnRun.step fun _ _ => true) LeavesSessions _
    (.start 0) churningPeer (by decide +kernel) (.start 0)
  exact ⟨_, run, ((verdicts_match_of_safe_run run).1 50 (by decide +kernel)).1⟩

/-- Four sessions opened for one peer and then for another. -/
def movedSessions : List ChurnCall :=
  [1, 2, 3, 4].map (fun sessionId => .sessionOpened sessionId "A" 1) ++
    [1, 2, 3, 4].map fun sessionId => .sessionOpened sessionId "B" 1

/-- The sessions are counted for both peers from then on, and the first is reported. -/
theorem verdict_counts_moved_sessions :
    ¬∀ calls final, Run (ChurnRun.step fun _ _ => true) (.start 0) calls final →
      (∀ nowMs, final.clock ≤ nowMs → MatchesReference final.history nowMs
        (final.detector.verdict (fun _ _ => true) nowMs).1) ∧ CountsOnce final.detector := by
  intro always
  have run := @runWhere_follow_getD _ _ (ChurnRun.step fun _ _ => true) (fun _ _ => True)
    (fun _ _ => instDecidableTrue) (.start 0) movedSessions (by decide +kernel) (.start 0)
  have entries := ((always _ _ run).1 0 (by decide +kernel)).peers ⟨"A", 1, 4, 0, 30, 0⟩
  apply absurd (entries.mp _) (by decide +kernel)
  unfold ChurnDetector.verdict
  rw [if_neg (by decide +kernel)]
  exact List.mem_mergeSort.mpr (by decide +kernel)

end IndigoMatter.Bridge
