import IndigoMatter.Bridge.ChurnReference

/-!
# Session hygiene

A controller that opens a new session should be left with that one alone: the bridge closes
the older sessions of the same peer.  A close that the bridge starts tells the peer nothing, so
it is only safe where the peer has opened another session since.

The session layer belongs to matter.js.  It adds and removes sessions, settles the closes that
the bridge has started, and may begin a close of its own.  It is running when the bridge
subscribes to it, so sessions can be open then; the bridge looks at these only when their
peer opens another one.  The id of a session is used again once the session is gone, the
object that stands for it is not.
-/

namespace IndigoMatter.Bridge.Hygiene

open IndigoMatter.Library

/-! ## The decisions -/

/-- `SessionDescriptor`. -/
structure SessionDescriptor where
  sessionId : Nat
  peerNodeId : String
  fabricIndex : Nat
  createdAt : Int
  activeTimestamp : Int
  subscriptionCount : Nat
deriving DecidableEq

/-- `HygieneClosure`, whose reason is always `superseded`. -/
structure HygieneClosure where
  sessionId : Nat
  peerNodeId : String
  fabricIndex : Nat
  ageMs : Int
  peerSessionCount : Nat
deriving DecidableEq

/-- `SessionHygienePeer`. -/
structure SessionHygienePeer where
  peerNodeId : String
  fabricIndex : Nat
  liveSessions : Nat
deriving DecidableEq

/-- `supersededSessions`. -/
def supersededSessions (peerSessions : List SessionDescriptor) (justOpenedSessionId : Nat) :
    List HygieneClosure :=
  match peerSessions.find? fun session => session.sessionId = justOpenedSessionId with
  | none => []
  | some justOpened =>
      (peerSessions.filter fun session => session.sessionId ≠ justOpenedSessionId).map
        fun session => {
          sessionId := session.sessionId
          peerNodeId := session.peerNodeId
          fabricIndex := session.fabricIndex
          ageMs := max 0 (justOpened.createdAt - session.createdAt)
          peerSessionCount := peerSessions.length
        }

/-- One session more in the counts. -/
def countSession (counts : InsertionMap String SessionHygienePeer) (session : SessionDescriptor) :
    InsertionMap String SessionHygienePeer :=
  let key := peerKey session.peerNodeId session.fabricIndex
  match counts.get? key with
  | some existing => counts.set key { existing with liveSessions := existing.liveSessions + 1 }
  | none => counts.set key ⟨session.peerNodeId, session.fabricIndex, 1⟩

/-- `peerSessionCounts`, with the order `localeCompare` puts node ids in. -/
def peerSessionCounts (localeLe : String → String → Bool) (sessions : List SessionDescriptor) :
    List SessionHygienePeer :=
  (sessions.foldl countSession ∅).values.mergeSort
    fun first second => localeLe first.peerNodeId second.peerNodeId

/-! ## The session layer and the bridge -/

/-- A session of matter.js: the object, and what it says of itself. -/
structure Session where
  object : Nat
  id : Nat
  peerNodeId : String
  fabricIndex : Nat
  createdAt : Int
  activeTimestamp : Int
  subscriptionCount : Nat
  isPase : Bool
  isClosing : Bool
deriving DecidableEq

namespace Session

/-- `describeSession`. -/
def describe (session : Session) : SessionDescriptor where
  sessionId := session.id
  peerNodeId := session.peerNodeId
  fabricIndex := session.fabricIndex
  createdAt := session.createdAt
  activeTimestamp := session.activeTimestamp
  subscriptionCount := session.subscriptionCount

/-- A session of a controller that is not being closed. -/
def live (session : Session) : Bool := !session.isPase && !session.isClosing

/-- The same peer on the same fabric. -/
def samePeer (session other : Session) : Bool :=
  session.peerNodeId = other.peerNodeId && session.fabricIndex = other.fabricIndex

def setClosing (session : Session) (isClosing : Bool) : Session := { session with isClosing }

end Session

/-- The sessions in the order they were added, every session there has been, the closes in
flight and the failed ones, and what the bridge keeps and logs.  Sessions are listed by
their objects. -/
structure SessionState where
  sessions : List Session
  opened : List Nat
  closing : List Nat
  hygieneBroken : Bool
  hygieneDiagnosticBroken : Bool
  closedSuperseded : Nat
  closures : List HygieneClosure
  failures : List Nat

namespace SessionState

/-- A bridge that has just been wired, with the sessions that are open already. -/
def wired (sessions : List Session) : SessionState :=
  ⟨sessions, sessions.map Session.object, [], false, false, 0, [], []⟩

def mapSession (object : Nat) (f : Session → Session) (state : SessionState) : SessionState :=
  { state with
    sessions := state.sessions.map fun session => if session.object = object then f session else session }

/-- `closeSession`, up to the promise of the close. -/
def closeSession (closure : HygieneClosure) (target : Session) (state : SessionState) : SessionState :=
  if state.sessions.any fun session => session.object = target.object && session.isClosing then state
  else
    { state.mapSession target.object (Session.setClosing · true) with
      closing := state.closing ++ [target.object]
      closures := state.closures ++ [closure] }

/-- The live sessions of the peer of a session. -/
def peerSessions (justOpened : Session) (state : SessionState) : List Session :=
  state.sessions.filter fun session => session.live && session.samePeer justOpened

/-- Carry out one closure of a snapshot. -/
def carryOut (snapshot : List Session) (state : SessionState) (closure : HygieneClosure) : SessionState :=
  match snapshot.find? fun session => session.id = closure.sessionId with
  | some target => state.closeSession closure target
  | none => state

/-- `sweepSuperseded`. -/
def sweepSuperseded (justOpened : Session) (closures : List HygieneClosure) (state : SessionState) :
    SessionState :=
  closures.foldl (carryOut (state.peerSessions justOpened)) state

/-- The closures that a new session asks for. -/
def superseded (justOpened : Session) (state : SessionState) : List HygieneClosure :=
  supersededSessions ((state.peerSessions justOpened).map Session.describe) justOpened.id

/-- The handler of `sessions.added`, which throws after some closures or not at all. -/
def noteAdded (justOpened : Session) (throwsAfter : Option Nat) (state : SessionState) : SessionState :=
  if state.hygieneBroken || justOpened.isPase then state
  else
    match throwsAfter with
    | none => state.sweepSuperseded justOpened (state.superseded justOpened)
    | some count =>
        { state.sweepSuperseded justOpened ((state.superseded justOpened).take count) with
          hygieneBroken := true }

end SessionState

/-- What can happen, to sessions named by their objects. -/
inductive SessionEvent
  | added (session : Session) (throwsAfter : Option Nat)
  | closeSucceeded (object : Nat)
  | closeFailed (object : Nat) (stillClosing : Bool)
  | closingElsewhere (object : Nat)
  | removed (object : Nat)
  | diagnosticThrew
deriving DecidableEq

/-- A new session is a new object with an id of its own and is not being closed. -/
def step : LabelledStep SessionState SessionEvent
  | state, .added session throwsAfter =>
      if session.isClosing || state.sessions.any (·.id = session.id) || session.object ∈ state.opened then none
      else
        some (SessionState.noteAdded session throwsAfter
          { state with
            sessions := state.sessions ++ [session]
            opened := state.opened ++ [session.object] })
  | state, .closeSucceeded object =>
      if object ∈ state.closing then
        some { state with
          closing := state.closing.erase object
          closedSuperseded := state.closedSuperseded + 1 }
      else none
  | state, .closeFailed object stillClosing =>
      if object ∈ state.closing then
        some { state.mapSession object (Session.setClosing · stillClosing) with
          closing := state.closing.erase object
          failures := state.failures ++ [object] }
      else none
  | state, .closingElsewhere object => some (state.mapSession object (Session.setClosing · true))
  | state, .removed object =>
      some { state with sessions := state.sessions.filter (·.object ≠ object) }
  | state, .diagnosticThrew => some { state with hygieneDiagnosticBroken := true }

/-- `SessionHygiene` of a status report. -/
structure HygieneReport where
  checked : Bool
  peers : List SessionHygienePeer
  closedSuperseded : Nat
deriving DecidableEq

/-- `pollHygiene`. -/
def SessionState.pollHygiene (localeLe : String → String → Bool) (state : SessionState) : HygieneReport :=
  if state.hygieneBroken || state.hygieneDiagnosticBroken then ⟨false, [], state.closedSuperseded⟩
  else
    ⟨true, peerSessionCounts localeLe ((state.sessions.filter Session.live).map Session.describe),
      state.closedSuperseded⟩

/-! ## What a sweep does -/

/-- No two of some sessions are one object or have one id. -/
structure Distinct (sessions : List Session) : Prop where
  ids : (sessions.map Session.id).Nodup
  objects : (sessions.map Session.object).Nodup

theorem Distinct.sublist {sessions some : List Session} (distinct : Distinct sessions)
    (included : some.Sublist sessions) : Distinct some where
  ids := distinct.ids.sublist (included.map Session.id)
  objects := distinct.objects.sublist (included.map Session.object)

/-- One of some sessions, by its object and its id. -/
def Names (sessions : List Session) (target : Session) : Prop :=
  ∃ session ∈ sessions, session.object = target.object ∧ session.id = target.id

/-- Among distinct sessions an id names what the object names. -/
theorem Names.object_iff {sessions : List Session} {target session : Session}
    (named : Names sessions target) (distinct : Distinct sessions) (member : session ∈ sessions) :
    session.object = target.object ↔ session.id = target.id := by
  rcases named with ⟨own, present, sameObject, sameId⟩
  rw [← sameObject, ← sameId]
  constructor
  · intro same
    rw [List.inj_on_of_nodup_map distinct.objects member present same]
  · intro same
    rw [List.inj_on_of_nodup_map distinct.ids member present same]

/-- Some sessions are being closed. -/
def marked (ids : List Nat) (sessions : List Session) : List Session :=
  sessions.map fun session => if session.id ∈ ids then session.setClosing true else session

/-- The closure of a session that another one has superseded. -/
def closureOf (justOpened : Session) (count : Nat) (session : Session) : HygieneClosure where
  sessionId := session.id
  peerNodeId := session.peerNodeId
  fabricIndex := session.fabricIndex
  ageMs := max 0 (justOpened.createdAt - session.createdAt)
  peerSessionCount := count

section Sweep

variable {state : SessionState} {justOpened : Session}

theorem id_setClosing (session : Session) (isClosing : Bool) :
    (session.setClosing isClosing).id = session.id := rfl

theorem setClosing_self {session : Session} {isClosing : Bool} (same : session.isClosing = isClosing) :
    session.setClosing isClosing = session := by
  rw [Session.setClosing, ← same]

theorem samePeer_iff {session other : Session} : session.samePeer other = true ↔
    session.peerNodeId = other.peerNodeId ∧ session.fabricIndex = other.fabricIndex := by
  simp [Session.samePeer]

theorem map_marked {β : Type} (f : Session → β)
    (kept : ∀ session isClosing, f (session.setClosing isClosing) = f session) (ids : List Nat)
    (sessions : List Session) : (marked ids sessions).map f = sessions.map f := by
  rw [marked, List.map_map]
  apply List.map_congr_left
  intro session _
  rw [Function.comp_apply]
  split
  · exact kept session true
  · rfl

theorem Distinct.marked {sessions : List Session} (distinct : Distinct sessions) (ids : List Nat) :
    Distinct (marked ids sessions) where
  ids := by
    rw [map_marked Session.id fun _ _ => rfl]
    exact distinct.ids
  objects := by
    rw [map_marked Session.object fun _ _ => rfl]
    exact distinct.objects

theorem Names.marked {sessions : List Session} {target : Session} (named : Names sessions target)
    (ids : List Nat) : Names (marked ids sessions) target := by
  rcases named with ⟨session, member, same⟩
  refine ⟨_, List.mem_map_of_mem member, ?_⟩
  split <;> exact same

theorem marked_marked (first rest : List Nat) (sessions : List Session) :
    marked rest (marked first sessions) = marked (first ++ rest) sessions := by
  rw [marked, marked, marked, List.map_map]
  apply List.map_congr_left
  intro session _
  simp only [Function.comp_apply, List.mem_append]
  by_cases inFirst : session.id ∈ first
  · by_cases inRest : session.id ∈ rest
    · simp [inFirst, inRest, Session.setClosing]
    · simp [inFirst, id_setClosing, inRest]
  · simp [inFirst]

/-- A session with an id is the one found by it. -/
theorem eq_of_id {sessions : List Session} (unique : (sessions.map Session.id).Nodup)
    {first second : Session} (firstMember : first ∈ sessions) (secondMember : second ∈ sessions)
    (same : first.id = second.id) : first = second :=
  List.inj_on_of_nodup_map unique firstMember secondMember same

theorem sessions_closeSession (closure : HygieneClosure) (target : Session)
    (distinct : Distinct state.sessions) (named : Names state.sessions target) :
    (state.closeSession closure target).sessions = marked [target.id] state.sessions := by
  unfold SessionState.closeSession
  split
  · rename_i already
    rcases List.any_eq_true.mp already with ⟨other, member, both⟩
    rw [Bool.and_eq_true, decide_eq_true_eq] at both
    rw [marked]
    conv_lhs => rw [← List.map_id state.sessions]
    apply List.map_congr_left
    intro session present
    by_cases same : session.id = target.id
    · have isOther : session = other := by
        apply List.inj_on_of_nodup_map distinct.objects present member
        exact ((named.object_iff distinct present).mpr same).trans both.1.symm
      rw [if_pos (by simp [same]), setClosing_self (isOther ▸ both.2)]
      rfl
    · rw [if_neg (by simp [same])]
      rfl
  · apply List.map_congr_left
    intro session present
    simp only [named.object_iff distinct present, List.mem_singleton]

/-- The bookkeeping of one closure: it is counted among the closes in flight, or left out. -/
theorem bookkeeping_closeSession (state : SessionState) (closure : HygieneClosure)
    (target : Session) :
    let after := state.closeSession closure target
    (after.closures = state.closures ∧ after.closing = state.closing ∨
      after.closures = state.closures ++ [closure] ∧
        after.closing = state.closing ++ [target.object]) ∧
    after.closedSuperseded = state.closedSuperseded ∧ after.failures = state.failures ∧
    after.hygieneBroken = state.hygieneBroken ∧ after.opened = state.opened := by
  simp only [SessionState.closeSession]
  split
  · exact ⟨.inl ⟨rfl, rfl⟩, rfl, rfl, rfl, rfl⟩
  · exact ⟨.inr ⟨rfl, rfl⟩, rfl, rfl, rfl, rfl⟩

/-- A snapshot holds the sessions that closures are about. -/
def Covers (snapshot : List Session) (closures : List HygieneClosure) : Prop :=
  ∀ closure ∈ closures, ∃ session ∈ snapshot, session.id = closure.sessionId

theorem carryOut_of_covers (state : SessionState) {snapshot : List Session} {closure : HygieneClosure}
    (covered : ∃ session ∈ snapshot, session.id = closure.sessionId) :
    ∃ target ∈ snapshot, target.id = closure.sessionId ∧
      SessionState.carryOut snapshot state closure = state.closeSession closure target := by
  unfold SessionState.carryOut
  cases found : snapshot.find? fun session => session.id = closure.sessionId with
  | none =>
      rcases covered with ⟨session, member, same⟩
      have missing := List.find?_eq_none.mp found session member
      simp [same] at missing
  | some target =>
      exact ⟨target, List.mem_of_find?_eq_some found, by simpa using List.find?_some found, rfl⟩

/-- All closures of a sweep. -/
theorem sweep_spec {snapshot : List Session} {closures : List HygieneClosure}
    (covers : Covers snapshot closures) (distinct : Distinct state.sessions)
    (named : ∀ target ∈ snapshot, Names state.sessions target) :
    let after := closures.foldl (SessionState.carryOut snapshot) state
    after.sessions = marked (closures.map HygieneClosure.sessionId) state.sessions ∧
    (∀ closure ∈ after.closures, closure ∈ state.closures ∨ closure ∈ closures) ∧
    after.closures.length + state.closing.length = state.closures.length + after.closing.length ∧
    after.closedSuperseded = state.closedSuperseded ∧ after.failures = state.failures ∧
    after.hygieneBroken = state.hygieneBroken ∧ after.opened = state.opened := by
  induction closures generalizing state with
  | nil =>
      refine ⟨?_, fun _ member => .inl member, rfl, rfl, rfl, rfl, rfl⟩
      simp [marked]
  | cons closure rest ih =>
      rcases carryOut_of_covers state (covers closure List.mem_cons_self) with
        ⟨target, inSnapshot, targetId, carried⟩
      have sessions := sessions_closeSession closure target distinct (named target inSnapshot)
      have stillDistinct : Distinct (state.closeSession closure target).sessions := by
        rw [sessions]
        exact distinct.marked _
      have stillNamed : ∀ other ∈ snapshot,
          Names (state.closeSession closure target).sessions other := by
        rw [sessions]
        exact fun other member => (named other member).marked _
      rcases bookkeeping_closeSession state closure target with
        ⟨lists, succeeded, failed, broken, opened⟩
      have coversRest : Covers snapshot rest := fun other member => covers other (List.mem_cons_of_mem _ member)
      rcases ih coversRest stillDistinct stillNamed with ⟨later, logged, counted, laterOnes⟩
      rw [List.foldl_cons, carried]
      refine ⟨?_, ?_, ?_, ?_⟩
      · rw [later, sessions, marked_marked, List.map_cons, targetId]
        rfl
      · intro other member
        rcases logged other member with earlier | new
        · rcases lists with ⟨same, _⟩ | ⟨appended, _⟩
          · exact .inl (same ▸ earlier)
          · rw [appended] at earlier
            rcases List.mem_append.mp earlier with old | single
            · exact .inl old
            · exact .inr (List.mem_singleton.mp single ▸ List.mem_cons_self)
        · exact .inr (List.mem_cons_of_mem _ new)
      · rcases lists with ⟨same, sameClosing⟩ | ⟨appended, appendedClosing⟩
        · rw [same, sameClosing] at counted
          exact counted
        · rw [appended, appendedClosing, List.length_append, List.length_append] at counted
          simp only [List.length_singleton] at counted
          omega
      · rw [succeeded, failed, broken, opened] at laterOnes
        exact laterOnes

/-- The closures that a new session asks for, with unique ids. -/
theorem superseded_eq (unique : (state.sessions.map Session.id).Nodup)
    (member : justOpened ∈ state.sessions) (live : justOpened.live = true) :
    state.superseded justOpened =
      ((state.peerSessions justOpened).filter fun session => session.id ≠ justOpened.id).map
        (closureOf justOpened (state.peerSessions justOpened).length) := by
  have inSnapshot : justOpened ∈ state.peerSessions justOpened := by
    simp [SessionState.peerSessions, member, live, samePeer_iff]
  have snapshotUnique : ((state.peerSessions justOpened).map Session.id).Nodup :=
    List.Nodup.sublist (List.Sublist.map _ List.filter_sublist) unique
  have found : ((state.peerSessions justOpened).map Session.describe).find?
      (fun session => session.sessionId = justOpened.id) = some justOpened.describe := by
    cases result : ((state.peerSessions justOpened).map Session.describe).find?
        (fun session => session.sessionId = justOpened.id) with
    | none =>
        have missing := List.find?_eq_none.mp result justOpened.describe
          (List.mem_map_of_mem inSnapshot)
        simp [Session.describe] at missing
    | some other =>
        have sameId := List.find?_some result
        rcases List.mem_map.mp (List.mem_of_find?_eq_some result) with ⟨session, present, rfl⟩
        rw [eq_of_id snapshotUnique present inSnapshot (of_decide_eq_true sameId)]
  unfold SessionState.superseded supersededSessions
  rw [found]
  simp only [List.filter_map, List.map_map, List.length_map]
  rfl

/-- What the handler does when it does not throw. -/
theorem mem_superseded (unique : (state.sessions.map Session.id).Nodup)
    (member : justOpened ∈ state.sessions) (live : justOpened.live = true)
    {closure : HygieneClosure} :
    closure ∈ state.superseded justOpened ↔
      ∃ session ∈ state.peerSessions justOpened, session.id ≠ justOpened.id ∧
        closure = closureOf justOpened (state.peerSessions justOpened).length session := by
  rw [superseded_eq unique member live]
  simp only [List.mem_map, List.mem_filter, decide_eq_true_eq]
  constructor
  · rintro ⟨session, ⟨present, differs⟩, rfl⟩
    exact ⟨session, present, differs, rfl⟩
  · rintro ⟨session, present, differs, rfl⟩
    exact ⟨session, ⟨present, differs⟩, rfl⟩

end Sweep

/-! ## Runs -/

/-- The close of a session has failed. -/
def CloseFailed (events : List SessionEvent) (object : Nat) : Prop :=
  ∃ stillClosing, .closeFailed object stillClosing ∈ events

/-- The peer of a session has opened another one since the bridge was wired. -/
def OpenedSince (events : List SessionEvent) (session : Session) : Prop :=
  ∃ opened throwsAfter, .added opened throwsAfter ∈ events ∧ opened.isPase = false ∧
    session.samePeer opened = true

/-- What leaves two sessions of a peer: the close of the older one has failed, or both were
open when the bridge was wired and the peer has opened none since. -/
def LeftOver (initial : List Session) (events : List SessionEvent) (session newer : Session) : Prop :=
  CloseFailed events session.object ∨
    (session.object ∈ initial.map Session.object ∧ newer.object ∈ initial.map Session.object ∧
      ¬ OpenedSince events session)

/-- A session was there, at the wiring or since. -/
def WasOpen (initial : List Session) (events : List SessionEvent) (session : Session) : Prop :=
  session ∈ initial ∨ ∃ throwsAfter, .added session throwsAfter ∈ events

/-- After a session was there, another one of the same peer was opened. -/
def Replaced (initial : List Session) (events : List SessionEvent) (closure : HygieneClosure) : Prop :=
  ∃ earlier later old new throwsAfter, events = earlier ++ .added new throwsAfter :: later ∧
    WasOpen initial earlier old ∧ old.isPase = false ∧ new.isPase = false ∧
      old.samePeer new = true ∧ old.object ≠ new.object ∧ ∃ count, closure = closureOf new count old

/-- What holds after some events. -/
structure Inv (initial : List Session) (events : List SessionEvent) (state : SessionState) : Prop where
  distinct : Distinct state.sessions
  listed : ∀ session ∈ state.sessions, session.object ∈ state.opened
  known : ∀ session ∈ state.sessions, ∃ first, WasOpen initial events first ∧
    session.setClosing false = first.setClosing false
  capped : state.hygieneBroken = false →
    state.sessions.Pairwise fun session newer =>
      session.live = true → newer.isPase = false → session.samePeer newer = true →
        LeftOver initial events session newer
  replaced : ∀ closure ∈ state.closures, Replaced initial events closure
  counted : state.closures.length =
    state.closing.length + state.closedSuperseded + state.failures.length

section Steps

variable {initial : List Session} {events : List SessionEvent} {state next : SessionState}
  {event : SessionEvent}

theorem LeftOver.snoc {session newer : Session} (left : LeftOver initial events session newer)
    (elsewhere : ∀ opened throwsAfter, event = .added opened throwsAfter →
      opened.isPase = true ∨ session.samePeer opened = false) :
    LeftOver initial (events ++ [event]) session newer := by
  rcases left with ⟨stillClosing, member⟩ | ⟨first, second, none_⟩
  · exact .inl ⟨stillClosing, List.mem_append_left _ member⟩
  · refine .inr ⟨first, second, ?_⟩
    rintro ⟨opened, throwsAfter, member, notPase, same⟩
    rcases List.mem_append.mp member with earlier | last
    · exact none_ ⟨opened, throwsAfter, earlier, notPase, same⟩
    · rcases elsewhere opened throwsAfter (List.mem_singleton.mp last).symm with pase | other
      · rw [notPase] at pase
        cases pase
      · rw [same] at other
        cases other

theorem WasOpen.snoc {session : Session} (wasOpen : WasOpen initial events session)
    (event : SessionEvent) : WasOpen initial (events ++ [event]) session := by
  rcases wasOpen with atWiring | ⟨throwsAfter, member⟩
  · exact .inl atWiring
  · exact .inr ⟨throwsAfter, List.mem_append_left _ member⟩

theorem Replaced.snoc {closure : HygieneClosure} (replaced : Replaced initial events closure)
    (event : SessionEvent) : Replaced initial (events ++ [event]) closure := by
  rcases replaced with ⟨earlier, later, old, new, throwsAfter, same, rest⟩
  exact ⟨earlier, later ++ [event], old, new, throwsAfter, by simp [same], rest⟩

/-- An event that opens no session. -/
def OpensNone (event : SessionEvent) : Prop := ∀ opened throwsAfter, event ≠ .added opened throwsAfter

theorem LeftOver.of_opensNone {session newer : Session}
    (left : LeftOver initial events session newer) (opensNone : OpensNone event) :
    LeftOver initial (events ++ [event]) session newer :=
  left.snoc fun opened throwsAfter same => absurd same (opensNone opened throwsAfter)

/-- Two states of one session differ in nothing but whether it is being closed. -/
theorem eq_of_setClosing {β : Type} (f : Session → β)
    (kept : ∀ session, f (session.setClosing false) = f session) {session other : Session}
    (same : session.setClosing false = other.setClosing false) : f session = f other :=
  (kept session).symm.trans ((congrArg f same).trans (kept other))

/-- The invariant speaks of few of the fields. -/
theorem Inv.keep (inv : Inv initial events state) (distinct : Distinct next.sessions)
    (known : ∀ session ∈ next.sessions, ∃ old ∈ state.sessions,
      session.setClosing false = old.setClosing false)
    (capped : state.hygieneBroken = false → next.sessions.Pairwise fun session newer =>
      session.live = true → newer.isPase = false → session.samePeer newer = true →
        LeftOver initial (events ++ [event]) session newer)
    (opened : next.opened = state.opened) (broken : next.hygieneBroken = state.hygieneBroken)
    (closures : next.closures = state.closures)
    (counted : next.closing.length + next.closedSuperseded + next.failures.length =
      state.closing.length + state.closedSuperseded + state.failures.length) :
    Inv initial (events ++ [event]) next where
  distinct := distinct
  listed := by
    intro session member
    rcases known session member with ⟨old, present, same⟩
    rw [opened, eq_of_setClosing Session.object (fun _ => rfl) same]
    exact inv.listed old present
  known := by
    intro session member
    rcases known session member with ⟨old, present, same⟩
    rcases inv.known old present with ⟨first, wasOpen, sameFirst⟩
    exact ⟨first, wasOpen.snoc event, same.trans sameFirst⟩
  capped := by
    rw [broken]
    exact capped
  replaced := by
    rw [closures]
    exact fun closure member => (inv.replaced closure member).snoc event
  counted := by
    rw [closures, counted]
    exact inv.counted

theorem live_setClosing_true (session : Session) : (session.setClosing true).live = false := by
  simp [Session.live, Session.setClosing]

/-- One session is being closed now, or no longer because its close has failed. -/
theorem Inv.setClosing (inv : Inv initial events state) (opensNone : OpensNone event) {object : Nat}
    {isClosing : Bool} (allowed : isClosing = true ∨ CloseFailed (events ++ [event]) object)
    (sessions : next.sessions = (state.mapSession object (Session.setClosing · isClosing)).sessions)
    (opened : next.opened = state.opened) (broken : next.hygieneBroken = state.hygieneBroken)
    (closures : next.closures = state.closures)
    (counted : next.closing.length + next.closedSuperseded + next.failures.length =
      state.closing.length + state.closedSuperseded + state.failures.length) :
    Inv initial (events ++ [event]) next := by
  have kept {β : Type} (f : Session → β)
      (same : ∀ session isClosing, f (session.setClosing isClosing) = f session) :
      next.sessions.map f = state.sessions.map f := by
    rw [sessions, SessionState.mapSession, List.map_map]
    apply List.map_congr_left
    intro session _
    rw [Function.comp_apply]
    split
    · exact same session isClosing
    · rfl
  have distinct : Distinct next.sessions := by
    constructor
    · rw [kept Session.id fun _ _ => rfl]
      exact inv.distinct.ids
    · rw [kept Session.object fun _ _ => rfl]
      exact inv.distinct.objects
  apply inv.keep distinct _ _ opened broken closures counted
  · intro session member
    rw [sessions] at member
    rcases List.mem_map.mp member with ⟨old, present, rfl⟩
    refine ⟨old, present, ?_⟩
    split <;> rfl
  · intro whole
    rw [sessions, SessionState.mapSession, List.pairwise_map]
    apply (inv.capped whole).imp
    intro session newer holds isLive notPase same
    have wasSame : session.samePeer newer = true := by
      rw [samePeer_iff] at same ⊢
      split at same <;> split at same <;> exact same
    have newerNotPase : newer.isPase = false := by
      split at notPase <;> exact notPase
    split at isLive
    · rename_i here
      rcases allowed with rfl | failed
      · rw [live_setClosing_true] at isLive
        cases isLive
      · rw [if_pos here]
        exact .inl (here ▸ failed)
    · rename_i elsewhere
      rw [if_neg elsewhere]
      have left := (holds isLive newerNotPase wasSame).of_opensNone opensNone
      split <;> exact left

theorem Inv.closeFailed (inv : Inv initial events state) {object : Nat} {stillClosing : Bool}
    (inFlight : object ∈ state.closing) :
    Inv initial (events ++ [.closeFailed object stillClosing])
      { state.mapSession object (Session.setClosing · stillClosing) with
        closing := state.closing.erase object
        failures := state.failures ++ [object] } := by
  refine inv.setClosing (by rintro _ _ ⟨⟩) (.inr ⟨stillClosing, by simp⟩) rfl rfl rfl rfl ?_
  have positive := List.length_pos_of_mem inFlight
  simp only [SessionState.mapSession, List.length_erase_of_mem inFlight, List.length_append,
    List.length_singleton]
  omega

/-- A step after which the same sessions are open. -/
theorem Inv.sameSessions (inv : Inv initial events state) (opensNone : OpensNone event)
    (sessions : next.sessions = state.sessions) (opened : next.opened = state.opened)
    (broken : next.hygieneBroken = state.hygieneBroken) (closures : next.closures = state.closures)
    (counted : next.closing.length + next.closedSuperseded + next.failures.length =
      state.closing.length + state.closedSuperseded + state.failures.length) :
    Inv initial (events ++ [event]) next := by
  refine inv.keep (sessions ▸ inv.distinct) ?_ ?_ opened broken closures counted
  · rw [sessions]
    exact fun session member => ⟨session, member, rfl⟩
  · intro whole
    rw [sessions]
    apply (inv.capped whole).imp
    exact fun holds isLive notPase same => (holds isLive notPase same).of_opensNone opensNone

theorem Inv.closeSucceeded (inv : Inv initial events state) {object : Nat}
    (inFlight : object ∈ state.closing) :
    Inv initial (events ++ [.closeSucceeded object])
      { state with
        closing := state.closing.erase object
        closedSuperseded := state.closedSuperseded + 1 } := by
  refine inv.sameSessions (by rintro _ _ ⟨⟩) rfl rfl rfl rfl ?_
  have positive := List.length_pos_of_mem inFlight
  simp only [List.length_erase_of_mem inFlight]
  omega

theorem Inv.removed (inv : Inv initial events state) (object : Nat) :
    Inv initial (events ++ [.removed object])
      { state with sessions := state.sessions.filter (·.object ≠ object) } := by
  refine inv.keep (inv.distinct.sublist List.filter_sublist) ?_ ?_ rfl rfl rfl rfl
  · exact fun session member => ⟨session, (List.mem_filter.mp member).1, rfl⟩
  · intro whole
    apply List.Pairwise.sublist List.filter_sublist
    apply (inv.capped whole).imp
    exact fun holds isLive notPase same =>
      (holds isLive notPase same).of_opensNone (by rintro _ _ ⟨⟩)

/-- A new session is an object and has an id that none of the others has. -/
structure Fresh (state : SessionState) (session : Session) : Prop where
  isOpen : session.isClosing = false
  id : ∀ old ∈ state.sessions, old.id ≠ session.id
  object : session.object ∉ state.opened

theorem Inv.otherObject (inv : Inv initial events state) {session old : Session}
    (fresh : Fresh state session) (present : old ∈ state.sessions) : old.object ≠ session.object :=
  fun same => fresh.object (same ▸ inv.listed old present)

theorem nodup_snoc {β : Type} {f : Session → β} {sessions : List Session} {session : Session}
    (nodup : (sessions.map f).Nodup) (others : ∀ old ∈ sessions, f old ≠ f session) :
    ((sessions ++ [session]).map f).Nodup := by
  rw [List.map_append, List.map_singleton, List.nodup_append]
  refine ⟨nodup, List.nodup_singleton _, ?_⟩
  rintro value member other single rfl
  rw [List.mem_singleton.mp single] at member
  rcases List.mem_map.mp member with ⟨old, present, same⟩
  exact others old present same

/-- What a new session changes before its handler has run. -/
theorem distinct_added (inv : Inv initial events state) {session : Session}
    (fresh : Fresh state session) : Distinct (state.sessions ++ [session]) where
  ids := nodup_snoc inv.distinct.ids fresh.id
  objects := nodup_snoc inv.distinct.objects fun _ present => inv.otherObject fresh present

theorem listed_added (inv : Inv initial events state) (session : Session) :
    ∀ other ∈ state.sessions ++ [session], other.object ∈ state.opened ++ [session.object] := by
  intro other member
  rcases List.mem_append.mp member with old | single
  · exact List.mem_append_left _ (inv.listed other old)
  · rw [List.mem_singleton.mp single]
    exact List.mem_append_right _ (List.mem_singleton_self _)

theorem known_added (inv : Inv initial events state) {session : Session} {throwsAfter : Option Nat} :
    ∀ other ∈ state.sessions ++ [session], ∃ first,
      WasOpen initial (events ++ [.added session throwsAfter]) first ∧
        other.setClosing false = first.setClosing false := by
  intro other member
  rcases List.mem_append.mp member with old | single
  · rcases inv.known other old with ⟨first, wasOpen, same⟩
    exact ⟨first, wasOpen.snoc _, same⟩
  · rw [List.mem_singleton.mp single]
    exact ⟨session, .inr ⟨throwsAfter, by simp⟩, rfl⟩

/-- A new session that the handler does not look at. -/
theorem Inv.added_ignored (inv : Inv initial events state) {session : Session}
    {throwsAfter : Option Nat} (fresh : Fresh state session)
    (ignored : state.hygieneBroken = true ∨ session.isPase = true) :
    Inv initial (events ++ [.added session throwsAfter])
      { state with
        sessions := state.sessions ++ [session]
        opened := state.opened ++ [session.object] } where
  distinct := distinct_added inv fresh
  listed := listed_added inv session
  known := known_added inv
  capped := by
    intro whole
    have pase : session.isPase = true := by
      rcases ignored with broken | pase
      · rw [broken] at whole
        cases whole
      · exact pase
    rw [List.pairwise_append]
    refine ⟨?_, List.pairwise_singleton _ _, ?_⟩
    · apply (inv.capped whole).imp
      intro old newer holds isLive notPase same
      apply (holds isLive notPase same).snoc
      rintro _ _ ⟨⟩
      exact .inl pase
    · intro old _ newer single _ notPase _
      rw [List.mem_singleton.mp single, pase] at notPase
      cases notPase
  replaced := fun closure member => (inv.replaced closure member).snoc _
  counted := inv.counted

/-- A new session whose handler carries out some of the closures, and all of them unless it
breaks. -/
theorem Inv.added_swept (inv : Inv initial events state) {session : Session}
    {throwsAfter : Option Nat} {after : SessionState} {closures : List HygieneClosure}
    (healthy : state.hygieneBroken = false) (fresh : Fresh state session)
    (notPase : session.isPase = false)
    (added : after = { state with
      sessions := state.sessions ++ [session]
      opened := state.opened ++ [session.object] })
    (included : ∀ closure ∈ closures, closure ∈ after.superseded session) {broken : Bool}
    (whole : broken = false → ∀ closure ∈ after.superseded session, closure ∈ closures) :
    Inv initial (events ++ [.added session throwsAfter])
      { after.sweepSuperseded session closures with hygieneBroken := broken } := by
  have distinct : Distinct after.sessions := by
    rw [added]
    exact distinct_added inv fresh
  have member : session ∈ after.sessions := by simp [added]
  have live : session.live = true := by simp [Session.live, fresh.isOpen, notPase]
  have covers : Covers (after.peerSessions session) closures := by
    intro closure chosen
    rcases (mem_superseded distinct.ids member live).mp (included closure chosen) with
      ⟨old, present, _, rfl⟩
    exact ⟨old, present, rfl⟩
  have named : ∀ target ∈ after.peerSessions session, Names after.sessions target :=
    fun target present => ⟨target, (List.mem_filter.mp present).1, rfl, rfl⟩
  rcases sweep_spec covers distinct named with
    ⟨sessions, logged, counted, succeeded, failed, _, opened⟩
  have original : ∀ other ∈ after.sessions, ∃ first,
      WasOpen initial (events ++ [.added session throwsAfter]) first ∧
        other.setClosing false = first.setClosing false := by
    rw [added]
    exact known_added inv
  constructor
  · change Distinct (closures.foldl _ after).sessions
    rw [sessions]
    exact distinct.marked _
  · intro other present
    change other ∈ (closures.foldl _ after).sessions at present
    change other.object ∈ (closures.foldl _ after).opened
    rw [sessions] at present
    rw [opened]
    rcases List.mem_map.mp present with ⟨old, oldPresent, rfl⟩
    have listed : old.object ∈ after.opened := by
      rw [added] at oldPresent ⊢
      exact listed_added inv session old oldPresent
    split <;> exact listed
  · intro other present
    change other ∈ (closures.foldl _ after).sessions at present
    rw [sessions] at present
    rcases List.mem_map.mp present with ⟨old, oldPresent, rfl⟩
    rcases original old oldPresent with ⟨first, wasOpen, same⟩
    refine ⟨first, wasOpen, ?_⟩
    split <;> exact same
  · intro unbroken
    -- an older session of the peer that is live has been chosen, and is being closed now
    have unchosen : ∀ old ∈ state.sessions, old.live = true →
        old.id ∉ closures.map HygieneClosure.sessionId → old.samePeer session = false := by
      intro old present isLive unmarked
      rw [← Bool.not_eq_true]
      intro samePeer
      apply unmarked
      have inSnapshot : old ∈ after.peerSessions session := by
        simp [SessionState.peerSessions, added, present, isLive, samePeer]
      have chosen := whole unbroken _ ((mem_superseded distinct.ids member live).mpr
        ⟨old, inSnapshot, fresh.id old present, rfl⟩)
      exact List.mem_map_of_mem (f := HygieneClosure.sessionId) chosen
    change (closures.foldl _ after).sessions.Pairwise _
    rw [sessions, added, marked, List.pairwise_map, List.pairwise_append]
    refine ⟨?_, List.pairwise_singleton _ _, ?_⟩
    · apply (inv.capped healthy).imp_of_mem
      intro old newer present _ holds isLive newerNotPase same
      split at isLive
      · rw [live_setClosing_true] at isLive
        cases isLive
      · rename_i unmarked
        rw [if_neg unmarked] at same ⊢
        have keptPase : newer.isPase = false := by
          split at newerNotPase <;> exact newerNotPase
        have keptPeer : old.samePeer newer = true := by
          rw [samePeer_iff] at same ⊢
          split at same <;> exact same
        have left : LeftOver initial (events ++ [.added session throwsAfter]) old newer := by
          apply (holds isLive keptPase keptPeer).snoc
          rintro _ _ ⟨⟩
          exact .inr (unchosen old present isLive unmarked)
        split <;> exact left
    · intro old present newer single isLive _ same
      rw [List.mem_singleton.mp single] at same
      split at isLive
      · rw [live_setClosing_true] at isLive
        cases isLive
      · rename_i unmarked
        rw [if_neg unmarked] at same
        have keptPeer : old.samePeer session = true := by
          rw [samePeer_iff] at same ⊢
          split at same <;> exact same
        rw [unchosen old present isLive unmarked] at keptPeer
        cases keptPeer
  · intro closure chosen
    rcases logged closure chosen with earlier | new
    · rw [added] at earlier
      exact (inv.replaced closure earlier).snoc _
    · rcases (mem_superseded distinct.ids member live).mp (included closure new) with
        ⟨old, inSnapshot, apart, rfl⟩
      rcases List.mem_filter.mp inSnapshot with ⟨present, both⟩
      rw [Bool.and_eq_true] at both
      rw [added] at present
      rcases List.mem_append.mp present with older | single
      · rcases inv.known old older with ⟨first, wasOpen, same⟩
        have isPase := eq_of_setClosing Session.isPase (fun _ => rfl) same
        have samePeer := eq_of_setClosing (Session.samePeer · session) (fun _ => rfl) same
        have object := eq_of_setClosing Session.object (fun _ => rfl) same
        have closure := eq_of_setClosing (closureOf session (after.peerSessions session).length)
          (fun _ => rfl) same
        have wasLive := both.1
        simp only [Session.live, Bool.and_eq_true, Bool.not_eq_true'] at wasLive
        refine ⟨events, [], first, session, throwsAfter, rfl, wasOpen, isPase ▸ wasLive.1, notPase,
          samePeer ▸ both.2, ?_, _, closure⟩
        rw [← object]
        exact inv.otherObject fresh older
      · exact absurd (congrArg Session.id (List.mem_singleton.mp single)) apart
  · have before := inv.counted
    change (closures.foldl _ after).closures.length = (closures.foldl _ after).closing.length +
      (closures.foldl _ after).closedSuperseded + (closures.foldl _ after).failures.length
    rw [succeeded, failed]
    rw [added] at counted ⊢
    simp only at counted ⊢
    omega

theorem hygieneBroken_sweepSuperseded (justOpened : Session) (closures : List HygieneClosure)
    (state : SessionState) :
    (state.sweepSuperseded justOpened closures).hygieneBroken = state.hygieneBroken := by
  have carried (snapshot : List Session) (state : SessionState) (closure : HygieneClosure) :
      (SessionState.carryOut snapshot state closure).hygieneBroken = state.hygieneBroken := by
    unfold SessionState.carryOut
    split
    · exact (bookkeeping_closeSession state closure _).2.2.2.1
    · rfl
  unfold SessionState.sweepSuperseded
  generalize state.peerSessions justOpened = snapshot
  induction closures generalizing state with
  | nil => rfl
  | cons closure rest ih => rw [List.foldl_cons, ih, carried]

theorem withBroken_self {state : SessionState} {broken : Bool} (same : state.hygieneBroken = broken) :
    { state with hygieneBroken := broken } = state := by
  rw [← same]

/-- Every event keeps the invariant. -/
theorem Inv.step (inv : Inv initial events state) (taken : Hygiene.step state event = some next) :
    Inv initial (events ++ [event]) next := by
  cases event with
  | added session throwsAfter =>
      simp only [Hygiene.step] at taken
      split at taken
      · cases taken
      · rename_i enabled
        simp only [Bool.not_eq_true, Bool.or_eq_false_iff, decide_eq_false_iff_not] at enabled
        rcases enabled with ⟨⟨isOpen, ids⟩, object⟩
        have fresh : Fresh state session :=
          ⟨isOpen, fun old present => by simpa using List.any_eq_false.mp ids old present, object⟩
        rw [← Option.some.inj taken]
        unfold SessionState.noteAdded
        split
        · rename_i ignored
          rw [Bool.or_eq_true] at ignored
          exact inv.added_ignored fresh ignored
        · rename_i watched
          rw [Bool.not_eq_true, Bool.or_eq_false_iff] at watched
          rcases watched with ⟨healthy, notPase⟩
          cases throwsAfter with
          | none =>
              have unbroken := hygieneBroken_sweepSuperseded session
                (SessionState.superseded session { state with
                  sessions := state.sessions ++ [session]
                  opened := state.opened ++ [session.object] })
                { state with
                  sessions := state.sessions ++ [session]
                  opened := state.opened ++ [session.object] }
              rw [← withBroken_self (unbroken.trans healthy)]
              exact inv.added_swept healthy fresh notPase rfl (fun _ chosen => chosen)
                fun _ _ chosen => chosen
          | some count =>
              exact inv.added_swept healthy fresh notPase rfl
                (fun _ chosen => List.mem_of_mem_take chosen) (by rintro ⟨⟩)
  | closeSucceeded object =>
      simp only [Hygiene.step] at taken
      split at taken
      · rename_i inFlight
        rw [← Option.some.inj taken]
        exact inv.closeSucceeded inFlight
      · cases taken
  | closeFailed object stillClosing =>
      simp only [Hygiene.step] at taken
      split at taken
      · rename_i inFlight
        rw [← Option.some.inj taken]
        exact inv.closeFailed inFlight
      · cases taken
  | closingElsewhere object =>
      rw [← Option.some.inj taken]
      exact inv.setClosing (by rintro _ _ ⟨⟩) (.inl rfl) rfl rfl rfl rfl rfl
  | removed object =>
      rw [← Option.some.inj taken]
      exact inv.removed object
  | diagnosticThrew =>
      rw [← Option.some.inj taken]
      exact inv.sameSessions (by rintro _ _ ⟨⟩) rfl rfl rfl rfl rfl

end Steps

theorem inv_wired {initial : List Session} (distinct : Distinct initial) :
    Inv initial [] (.wired initial) where
  distinct := distinct
  listed := fun _ member => List.mem_map_of_mem member
  known := fun session member => ⟨session, .inl member, rfl⟩
  capped := by
    intro _
    have atWiring : initial.Pairwise fun session newer => session ∈ initial ∧ newer ∈ initial :=
      List.pairwise_iff_forall_sublist.mpr fun included =>
        ⟨included.subset (by simp), included.subset (by simp)⟩
    apply atWiring.imp
    rintro session newer ⟨first, second⟩ _ _ _
    refine .inr ⟨List.mem_map_of_mem first, List.mem_map_of_mem second, ?_⟩
    rintro ⟨_, _, member, _⟩
    cases member
  replaced := by
    intro closure logged
    cases logged
  counted := rfl

theorem inv_of_run {initial : List Session} (distinct : Distinct initial)
    {events : List SessionEvent} {state : SessionState}
    (run : Run step (.wired initial) events state) : Inv initial events state := by
  induction run with
  | nil => exact inv_wired distinct
  | snoc _ _ taken inv => exact inv.step taken

/-! ## Counts -/

/-- How many of some sessions are of one peer. -/
def countOf (peer : ControllerPeer) (sessions : List SessionDescriptor) : Nat :=
  sessions.countP fun session => session.peerNodeId = peer.nodeId ∧ session.fabricIndex = peer.fabricIndex

/-- The counts of some sessions. -/
structure Counts (counts : InsertionMap String SessionHygienePeer) (sessions : List SessionDescriptor) :
    Prop where
  get : ∀ peer : ControllerPeer, counts.get? peer.key =
    if countOf peer sessions = 0 then none
    else some ⟨peer.nodeId, peer.fabricIndex, countOf peer sessions⟩
  keys : ∀ key ∈ counts.keys, ∃ peer : ControllerPeer, key = peer.key

theorem Counts.session {counts : InsertionMap String SessionHygienePeer}
    {sessions : List SessionDescriptor} (counted : Counts counts sessions)
    (session : SessionDescriptor) : Counts (countSession counts session) (sessions ++ [session]) := by
  let own : ControllerPeer := ⟨session.peerNodeId, session.fabricIndex⟩
  have one (peer : ControllerPeer) : countOf peer (sessions ++ [session]) =
      countOf peer sessions + if peer = own then 1 else 0 := by
    rw [countOf, countOf, List.countP_append, List.countP_singleton]
    congr 1
    rcases peer with ⟨nodeId, fabricIndex⟩
    simp only [own, ControllerPeer.mk.injEq, decide_eq_true_eq]
    congr 1
    exact propext ⟨fun same => ⟨same.1.symm, same.2.symm⟩, fun same => ⟨same.1.symm, same.2.symm⟩⟩
  have isSet : countSession counts session =
      counts.set own.key ⟨session.peerNodeId, session.fabricIndex, countOf own sessions + 1⟩ := by
    have stored := counted.get own
    unfold countSession
    change (match counts.get? own.key with
      | some existing => counts.set own.key { existing with liveSessions := existing.liveSessions + 1 }
      | none => counts.set own.key ⟨session.peerNodeId, session.fabricIndex, 1⟩) = _
    rw [stored]
    split
    · rename_i existing found
      split at found
      · cases found
      · rw [← Option.some.inj found]
    · rename_i missing
      split at missing
      · rename_i none_
        rw [none_]
      · cases missing
  constructor
  · intro peer
    rw [isSet, InsertionMap.get?_set, one]
    by_cases same : peer = own
    · subst same
      simp [own]
    · have otherKey : peer.key ≠ own.key := fun equal => same (ControllerPeer.key_injective equal)
      simp [same, otherKey, counted.get peer]
  · intro key member
    rw [isSet, InsertionMap.mem_keys_set] at member
    rcases member with rfl | old
    · exact ⟨own, rfl⟩
    · exact counted.keys key old

theorem counts_foldl {counts : InsertionMap String SessionHygienePeer}
    {first : List SessionDescriptor} (counted : Counts counts first)
    (rest : List SessionDescriptor) : Counts (rest.foldl countSession counts) (first ++ rest) := by
  induction rest generalizing counts first with
  | nil => simpa using counted
  | cons session rest ih => simpa using ih (counted.session session)

/-- A status counts each peer that has a session, with all its sessions. -/
theorem mem_peerSessionCounts {localeLe : String → String → Bool}
    {sessions : List SessionDescriptor} {entry : SessionHygienePeer} :
    entry ∈ peerSessionCounts localeLe sessions ↔
      entry.liveSessions ≠ 0 ∧
        entry.liveSessions = countOf ⟨entry.peerNodeId, entry.fabricIndex⟩ sessions := by
  have empty : Counts ∅ [] := ⟨fun _ => rfl, by rintro _ ⟨⟩⟩
  have counted := counts_foldl empty sessions
  rw [List.nil_append] at counted
  rw [peerSessionCounts, (List.mergeSort_perm _ _).mem_iff, InsertionMap.mem_values_iff]
  constructor
  · rintro ⟨key, found⟩
    rcases counted.keys key (InsertionMap.mem_keys_iff.mpr ⟨entry, found⟩) with ⟨peer, rfl⟩
    rw [counted.get peer] at found
    split at found
    · cases found
    · rename_i positive
      rw [← Option.some.inj found]
      exact ⟨positive, rfl⟩
  · rintro ⟨positive, count⟩
    refine ⟨ControllerPeer.key ⟨entry.peerNodeId, entry.fabricIndex⟩, ?_⟩
    rw [counted.get, ← count, if_neg positive]

/-! ## The two promises -/

theorem countP_le_one {sessions : List SessionDescriptor} {ofPeer : SessionDescriptor → Bool}
    (apart : sessions.Pairwise fun session other => ofPeer session = true → ofPeer other = false) :
    sessions.countP ofPeer ≤ 1 := by
  induction sessions with
  | nil => exact Nat.zero_le 1
  | cons session rest ih =>
      rcases List.pairwise_cons.mp apart with ⟨head, tail⟩
      rw [List.countP_cons]
      by_cases here : ofPeer session = true
      · have none_ : rest.countP ofPeer = 0 := by
          rw [List.countP_eq_zero]
          intro other member
          simp [head other member here]
        simp [none_, here]
      · simpa [here] using ih tail

/-- Of two live sessions of one peer the older one is left over from a close that failed, or
both were open when the bridge was wired and the peer has opened none since.  With no failed
close a status counts one session of every peer that has. -/
theorem one_session_per_peer {initial : List Session} (distinct : Distinct initial)
    {events : List SessionEvent} {state : SessionState}
    (run : Run step (.wired initial) events state) (whole : state.hygieneBroken = false) :
    (state.sessions.Pairwise fun session newer =>
      session.live = true → newer.live = true → session.samePeer newer = true →
        LeftOver initial events session newer) ∧
    ((∀ object, ¬ CloseFailed events object) → ∀ localeLe,
      ∀ entry ∈ (state.pollHygiene localeLe).peers,
        (∃ opened throwsAfter, .added opened throwsAfter ∈ events ∧ opened.isPase = false ∧
          opened.peerNodeId = entry.peerNodeId ∧ opened.fabricIndex = entry.fabricIndex) →
            entry.liveSessions = 1) := by
  have capped := (inv_of_run distinct run).capped whole
  have notPase {session : Session} (live : session.live = true) : session.isPase = false := by
    simp only [Session.live, Bool.and_eq_true, Bool.not_eq_true'] at live
    exact live.1
  refine ⟨capped.imp fun holds live newerLive same => holds live (notPase newerLive) same, ?_⟩
  rintro noFailure localeLe entry member ⟨opened, throwsAfter, added, openedNotPase, nodeId, fabric⟩
  unfold SessionState.pollHygiene at member
  split at member
  · cases member
  · rcases mem_peerSessionCounts.mp member with ⟨positive, count⟩
    have apart : ((state.sessions.filter Session.live).map Session.describe).Pairwise
        fun session other =>
          decide (session.peerNodeId = entry.peerNodeId ∧ session.fabricIndex = entry.fabricIndex) =
              true →
            decide (other.peerNodeId = entry.peerNodeId ∧ other.fabricIndex = entry.fabricIndex) =
              false := by
      rw [List.pairwise_map]
      have lives := List.Pairwise.sublist (List.filter_sublist (p := Session.live)) capped
      apply lives.imp_of_mem
      intro session newer member newerMember holds ofPeer
      rw [decide_eq_true_eq] at ofPeer
      rw [decide_eq_false_iff_not]
      intro newerOfPeer
      have same : session.samePeer newer = true :=
        samePeer_iff.mpr ⟨ofPeer.1.trans newerOfPeer.1.symm, ofPeer.2.trans newerOfPeer.2.symm⟩
      rcases holds (List.mem_filter.mp member).2 (notPase (List.mem_filter.mp newerMember).2) same with
        failed | ⟨_, _, none_⟩
      · exact noFailure session.object failed
      · exact none_ ⟨opened, throwsAfter, added, openedNotPase,
          samePeer_iff.mpr ⟨ofPeer.1.trans nodeId.symm, ofPeer.2.trans fabric.symm⟩⟩
    have atMost : countOf ⟨entry.peerNodeId, entry.fabricIndex⟩
        ((state.sessions.filter Session.live).map Session.describe) ≤ 1 := countP_le_one apart
    rw [← count] at atMost
    exact Nat.le_antisymm atMost (Nat.pos_of_ne_zero positive)

/-- Every close the bridge has started was of a session, open at the wiring or opened later,
whose peer then opened another one, and every such close is in flight or was settled, once. -/
theorem closes_are_replaced {initial : List Session} (distinct : Distinct initial)
    {events : List SessionEvent} {state : SessionState}
    (run : Run step (.wired initial) events state) :
    (∀ closure ∈ state.closures, Replaced initial events closure) ∧
      state.closures.length =
        state.closing.length + state.closedSuperseded + state.failures.length :=
  ⟨(inv_of_run distinct run).replaced, (inv_of_run distinct run).counted⟩

/-! ### A controller that reconnects -/

def echoSession (object id : Nat) (createdAt : Int) : Session where
  object
  id
  peerNodeId := "1a2b"
  fabricIndex := 3
  createdAt
  activeTimestamp := createdAt
  subscriptionCount := 0
  isPase := false
  isClosing := false

/-- Two sessions that a controller has open when the bridge is wired. -/
def openEarly : List Session := [echoSession 1 1 1000, echoSession 2 2 2000]

/-- It opens a third one; the close of the first succeeds, and its id is used again. -/
def reconnects : List SessionEvent :=
  [.added (echoSession 3 3 5000) none, .closeSucceeded 1, .removed 1,
    .added (echoSession 4 1 9000) none]

def afterReconnects : SessionState where
  sessions := [(echoSession 2 2 2000).setClosing true, (echoSession 3 3 5000).setClosing true,
    echoSession 4 1 9000]
  opened := [1, 2, 3, 4]
  closing := [2, 3]
  hygieneBroken := false
  hygieneDiagnosticBroken := false
  closedSuperseded := 1
  closures := [⟨1, "1a2b", 3, 4000, 3⟩, ⟨2, "1a2b", 3, 3000, 3⟩, ⟨3, "1a2b", 3, 4000, 2⟩]
  failures := []

theorem run_reconnects : Run step (.wired openEarly) reconnects afterReconnects :=
  runWhere_of_follow (by rfl)

theorem distinct_openEarly : Distinct openEarly := ⟨by decide, by decide⟩

theorem one_session_per_peer_reconnects :
    (afterReconnects.sessions.Pairwise fun session newer =>
      session.live = true → newer.live = true → session.samePeer newer = true →
        LeftOver openEarly reconnects session newer) ∧
    ((∀ object, ¬ CloseFailed reconnects object) → ∀ localeLe,
      ∀ entry ∈ (afterReconnects.pollHygiene localeLe).peers,
        (∃ opened throwsAfter, .added opened throwsAfter ∈ reconnects ∧ opened.isPase = false ∧
          opened.peerNodeId = entry.peerNodeId ∧ opened.fabricIndex = entry.fabricIndex) →
            entry.liveSessions = 1) :=
  one_session_per_peer distinct_openEarly run_reconnects rfl

theorem closes_are_replaced_reconnects :
    (∀ closure ∈ afterReconnects.closures, Replaced openEarly reconnects closure) ∧
      afterReconnects.closures.length =
        afterReconnects.closing.length + afterReconnects.closedSuperseded +
          afterReconnects.failures.length :=
  closes_are_replaced distinct_openEarly run_reconnects

end IndigoMatter.Bridge.Hygiene
