import IndigoMatter.Bridge.WsServer

/-!
# One controller at a time

The node serves one plugin.  The server records the attached socket and marks
the state of its client, and the gate in front of the handlers reads the mark
only.  The two agree as long as no handler starts on a socket that `clients` has
forgotten: the `close` event takes neither the mark nor the queue of a socket
away, so a frame that waited behind a slow handler can still pass the gate, and
a waiting `attach` records a socket that is no client any more.
-/

namespace IndigoMatter.Bridge

open IndigoMatter.Library

namespace WsServer

variable {options : ServerOptions} {server middle next : WsServer} {socket other : Nat}

/-! ## The property -/

/-- The handler that the next frame of a socket starts, with what becomes of its
arguments. -/
def starting (options : ServerOptions) (socket : Nat) (server : WsServer) :
    Option (WireCommand × Except ProtocolError FacadeCall) :=
  match server.nextFrame socket with
  | none => none
  | some (frame, _) =>
      match server.verdict socket frame with
      | .accepted _ command args => some (command, command.parse options.rendering args)
      | _ => none

/-- No socket whose `close` event is over is a client.  The recorded socket is one, is
marked, and is the only client marked. -/
structure SoleController (server : WsServer) : Prop where
  opened : ∀ socket ∈ server.clients, (server.sockets socket).readyState ≠ .CLOSED
  connected : ∀ socket, server.attached = some socket → socket ∈ server.clients
  marked : ∀ socket, server.attached = some socket → (server.sockets socket).attached = true
  sole : ∀ socket, server.attached = some socket →
    ∀ other ∈ server.clients, (server.sockets other).attached = true → other = socket

/-- A command other than `attach` starts, on a node that serves, only for the
recorded socket. -/
def Gated (options : ServerOptions) (server : WsServer) (socket : Nat) : Prop :=
  ∀ command call, server.starting options socket = some (command, call) →
    command ≠ .attach → server.refusal = none → server.attached = some socket

/-- The recorded socket is another one, and it is still open. -/
def HealthyIncumbent (server : WsServer) (socket incumbent : Nat) : Prop :=
  server.attached = some incumbent ∧ incumbent ≠ socket ∧ incumbent ∈ server.clients ∧
    (server.sockets incumbent).readyState = .OPEN

/-- A closed or a displaced socket takes the attachment from a healthy client. -/
def Steals (server next : WsServer) (socket : Nat) : Prop :=
  (∃ incumbent, server.HealthyIncumbent socket incumbent) ∧ next.attached = some socket ∧
    (socket ∉ server.clients ∨ (server.sockets socket).superseded = true)

/-- What must not happen: a handler that starts, by an accepted `attach` or past
the gate, on a socket that is no client any more, and an accepted `attach` on a
displaced socket while another client is attached. -/
def strays (options : ServerOptions) (server : WsServer) : ServerEvent → Bool
  | .dequeue socket =>
      match server.starting options socket with
      | none => false
      | some (.attach, .error _) => false
      | some (.attach, .ok _) =>
          !decide (socket ∈ server.clients) ||
            ((server.sockets socket).superseded &&
              server.attached.any fun incumbent =>
                decide (incumbent ≠ socket ∧ incumbent ∈ server.clients ∧
                  (server.sockets incumbent).readyState = .OPEN))
      | some _ => server.refusal.isNone && !decide (socket ∈ server.clients)
  | _ => false

/-! ## What keeps the clients -/

@[simp]
theorem sockets_modify (change : ClientState → ClientState) :
    (server.modify socket change).sockets other =
      if other = socket then change (server.sockets socket) else server.sockets other := rfl

@[simp]
theorem clients_modify (change : ClientState → ClientState) :
    (server.modify socket change).clients = server.clients := rfl

@[simp]
theorem attached_modify (change : ClientState → ClientState) :
    (server.modify socket change).attached = server.attached := rfl

/-- A socket that is not connected: not yet, or not any more. -/
def Away (state : ClientState) : Prop :=
  state.readyState = .CONNECTING ∨ state.readyState = .CLOSED

/-- The clients, the recorded socket and the marks are the same, and every socket that
was connected still is. -/
structure SameClients (server next : WsServer) : Prop where
  clients : next.clients = server.clients
  attached : next.attached = server.attached
  marks : ∀ socket, (next.sockets socket).attached = (server.sockets socket).attached
  connected : ∀ socket, Away (next.sockets socket) → Away (server.sockets socket)

theorem SameClients.refl (server : WsServer) : SameClients server server :=
  ⟨rfl, rfl, fun _ => rfl, fun _ away => away⟩

theorem SameClients.trans (first : SameClients server middle) (second : SameClients middle next) :
    SameClients server next where
  clients := second.clients.trans first.clients
  attached := second.attached.trans first.attached
  marks socket := (second.marks socket).trans (first.marks socket)
  connected socket away := first.connected socket (second.connected socket away)

theorem sameClients_modify {change : ClientState → ClientState}
    (marks : ∀ state, (change state).attached = state.attached)
    (connected : ∀ state, Away (change state) → Away state) :
    SameClients server (server.modify socket change) := by
  refine ⟨rfl, rfl, fun other => ?_, fun other => ?_⟩
  · by_cases same : other = socket
    · subst same
      simp [marks]
    · simp [same]
  · by_cases same : other = socket
    · subst same
      simpa using connected _
    · simp [same]

theorem attached_hangUp (state : ClientState) : state.hangUp.attached = state.attached := by
  unfold ClientState.hangUp
  split <;> rfl

theorem away_of_hangUp {state : ClientState} (away : Away state.hangUp) : Away state := by
  unfold ClientState.hangUp at away
  split at away
  · rcases away with connecting | closed
    · cases connecting
    · cases closed
  · exact away

theorem sameClients_send (frame : Option Outgoing) :
    SameClients server (server.send socket frame).1 := by
  unfold send
  cases frame with
  | none => exact .refl server
  | some outgoing =>
      have went : SameClients server
          (server.modify socket fun state => { state with sent := state.sent ++ [outgoing] }) :=
        sameClients_modify (fun _ => rfl) fun _ away => away
      dsimp only
      split
      · exact went
      · exact .refl server

theorem sameClients_respond (started : InFlight) (outcome : Outcome) :
    SameClients server (server.respond socket started outcome) := by
  cases outcome with
  | returned result =>
      simp only [respond]
      split
      · exact sameClients_send _
      · exact (sameClients_send _).trans (sameClients_send _)
  | threw error =>
      cases error with
      | protocol error =>
          simp only [respond]
          split
          · exact (sameClients_send _).trans
              (sameClients_modify attached_hangUp fun _ => away_of_hangUp)
          · exact sameClients_send _
      | matter message => exact sameClients_send _

theorem sameClients_onTimeout : SameClients server (server.onTimeout socket) := by
  unfold onTimeout
  dsimp only
  split
  · exact sameClients_modify (fun _ => rfl) fun _ away => away
  · split
    · exact .refl server
    · exact sameClients_modify attached_hangUp fun _ => away_of_hangUp

/-! ## The invariant -/

/-- Record and marks agree on the clients, and the clients are connected. -/
structure Controlled (server : WsServer) : Prop where
  recorded : ∀ socket, server.attached = some socket →
    socket ∈ server.clients ∧ (server.sockets socket).attached = true
  marked : ∀ socket ∈ server.clients, (server.sockets socket).attached = true →
    server.attached = some socket
  connected : ∀ socket ∈ server.clients, ¬Away (server.sockets socket)

theorem Controlled.soleController (holds : server.Controlled) : server.SoleController where
  opened socket client closed := holds.connected socket client (.inr closed)
  connected _ recorded := (holds.recorded _ recorded).1
  marked _ recorded := (holds.recorded _ recorded).2
  sole _ recorded other client mark :=
    Option.some.inj ((holds.marked other client mark).symm.trans recorded)

theorem controlled_fresh (refusal : Option String) : (fresh refusal).Controlled := by
  constructor
  · intro _ recorded
    cases recorded
  · intro socket client
    cases client
  · intro socket client
    cases client

theorem Controlled.of_sameClients (holds : server.Controlled) (same : SameClients server next) :
    next.Controlled := by
  constructor
  · intro socket recorded
    rw [same.clients, same.marks]
    exact holds.recorded socket (same.attached ▸ recorded)
  · intro socket client mark
    rw [same.attached]
    exact holds.marked socket (same.clients ▸ client) (same.marks socket ▸ mark)
  · intro socket client away
    exact holds.connected socket (same.clients ▸ client) (same.connected socket away)

theorem controlled_onConnection (holds : server.Controlled)
    (unconnected : (server.sockets socket).readyState = .CONNECTING) :
    (server.onConnection options socket).Controlled := by
  refine Controlled.of_sameClients ?_ (sameClients_send _)
  have newcomer : ∀ other ∈ server.clients, other ≠ socket := by
    rintro other client rfl
    exact holds.connected other client (.inl unconnected)
  constructor
  · intro recorded record
    obtain ⟨client, mark⟩ := holds.recorded recorded record
    refine ⟨List.mem_append_left _ client, ?_⟩
    simp [newcomer recorded client, mark]
  · intro marked client mark
    rcases List.mem_append.mp client with earlier | new
    · refine holds.marked marked earlier ?_
      simpa [newcomer marked earlier] using mark
    · obtain rfl := List.mem_singleton.mp new
      simp [ClientState.unconnected] at mark
  · intro client member
    rcases List.mem_append.mp member with earlier | new
    · simpa [newcomer client earlier] using holds.connected client earlier
    · obtain rfl := List.mem_singleton.mp new
      simp [Away]

/-! ## Changing the attached client -/

theorem clients_supersede : (server.supersede socket).clients = server.clients := by
  unfold supersede
  split
  · rfl
  · split <;> rfl

theorem mark_handleAttach :
    ((server.handleAttach socket).sockets other).attached =
      if other = socket then true
      else if server.attached = some other ∧ other ∈ server.clients then false
      else (server.sockets other).attached := by
  by_cases same : other = socket
  · simp [handleAttach, same]
  · simp only [handleAttach, sockets_modify, same, if_false]
    unfold supersede
    cases recorded : server.attached with
    | none => simp
    | some incumbent =>
        by_cases own : incumbent = socket
        · simp [own, Ne.symm same]
        · by_cases taken : other = incumbent
          · subst taken
            by_cases client : other ∈ server.clients <;> simp [own, client]
          · simp [own, taken, Ne.symm taken]

theorem away_handleAttach (away : Away ((server.handleAttach socket).sockets other)) :
    Away (server.sockets other) := by
  have superseded : Away ((server.supersede socket).sockets other) →
      Away (server.sockets other) := by
    unfold supersede
    split
    · exact id
    · split
      · exact id
      · rename_i incumbent _ _
        by_cases taken : other = incumbent
        · subst taken
          simpa [Away] using away_of_hangUp
        · simp [taken]
  apply superseded
  by_cases same : other = socket
  · subst same
    simpa [handleAttach, Away] using away
  · simpa [handleAttach, same] using away

/-- An accepted `attach` of a client keeps the invariant. -/
theorem controlled_handleAttach (holds : server.Controlled) (client : socket ∈ server.clients) :
    (server.handleAttach socket).Controlled := by
  have clients : (server.handleAttach socket).clients = server.clients := clients_supersede
  constructor
  · rintro recorded record
    obtain rfl : socket = recorded := Option.some.inj record
    exact ⟨clients ▸ client, by simp [mark_handleAttach]⟩
  · intro marked member mark
    rw [clients] at member
    rw [mark_handleAttach] at mark
    by_cases own : marked = socket
    · rw [own]
      rfl
    · rw [if_neg own] at mark
      split at mark
      · cases mark
      · rename_i keeps
        exact absurd ⟨holds.marked marked member mark, member⟩ keeps
  · intro other member away
    exact holds.connected other (clients ▸ member) (away_handleAttach away)

theorem sameClients_running (started : InFlight) (server : WsServer) (socket : Nat) :
    SameClients server
      (server.modify socket fun state => { state with running := some started }) :=
  sameClients_modify (fun _ => rfl) fun _ away => away

/-- The handler of an accepted `attach` changes the attached client. -/
theorem startHandler_attach {messageId : String} {call : FacadeCall} :
    SameClients (server.handleAttach socket)
      (server.startHandler socket ⟨messageId, .attach, .ok call⟩) :=
  sameClients_running _ _ _

theorem startHandler_other {started : InFlight}
    (other : ∀ call, started.command = .attach → started.call ≠ .ok call) :
    SameClients server (server.startHandler socket started) := by
  unfold startHandler
  dsimp only
  split
  · rename_i call isAttach accepted
    exact absurd accepted (other call isAttach)
  · exact sameClients_running _ _ _

theorem controlled_onClose (holds : server.Controlled) : (server.onClose socket).Controlled := by
  have remains : ∀ other, other ∈ (server.onClose socket).clients →
      other ∈ server.clients ∧ other ≠ socket := by
    intro other member
    simpa [onClose] using member
  constructor
  · intro recorded record
    simp only [onClose] at record
    split at record
    · cases record
    · rename_i another
      obtain ⟨client, mark⟩ := holds.recorded recorded record
      have stays : recorded ≠ socket := fun own => another (own ▸ record)
      simp [onClose, client, mark, stays]
  · intro marked member mark
    obtain ⟨client, stays⟩ := remains marked member
    have record := holds.marked marked client (by simpa [onClose, stays] using mark)
    simp [onClose, record, stays]
  · intro other member
    obtain ⟨client, stays⟩ := remains other member
    simpa [onClose, stays] using holds.connected other client

theorem controlled_shutdown (server : WsServer) : server.shutdown.Controlled := by
  constructor
  · intro socket recorded
    cases recorded
  · intro socket client
    cases client
  · intro socket client
    cases client

/-! ## One event -/

theorem strays_dequeue_iff :
    server.strays options (.dequeue socket) = true ↔
      ∃ command call, server.starting options socket = some (command, call) ∧
        ((command = .attach ∧ (∃ accepted, call = .ok accepted) ∧
            (socket ∉ server.clients ∨ ((server.sockets socket).superseded = true ∧
              ∃ incumbent, server.HealthyIncumbent socket incumbent))) ∨
          (command ≠ .attach ∧ server.refusal = none ∧ socket ∉ server.clients)) := by
  simp only [strays, HealthyIncumbent]
  cases started : server.starting options socket with
  | none => simp
  | some handler =>
      obtain ⟨command, call⟩ := handler
      by_cases isAttach : command = .attach
      · subst isAttach
        cases call with
        | error error => simp
        | ok accepted => cases recorded : server.attached <;> simp
      · have other : ∀ call : Except ProtocolError FacadeCall,
            (command, call) ≠ (.attach, call) := fun call same => isAttach (Prod.mk.inj same).1
        cases command <;> simp at isAttach ⊢

theorem sameClients_pop (server : WsServer) (socket : Nat) (rest : List (Option Json)) :
    SameClients server (server.modify socket fun state => { state with pending := rest }) :=
  sameClients_modify (fun _ => rfl) fun _ away => away

/-- A frame that is an accepted `attach` records its socket. -/
theorem dequeue_attach {call : FacadeCall}
    (started : server.starting options socket = some (.attach, .ok call))
    (taken : step options server (.dequeue socket) = some next) :
    ∃ popped, SameClients server popped ∧ SameClients (popped.handleAttach socket) next := by
  obtain ⟨⟨frame, rest⟩, queue, rfl⟩ := Option.map_eq_some_iff.mp taken
  refine ⟨_, sameClients_pop server socket rest, ?_⟩
  rw [starting, queue] at started
  simp only [begin]
  cases judged : server.verdict socket frame with
  | dropped => simp [judged] at started
  | refused messageId error => simp [judged] at started
  | accepted messageId command args =>
      simp only [judged, Option.some.injEq, Prod.mk.injEq] at started
      obtain ⟨rfl, parsed⟩ := started
      dsimp only
      rw [parsed]
      exact startHandler_attach

/-- Any other frame leaves the clients alone. -/
theorem dequeue_other
    (other : ∀ call, server.starting options socket ≠ some (.attach, .ok call))
    (taken : step options server (.dequeue socket) = some next) : SameClients server next := by
  obtain ⟨⟨frame, rest⟩, queue, rfl⟩ := Option.map_eq_some_iff.mp taken
  simp only [starting, queue] at other
  simp only [begin]
  cases judged : server.verdict socket frame with
  | dropped => exact sameClients_pop server socket rest
  | refused messageId error => exact (sameClients_pop server socket rest).trans (sameClients_send _)
  | accepted messageId command args =>
      simp only [judged] at other
      apply (sameClients_pop server socket rest).trans
      apply startHandler_other
      rintro call isAttach parsed
      dsimp only at isAttach parsed
      apply other call
      rw [parsed, isAttach]

theorem controlled_dequeue (holds : server.Controlled)
    (safe : server.strays options (.dequeue socket) = false)
    (taken : step options server (.dequeue socket) = some next) : next.Controlled := by
  by_cases attaches : ∃ call, server.starting options socket = some (.attach, .ok call)
  · obtain ⟨call, started⟩ := attaches
    obtain ⟨popped, same, changed⟩ := dequeue_attach started taken
    refine (controlled_handleAttach (holds.of_sameClients same) ?_).of_sameClients changed
    rw [same.clients]
    by_contra forgotten
    rw [Bool.eq_false_iff, ne_eq, strays_dequeue_iff] at safe
    exact safe ⟨.attach, .ok call, started, .inl ⟨rfl, ⟨call, rfl⟩, .inl forgotten⟩⟩
  · exact holds.of_sameClients (dequeue_other (not_exists.mp attaches) taken)

theorem controlled_step {event : ServerEvent} (holds : server.Controlled)
    (safe : server.strays options event = false)
    (taken : step options server event = some next) : next.Controlled := by
  cases event with
  | connect socket =>
      rw [step] at taken
      split at taken
      · rename_i enabled
        obtain rfl := Option.some.inj taken
        exact controlled_onConnection holds enabled.2
      · cases taken
  | receive socket frame =>
      rw [step] at taken
      split at taken
      · obtain rfl := Option.some.inj taken
        exact holds.of_sameClients
          (sameClients_modify (fun _ => rfl) fun _ away => away)
      · cases taken
  | dequeue socket => exact controlled_dequeue holds safe taken
  | settle socket outcome =>
      obtain ⟨started, -, rfl⟩ := Option.map_eq_some_iff.mp taken
      exact holds.of_sameClients ((sameClients_respond started _).trans
        (sameClients_modify (fun _ => rfl) fun _ away => away))
  | timeout socket =>
      rw [step] at taken
      split at taken
      · obtain rfl := Option.some.inj taken
        exact holds.of_sameClients sameClients_onTimeout
      · cases taken
  | peerCloses socket =>
      rw [step] at taken
      split at taken
      · obtain rfl := Option.some.inj taken
        exact holds.of_sameClients
          (sameClients_modify attached_hangUp fun _ => away_of_hangUp)
      · cases taken
  | closed socket =>
      rw [step] at taken
      split at taken
      · obtain rfl := Option.some.inj taken
        exact controlled_onClose holds
      · cases taken
  | refuse refusal =>
      obtain rfl := Option.some.inj taken
      exact ⟨holds.recorded, holds.marked, holds.connected⟩
  | shutdown =>
      rw [step] at taken
      split at taken
      · obtain rfl := Option.some.inj taken
        exact controlled_shutdown server
      · cases taken

theorem passed_of_starting {command : WireCommand} {call : Except ProtocolError FacadeCall}
    (started : server.starting options socket = some (command, call)) :
    server.refusal = none → command ≠ .attach → (server.sockets socket).attached = true := by
  unfold starting at started
  split at started
  · cases started
  · split at started
    · rename_i passed
      obtain ⟨rfl, -⟩ := Prod.mk.inj (Option.some.inj started)
      exact (accepted_onMessage passed).1
    · cases started

/-- The condition is exact for one frame: on a controlled server, handling it
keeps the property if and only if it does not stray. -/
theorem keepsGate_iff (holds : server.Controlled)
    (taken : step options server (.dequeue socket) = some next) :
    server.strays options (.dequeue socket) = false ↔
      next.SoleController ∧ server.Gated options socket ∧ ¬server.Steals next socket := by
  rw [Bool.eq_false_iff, ne_eq]
  constructor
  · intro safe
    refine ⟨(controlled_dequeue holds (Bool.eq_false_iff.mpr safe) taken).soleController, ?_, ?_⟩
    · intro command call started isOther serving
      apply holds.marked socket _ (passed_of_starting started serving isOther)
      by_contra forgotten
      exact safe (strays_dequeue_iff.mpr
        ⟨command, call, started, .inr ⟨isOther, serving, forgotten⟩⟩)
    · rintro ⟨⟨incumbent, healthy⟩, records, late⟩
      by_cases attaches : ∃ call, server.starting options socket = some (.attach, .ok call)
      · obtain ⟨call, started⟩ := attaches
        apply safe
        apply strays_dequeue_iff.mpr
        refine ⟨.attach, .ok call, started, .inl ⟨rfl, ⟨call, rfl⟩, ?_⟩⟩
        exact late.imp_right fun displaced => ⟨displaced, incumbent, healthy⟩
      · have same := dequeue_other (not_exists.mp attaches) taken
        rw [same.attached, healthy.1] at records
        exact healthy.2.1 (Option.some.inj records)
  · rintro ⟨sole, gated, honest⟩ late
    obtain ⟨command, call, started, ⟨rfl, ⟨accepted, rfl⟩, why⟩ | ⟨isOther, serving, forgotten⟩⟩ :=
      strays_dequeue_iff.mp late
    · obtain ⟨popped, same, changed⟩ := dequeue_attach started taken
      have records : next.attached = some socket := changed.attached
      have clients : next.clients = server.clients :=
        changed.clients.trans (clients_supersede.trans same.clients)
      rcases why with forgotten | ⟨displaced, healthy⟩
      · exact forgotten (clients ▸ sole.connected socket records)
      · exact honest ⟨healthy, records, .inr displaced⟩
    · exact forgotten (holds.recorded socket (gated command call started isOther serving)).1

/-- In every run in which no frame strays, the recorded socket is the only
controller in every state reached, no other command than `attach` starts for any
other socket, and no closed or displaced socket takes the attachment. -/
theorem single_controller_of_safe_run {refusal : Option String} {events : List ServerEvent}
    (run : RunWhere (step options) (fun server event => server.strays options event = false)
      (fresh refusal) events server) :
    server.SoleController ∧
      ∀ socket next, server.strays options (.dequeue socket) = false →
        step options server (.dequeue socket) = some next →
        server.Gated options socket ∧ ¬server.Steals next socket := by
  have holds : server.Controlled := run.invariant (controlled_fresh refusal)
    fun before event after holds safe taken => controlled_step holds safe taken
  refine ⟨holds.soleController, ?_⟩
  intro socket next safe taken
  exact ((keepsGate_iff holds taken).mp safe).2

/-! ## Frames that outlive their socket -/

/-- Options of a server in a test. -/
def quietOptions : ServerOptions := ⟨"1.0.0", "0.17.8", ⟨fun _ => "", fun _ => ""⟩⟩

/-- A frame with a command and its arguments. -/
def request (messageId command : String) (args : Struct) : Option Json :=
  some (.object [("message_id", .string messageId), ("command", .string command),
    ("args", .object args)])

def attachRequest : Option Json :=
  request "attach" "attach" [("protocolVersion", .number (.ofInt 2))]

def setStateRequest : Option Json :=
  request "set" "set_state" [("indigoDeviceId", .number (.ofInt 7)),
    ("states", .object [("onOff", .boolean true)])]

/-- A client connects and attaches. -/
def attaching (socket : Nat) : List ServerEvent :=
  [.connect socket, .receive socket attachRequest, .dequeue socket]

/-- The second client takes over from the first, which is then closed. -/
def takeOver : List ServerEvent :=
  attaching 1 ++ [.settle 1 (.returned (some .null))] ++ attaching 2 ++
    [.settle 2 (.returned (some .null)), .closed 1, .receive 2 setStateRequest]

/-- The first client leaves while its attach is in flight and a frame waits behind
it, and then a second client attaches. -/
def leavesEarly (waiting : Option Json) : List ServerEvent :=
  attaching 1 ++ [.receive 1 waiting, .closed 1] ++ attaching 2 ++
    [.settle 1 (.returned (some .null))]

/-- The state after a list of events that can all happen. -/
def play (events : List ServerEvent) : WsServer :=
  (follow (step quietOptions) (fun _ _ => True) (fresh none) events).getD (fresh none)

theorem single_controller_after_takeOver :
    (play takeOver).SoleController ∧ (play takeOver).Gated quietOptions 2 := by
  have run : RunWhere (step quietOptions)
      (fun server event => server.strays quietOptions event = false) (fresh none) takeOver
      (play takeOver) := runWhere_of_follow (by rfl)
  obtain ⟨sole, keeps⟩ := single_controller_of_safe_run run
  refine ⟨sole, (keeps 2 (play (takeOver ++ [.dequeue 2])) ?_ ?_).1⟩
  · decide
  · rfl

/-- A `set_state` that waited on a closed socket runs while another client is
attached, and an `attach` that waited there takes the attachment from it. -/
theorem late_frames_pass :
    ¬ ∀ (options : ServerOptions) (refusal : Option String) (events : List ServerEvent)
      (server : WsServer), Run (step options) (fresh refusal) events server →
        server.SoleController ∧
          ∀ socket next, step options server (.dequeue socket) = some next →
            server.Gated options socket ∧ ¬server.Steals next socket := by
  intro claimed
  have run : Run (step quietOptions) (fresh none) (leavesEarly setStateRequest)
      (play (leavesEarly setStateRequest)) := runWhere_of_follow (by rfl)
  have gated := ((claimed _ _ _ _ run).2 1
    (play (leavesEarly setStateRequest ++ [.dequeue 1])) (by rfl)).1
  have other := gated .setState (.ok (.setState 7 [("onOff", .boolean true)])) (by rfl)
    (by decide) (by rfl)
  exact absurd other (by decide)

end WsServer

end IndigoMatter.Bridge
