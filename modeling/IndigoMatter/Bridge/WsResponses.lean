import IndigoMatter.Bridge.WsAttachment

/-!
# One response for every request

A request is a text frame with a string `message_id`; a binary frame is dropped
before it reaches the queue, so it is no event here.  While a socket is open, the
requests it has sent are the ones answered so far, in receipt order, followed by
the one whose handler runs and the ones in the queue.  A handler that is over, in
whatever way, always leaves the queue free for the next frame.
-/

namespace IndigoMatter.Bridge

open IndigoMatter.Library

/-- The id a frame asks to be answered under. -/
def requestId (frame : Option Json) : Option String :=
  match frame with
  | some (.object fields) =>
      match Json.property fields "message_id" with
      | some (.string messageId) => some messageId
      | _ => none
  | _ => none

/-- The request a frame answers; the handshake answers none. -/
def Outgoing.answers : Outgoing → Option String
  | .handshake _ _ _ => none
  | .success messageId _ => some messageId
  | .failure messageId _ => some messageId

namespace ClientState

/-- The requests answered on a socket, in the order of the answers. -/
def answered (state : ClientState) : List String := state.sent.filterMap Outgoing.answers

/-- The requests that wait: the one whose handler runs, then the queue. -/
def waiting (state : ClientState) : List String :=
  (state.running.map InFlight.messageId).toList ++ state.pending.filterMap requestId

end ClientState

/-- The request an event brings to a socket. -/
def ServerEvent.requested (socket : Nat) : ServerEvent → Option String
  | .receive receiver frame => if receiver = socket then requestId frame else none
  | _ => none

/-- The requests received on a socket, in receipt order. -/
def requests (socket : Nat) (events : List ServerEvent) : List String :=
  events.filterMap (ServerEvent.requested socket)

/-! ## The gate answers under the frame's own id -/

/-- The id a verdict is about. -/
def Verdict.messageId? : Verdict → Option String
  | .dropped => none
  | .refused messageId _ => some messageId
  | .accepted messageId _ _ => some messageId

theorem messageId?_lookupHandler (messageId command : String) (args : Struct) :
    (lookupHandler messageId command args).messageId? = some messageId := by
  unfold lookupHandler
  split <;> rfl

theorem messageId?_gate (refusal : Option String) (attached : Bool)
    (messageId command : String) (args : Struct) :
    (gate refusal attached messageId command args).messageId? = some messageId := by
  unfold gate
  split
  · split
    · exact messageId?_lookupHandler _ _ _
    · rfl
  · split
    · rfl
    · exact messageId?_lookupHandler _ _ _

/-- A frame is dropped just when it is no request. -/
theorem messageId?_onMessage (refusal : Option String) (attached : Bool)
    (frame : Option Json) : (onMessage refusal attached frame).messageId? = requestId frame := by
  unfold onMessage requestId
  rcases frame with _ | frame
  · rfl
  · cases frame with
    | object fields =>
        dsimp only
        rcases Json.property fields "message_id" with _ | identity
        · rfl
        · cases identity with
          | string messageId =>
              dsimp only
              split
              · exact messageId?_gate _ _ _ _ _
              · rfl
          | _ => rfl
    | _ => rfl

/-- What an event says the handler of a socket came to. -/
def ServerEvent.settled : ServerEvent → Option Outcome
  | .settle _ outcome => some outcome
  | _ => none

namespace WsServer

variable {options : ServerOptions} {server next : WsServer} {socket other : Nat}

/-- The requests of an open socket are the answered ones followed by the waiting
ones; before it connects there are none. -/
structure Answers (received : List String) (state : ClientState) : Prop where
  connecting : state.readyState = .CONNECTING → received = []
  opened : state.readyState = .OPEN → received = state.answered ++ state.waiting

/-- A change under which no request is lost, repeated or overtaken, or which ends
the socket's being open. -/
structure Conserves (before after : ClientState) : Prop where
  connecting : after.readyState = .CONNECTING → before.readyState = .CONNECTING
  opened : after.readyState = .OPEN → before.readyState = .OPEN ∧
    after.answered ++ after.waiting = before.answered ++ before.waiting

theorem Conserves.refl (state : ClientState) : Conserves state state :=
  ⟨id, fun opened => ⟨opened, rfl⟩⟩

theorem Conserves.trans {first second third : ClientState} (before : Conserves first second)
    (after : Conserves second third) : Conserves first third where
  connecting connecting := before.connecting (after.connecting connecting)
  opened opened := by
    rcases after.opened opened with ⟨still, same⟩
    rcases before.opened still with ⟨already, earlier⟩
    exact ⟨already, same.trans earlier⟩

theorem Answers.conserved {received : List String} {before after : ClientState}
    (holds : Answers received before) (conserved : Conserves before after) :
    Answers received after where
  connecting connecting := holds.connecting (conserved.connecting connecting)
  opened opened := by
    rcases conserved.opened opened with ⟨already, same⟩
    rw [same]
    exact holds.opened already

/-! ## Changes that answer nothing -/

theorem conserves_hangUp (state : ClientState) : Conserves state state.hangUp := by
  unfold ClientState.hangUp
  split
  · exact ⟨nofun, nofun⟩
  · exact .refl state

theorem conserves_update {changed : ClientState}
    (conserved : Conserves (server.sockets socket) changed) :
    Conserves (server.sockets other)
      (if other = socket then changed else server.sockets other) := by
  split
  · rename_i own
    exact own ▸ conserved
  · exact .refl _

theorem conserves_onTimeout :
    Conserves (server.sockets other) ((server.onTimeout socket).sockets other) := by
  unfold onTimeout
  dsimp only
  split
  · exact conserves_update ⟨id, fun opened => ⟨opened, rfl⟩⟩
  · split
    · exact .refl _
    · apply conserves_update
      exact (conserves_hangUp _).trans ⟨id, fun opened => ⟨opened, rfl⟩⟩

theorem conserves_onClose :
    Conserves (server.sockets other) ((server.onClose socket).sockets other) := by
  apply conserves_update
  exact ⟨nofun, nofun⟩

theorem conserves_shutdown : Conserves (server.sockets other) (server.shutdown.sockets other) := by
  unfold shutdown
  dsimp only
  split
  · exact (conserves_hangUp _).trans ⟨id, fun opened => ⟨opened, rfl⟩⟩
  · exact .refl _

theorem conserves_handleAttach :
    Conserves (server.sockets other) ((server.handleAttach socket).sockets other) := by
  have superseded : Conserves (server.sockets other) ((server.supersede socket).sockets other) := by
    unfold supersede
    split
    · exact .refl _
    · split
      · exact .refl _
      · apply conserves_update
        exact (conserves_hangUp _).trans ⟨id, fun opened => ⟨opened, rfl⟩⟩
  apply superseded.trans
  apply conserves_update
  exact ⟨id, fun opened => ⟨opened, rfl⟩⟩

/-- An attach leaves its own socket open, and its queue alone. -/
theorem sockets_handleAttach_self :
    (server.handleAttach socket).sockets socket =
      { server.sockets socket with attached := true, unattachedTimer := false } := by
  have superseded : (server.supersede socket).sockets socket = server.sockets socket := by
    unfold supersede
    split
    · rfl
    · split
      · rfl
      · rename_i another
        rw [sockets_modify, if_neg (Ne.symm another)]
  simp [handleAttach, superseded]

/-! ## Answers -/

/-- The socket, if it is still open, has answered one more request. -/
structure Responded (messageId : String) (before after : ClientState) : Prop where
  connecting : after.readyState = .CONNECTING → before.readyState = .CONNECTING
  running : after.running = before.running
  pending : after.pending = before.pending
  opened : after.readyState = .OPEN → before.readyState = .OPEN ∧
    after.answered = before.answered ++ [messageId]

theorem Responded.waiting {messageId : String} {before after : ClientState}
    (responded : Responded messageId before after) : after.waiting = before.waiting := by
  rw [ClientState.waiting, responded.running, responded.pending]
  rfl

theorem Responded.hangUp {messageId : String} {before after : ClientState}
    (responded : Responded messageId before after) : Responded messageId before after.hangUp := by
  unfold ClientState.hangUp
  split
  · exact ⟨nofun, responded.running, responded.pending, nofun⟩
  · exact responded

theorem responded_send {messageId : String} {outgoing : Outgoing}
    (answers : outgoing.answers = some messageId) :
    Responded messageId (server.sockets socket)
      ((server.send socket (some outgoing)).1.sockets socket) := by
  unfold send
  dsimp only
  split
  · rename_i isOpen
    rw [sockets_modify, if_pos rfl]
    refine ⟨id, rfl, rfl, fun _ => ⟨isOpen, ?_⟩⟩
    simp [ClientState.answered, answers]
  · rename_i shut
    exact ⟨id, rfl, rfl, fun isOpen => absurd isOpen shut⟩

theorem sockets_send_of_ne (another : other ≠ socket) (frame : Option Outgoing) :
    (server.send socket frame).1.sockets other = server.sockets other := by
  unfold send
  split
  · split
    · rw [sockets_modify, if_neg another]
    · rfl
  · rfl

theorem sockets_respond_of_ne (another : other ≠ socket) (started : InFlight)
    (outcome : Outcome) :
    (server.respond socket started outcome).sockets other = server.sockets other := by
  cases outcome with
  | returned result =>
      simp only [respond]
      split
      · exact sockets_send_of_ne another _
      · exact (sockets_send_of_ne another _).trans (sockets_send_of_ne another _)
  | threw error =>
      cases error with
      | protocol error =>
          simp only [respond]
          split
          · rw [sockets_modify, if_neg another]
            exact sockets_send_of_ne another _
          · exact sockets_send_of_ne another _
      | matter message => exact sockets_send_of_ne another _

/-- Whatever a handler came to, its request has been answered. -/
theorem responded_respond (started : InFlight) (outcome : Outcome) :
    Responded started.messageId (server.sockets socket)
      ((server.respond socket started outcome).sockets socket) := by
  cases outcome with
  | returned result =>
      cases result with
      | none => exact responded_send rfl
      | some result =>
          have answered := @responded_send server socket started.messageId
            (.success started.messageId result) rfl
          simp only [respond, Option.map_some]
          split
          · exact answered
          · rename_i shut
            have unsent : (server.send socket (some (.success started.messageId result))).1 =
                server := by
              unfold send at shut ⊢
              dsimp only at shut ⊢
              split
              · rename_i isOpen
                exact absurd (if_pos isOpen ▸ rfl) shut
              · rfl
            rw [unsent]
            exact responded_send rfl
  | threw error =>
      cases error with
      | protocol error =>
          simp only [respond]
          split
          · rw [sockets_modify, if_pos rfl]
            exact (responded_send rfl).hangUp
          · exact responded_send rfl
      | matter message => exact responded_send rfl

/-! ## One event -/

theorem eq_of_nextFrame {frame : Option Json} {rest : List (Option Json)}
    (queue : server.nextFrame socket = some (frame, rest)) :
    (server.sockets socket).running = none ∧ (server.sockets socket).pending = frame :: rest := by
  unfold nextFrame at queue
  split at queue
  · rename_i idle waiting
    obtain ⟨rfl, rfl⟩ := Prod.mk.inj (Option.some.inj queue)
    exact ⟨idle, waiting⟩
  · cases queue

theorem conserves_begin_of_ne (another : other ≠ socket) (frame : Option Json)
    (rest : List (Option Json)) :
    Conserves (server.sockets other) ((server.begin options socket frame rest).sockets other) := by
  have popped : (server.modify socket fun state => { state with pending := rest }).sockets other =
      server.sockets other := by
    rw [sockets_modify, if_neg another]
  unfold begin
  dsimp only
  split
  · rw [popped]
    exact .refl _
  · rw [sendError, sockets_send_of_ne another, popped]
    exact .refl _
  · unfold startHandler
    dsimp only
    rw [sockets_modify, if_neg another]
    split
    · rw [← popped]
      exact conserves_handleAttach
    · rw [popped]
      exact .refl _

/-- A frame that leaves the queue is dropped, answered or handed to its handler. -/
theorem conserves_begin {frame : Option Json} {rest : List (Option Json)}
    (idle : (server.sockets socket).running = none)
    (queue : (server.sockets socket).pending = frame :: rest) :
    Conserves (server.sockets socket) ((server.begin options socket frame rest).sockets socket) := by
  have identity : (server.verdict socket frame).messageId? = requestId frame :=
    messageId?_onMessage _ _ _
  have waits : (server.sockets socket).waiting =
      (requestId frame).toList ++ rest.filterMap requestId := by
    rw [ClientState.waiting, idle, queue, List.filterMap_cons]
    cases requestId frame <;> rfl
  let popped := server.modify socket fun state => { state with pending := rest }
  have after : popped.sockets socket = { server.sockets socket with pending := rest } := by
    rw [sockets_modify, if_pos rfl]
  have remains : (popped.sockets socket).waiting = rest.filterMap requestId := by
    rw [after, ClientState.waiting, idle]
    rfl
  unfold begin
  dsimp only
  cases judged : server.verdict socket frame with
  | dropped =>
      change Conserves _ (popped.sockets socket)
      rw [judged] at identity
      constructor
      · rw [after]
        exact id
      · intro opened
        rw [remains, waits, ← identity, after] at *
        exact ⟨opened, rfl⟩
  | refused messageId error =>
      change Conserves _ ((popped.sendError socket messageId error).sockets socket)
      have responded : Responded messageId (popped.sockets socket)
          ((popped.sendError socket messageId error).sockets socket) := responded_send rfl
      rw [judged] at identity
      constructor
      · intro connecting
        have before := responded.connecting connecting
        rwa [after] at before
      · intro opened
        rcases responded.opened opened with ⟨before, answered⟩
        rw [responded.waiting, answered, remains, waits, ← identity, after] at *
        refine ⟨before, ?_⟩
        simp [ClientState.answered, Verdict.messageId?]
  | accepted messageId command args =>
      rw [judged] at identity
      let started : InFlight := ⟨messageId, command, command.parse options.rendering args⟩
      change Conserves _ ((popped.startHandler socket started).sockets socket)
      have begun : ((popped.startHandler socket started).sockets socket).readyState =
            (server.sockets socket).readyState ∧
          ((popped.startHandler socket started).sockets socket).sent =
            (server.sockets socket).sent ∧
          ((popped.startHandler socket started).sockets socket).waiting =
            messageId :: rest.filterMap requestId := by
        unfold startHandler
        dsimp only
        rw [sockets_modify, if_pos rfl]
        split
        · rw [sockets_handleAttach_self, after]
          exact ⟨rfl, rfl, rfl⟩
        · rw [after]
          exact ⟨rfl, rfl, rfl⟩
      rcases begun with ⟨ready, sent, waiting⟩
      rw [Verdict.messageId?] at identity
      refine ⟨fun connecting => ready ▸ connecting, fun opened => ⟨ready ▸ opened, ?_⟩⟩
      rw [ClientState.answered, sent, waiting, waits, ← identity]
      rfl

/-- A socket that has just connected owes nothing. -/
theorem answers_onConnection : Answers [] ((server.onConnection options socket).sockets socket) := by
  have greeted : (server.onConnection options socket).sockets socket =
      { ClientState.unconnected with
        unattachedTimer := true
        readyState := .OPEN
        sent := [.handshake PROTOCOL_VERSION options.bridgeVersion options.matterJsVersion] } := by
    simp [onConnection, send, ClientState.unconnected]
  rw [greeted]
  exact ⟨fun _ => rfl, fun _ => rfl⟩

theorem answers_receive {received : List String} {frame : Option Json}
    (holds : Answers received (server.sockets socket))
    (connected : (server.sockets socket).readyState ≠ .CONNECTING) :
    Answers (received ++ (requestId frame).toList)
      { server.sockets socket with pending := (server.sockets socket).pending ++ [frame] } where
  connecting connecting := absurd connecting connected
  opened opened := by
    rw [holds.opened opened]
    cases identity : requestId frame <;>
      simp [ClientState.answered, ClientState.waiting, identity]

theorem conserves_settle {started : InFlight} (outcome : Outcome)
    (running : (server.sockets socket).running = some started) :
    Conserves (server.sockets socket)
      { (server.respond socket started outcome).sockets socket with running := none } := by
  have responded := @responded_respond server socket started outcome
  refine ⟨responded.connecting, fun opened => ?_⟩
  rcases responded.opened opened with ⟨before, answered⟩
  refine ⟨before, ?_⟩
  change ((server.respond socket started outcome).sockets socket).answered ++
    (((server.respond socket started outcome).sockets socket).pending.filterMap requestId) = _
  rw [answered, responded.pending, ClientState.waiting, running, List.append_assoc]
  rfl

theorem Answers.quiet {received : List String} {state : ClientState} {event : ServerEvent}
    (holds : Answers received state) (silent : event.requested other = none) :
    Answers (received ++ (event.requested other).toList) state := by
  rw [silent, Option.toList_none, List.append_nil]
  exact holds

/-- One event brings at most one request to a socket and loses none. -/
theorem answers_step {received : List String} {event : ServerEvent}
    (holds : Answers received (server.sockets other))
    (taken : step options server event = some next) :
    Answers (received ++ (event.requested other).toList) (next.sockets other) := by
  cases event with
  | connect socket =>
      rw [step] at taken
      split at taken
      · rename_i enabled
        obtain rfl := Option.some.inj taken
        apply Answers.quiet _ rfl
        by_cases own : other = socket
        · subst own
          rw [holds.connecting enabled.2]
          exact answers_onConnection
        · rw [onConnection, sockets_send_of_ne own]
          change Answers received (if other = socket then _ else server.sockets other)
          rw [if_neg own]
          exact holds
      · cases taken
  | receive socket frame =>
      rw [step] at taken
      split at taken
      · rename_i connected
        obtain rfl := Option.some.inj taken
        rw [sockets_modify]
        by_cases own : other = socket
        · subst own
          rw [if_pos rfl, ServerEvent.requested, if_pos rfl]
          apply answers_receive holds
          rcases connected with opened | closing
          · rw [opened]
            rintro ⟨⟩
          · rw [closing]
            rintro ⟨⟩
        · rw [if_neg own]
          exact holds.quiet (if_neg (Ne.symm own))
      · cases taken
  | dequeue socket =>
      obtain ⟨⟨frame, rest⟩, queue, rfl⟩ := Option.map_eq_some_iff.mp taken
      rcases eq_of_nextFrame queue with ⟨idle, pending⟩
      apply Answers.quiet _ rfl
      apply holds.conserved
      by_cases own : other = socket
      · subst own
        exact conserves_begin idle pending
      · exact conserves_begin_of_ne own frame rest
  | settle socket outcome =>
      obtain ⟨started, running, rfl⟩ := Option.map_eq_some_iff.mp taken
      apply Answers.quiet _ rfl
      apply holds.conserved
      rw [sockets_modify]
      by_cases own : other = socket
      · subst own
        rw [if_pos rfl]
        exact conserves_settle _ running
      · rw [if_neg own, sockets_respond_of_ne own]
        exact .refl _
  | timeout socket =>
      rw [step] at taken
      split at taken
      · obtain rfl := Option.some.inj taken
        exact (holds.conserved conserves_onTimeout).quiet rfl
      · cases taken
  | peerCloses socket =>
      rw [step] at taken
      split at taken
      · obtain rfl := Option.some.inj taken
        exact (holds.conserved (conserves_update (conserves_hangUp _))).quiet rfl
      · cases taken
  | closed socket =>
      rw [step] at taken
      split at taken
      · obtain rfl := Option.some.inj taken
        exact (holds.conserved conserves_onClose).quiet rfl
      · cases taken
  | refuse refusal =>
      obtain rfl := Option.some.inj taken
      exact holds.quiet rfl
  | shutdown =>
      rw [step] at taken
      split at taken
      · obtain rfl := Option.some.inj taken
        exact (holds.conserved conserves_shutdown).quiet rfl
      · cases taken

/-- In every run, each socket has answered what it received, in order, up to what
still waits. -/
theorem answers_of_run {refusal : Option String} {events : List ServerEvent}
    (run : Run (step options) (fresh refusal) events server) (socket : Nat) :
    Answers (requests socket events) (server.sockets socket) := by
  induction run with
  | nil => exact ⟨fun _ => rfl, nofun⟩
  | @snoc events middle final event before meets last holds =>
      have split : requests socket (events ++ [event]) =
          requests socket events ++ (event.requested socket).toList := by
        rw [requests, List.filterMap_append]
        cases quiet : event.requested socket <;> simp [requests, quiet]
      rw [split]
      exact answers_step holds last

/-! ## The queue empties -/

theorem exists_settle {started : InFlight} (outcome : Outcome)
    (running : (server.sockets socket).running = some started) :
    ∃ next, step options server (.settle socket outcome) = some next ∧
      (next.sockets socket).running = none ∧
      (next.sockets socket).pending = (server.sockets socket).pending := by
  refine ⟨_, Option.map_eq_some_iff.mpr ⟨started, running, rfl⟩, ?_⟩
  rw [sockets_modify, if_pos rfl]
  exact ⟨rfl, (responded_respond started _).pending⟩

theorem pending_begin (frame : Option Json) (rest : List (Option Json)) :
    ((server.begin options socket frame rest).sockets socket).pending = rest := by
  unfold begin
  dsimp only
  split
  · rw [sockets_modify, if_pos rfl]
  · rename_i messageId error _
    have responded := @responded_send
      (server.modify socket fun state => { state with pending := rest }) socket messageId
      (.failure messageId error) rfl
    rw [sendError, responded.pending, sockets_modify, if_pos rfl]
  · unfold startHandler
    dsimp only
    rw [sockets_modify, if_pos rfl]
    split
    · rw [sockets_handleAttach_self, sockets_modify, if_pos rfl]
    · rw [sockets_modify, if_pos rfl]

theorem exists_dequeue {frame : Option Json} {rest : List (Option Json)}
    (idle : (server.sockets socket).running = none)
    (queue : (server.sockets socket).pending = frame :: rest) :
    ∃ next, step options server (.dequeue socket) = some next ∧
      (next.sockets socket).pending = rest := by
  have found : server.nextFrame socket = some (frame, rest) := by
    rw [nextFrame, idle, queue]
  exact ⟨_, Option.map_eq_some_iff.mpr ⟨_, found, rfl⟩, pending_begin frame rest⟩

/-- Events that only handle what a socket has received, its handlers coming to the
given outcomes. -/
structure Drains (socket : Nat) (fate : Nat → Outcome) (events : List ServerEvent) : Prop where
  handles : ∀ event ∈ events,
    event = .dequeue socket ∨ ∃ outcome, event = .settle socket outcome
  outcomes : ∃ count, events.filterMap ServerEvent.settled = (List.range count).map fate

theorem Drains.requests {fate : Nat → Outcome} {events : List ServerEvent}
    (drains : Drains socket fate events) : requests socket events = [] := by
  apply List.filterMap_eq_nil_iff.mpr
  intro event member
  rcases drains.handles event member with rfl | ⟨outcome, rfl⟩
  · rfl
  · rfl

theorem Drains.settle {fate : Nat → Outcome} {events : List ServerEvent}
    (drains : Drains socket (fun index => fate (index + 1)) events) :
    Drains socket fate (.settle socket (fate 0) :: events) where
  handles := by
    intro event member
    rcases List.mem_cons.mp member with rfl | later
    · exact .inr ⟨_, rfl⟩
    · exact drains.handles event later
  outcomes := by
    rcases drains.outcomes with ⟨count, settled⟩
    refine ⟨count + 1, ?_⟩
    rw [List.range_succ_eq_map, List.map_cons, List.map_map, List.filterMap_cons]
    exact congrArg (fate 0 :: ·) settled

theorem Drains.dequeue {fate : Nat → Outcome} {events : List ServerEvent}
    (drains : Drains socket fate events) : Drains socket fate (.dequeue socket :: events) where
  handles := by
    intro event member
    rcases List.mem_cons.mp member with rfl | later
    · exact .inl rfl
    · exact drains.handles event later
  outcomes := drains.outcomes

/-- From every state of a run the queue of a socket can be worked off, whatever its
handlers come to. -/
theorem exists_drain {start : WsServer} {events : List ServerEvent}
    (run : Run (step options) start events server) (socket : Nat) (fate : Nat → Outcome) :
    ∃ drained final, Run (step options) start (events ++ drained) final ∧
      Drains socket fate drained ∧ (final.sockets socket).waiting = [] := by
  -- a handler counts one, a frame in the queue two: its own turn and its handler
  induction measured : 2 * (server.sockets socket).pending.length +
      (server.sockets socket).running.toList.length using Nat.strong_induction_on
    generalizing server events fate with
  | _ load lighter =>
      cases running : (server.sockets socket).running with
      | some started =>
          rcases @exists_settle options _ _ started (fate 0) running with
            ⟨next, settled, idle, pending⟩
          have less : 2 * (next.sockets socket).pending.length +
              (next.sockets socket).running.toList.length < load := by
            rw [idle, pending, ← measured, running]
            simp
          rcases lighter _ less (run.snoc trivial settled) (fun index => fate (index + 1)) rfl
            with ⟨drained, final, reached, drains, done⟩
          refine ⟨.settle socket (fate 0) :: drained, final, ?_, drains.settle, done⟩
          rwa [List.append_cons]
      | none =>
          cases queue : (server.sockets socket).pending with
          | nil =>
              refine ⟨[], server, ?_, ⟨nofun, 0, rfl⟩, ?_⟩
              · rwa [List.append_nil]
              · rw [ClientState.waiting, running, queue]
                rfl
          | cons frame rest =>
              rcases @exists_dequeue options _ _ frame rest running queue with
                ⟨next, dequeued, pending⟩
              have less : 2 * (next.sockets socket).pending.length +
                  (next.sockets socket).running.toList.length < load := by
                rw [pending, ← measured, queue, List.length_cons]
                cases (next.sockets socket).running <;> simp <;> omega
              rcases lighter _ less (run.snoc trivial dequeued) fate rfl
                with ⟨drained, final, reached, drains, done⟩
              refine ⟨.dequeue socket :: drained, final, ?_, drains.dequeue, done⟩
              rwa [List.append_cons]

/-- While a socket is open, its requests have each been answered exactly once and in
receipt order, up to those that still wait; and whatever the handlers come to, the
waiting ones can all be answered. -/
theorem one_response_per_request {refusal : Option String} {events : List ServerEvent}
    (run : Run (step options) (fresh refusal) events server)
    (opened : (server.sockets socket).readyState = .OPEN) :
    requests socket events =
        (server.sockets socket).answered ++ (server.sockets socket).waiting ∧
      ∀ fate : Nat → Outcome, ∃ drained final,
        Run (step options) (fresh refusal) (events ++ drained) final ∧
          Drains socket fate drained ∧
          ((final.sockets socket).readyState = .OPEN →
            (final.sockets socket).answered = requests socket events) := by
  refine ⟨(answers_of_run run socket).opened opened, ?_⟩
  intro fate
  rcases exists_drain run socket fate with ⟨drained, final, reached, drains, done⟩
  refine ⟨drained, final, reached, drains, ?_⟩
  intro still
  have all := (answers_of_run reached socket).opened still
  rw [requests, List.filterMap_append] at all
  change requests socket events ++ requests socket drained = _ at all
  rw [drains.requests, done, List.append_nil, List.append_nil] at all
  exact all.symm

/-- A client attaches and sends requests that are answered along different paths. -/
def mixture : List ServerEvent :=
  attaching 1 ++
    [.receive 1 none, .receive 1 (request "gone" "get_status" []),
      .receive 1 (request "odd" "nonsense" []), .receive 1 setStateRequest,
      .settle 1 (.returned none), .dequeue 1, .dequeue 1,
      .settle 1 (.threw (.matter "no such endpoint")), .refuse (some "no map"), .dequeue 1]

theorem one_response_in_mixture :
    requests 1 mixture = ["attach", "gone", "odd", "set"] ∧
      ((play mixture).sockets 1).answered = ["attach", "gone", "odd"] ∧
      requests 1 mixture =
        ((play mixture).sockets 1).answered ++ ((play mixture).sockets 1).waiting := by
  have run : Run (step quietOptions) (fresh none) mixture (play mixture) :=
    runWhere_of_follow (by rfl)
  exact ⟨by decide, by decide, (one_response_per_request run (by decide)).1⟩

end WsServer

end IndigoMatter.Bridge
