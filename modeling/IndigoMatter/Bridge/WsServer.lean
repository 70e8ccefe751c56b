import IndigoMatter.Bridge.Commands
import IndigoMatter.Library.Transition

/-!
# The protocol server

Each socket has a queue of frames, and the handler of a frame starts only when
the one before it is over; sockets do not wait for each other.  The state of a
socket lives as long as something refers to it, so the frames of a socket whose
`close` event is over still run: only `clients` forgets it.

A handler is split where the source awaits.  Up to the call of the bridge it
runs at once, which for `attach` includes the change of the attached client;
what it answers follows in a later event.
-/

namespace IndigoMatter.Bridge

open IndigoMatter.Library

/-- The states of a socket. -/
inductive ReadyState
  | CONNECTING
  | OPEN
  | CLOSING
  | CLOSED
deriving DecidableEq

/-- A frame the server sends in answer to a socket's own. -/
inductive Outgoing
  | handshake (protocolVersion : Nat) (bridgeVersion matterJsVersion : String)
  | success (messageId : String) (result : Json)
  | failure (messageId : String) (error : ProtocolError)

/-- A handler that has started: the call it waits for, or its own refusal. -/
structure InFlight where
  messageId : String
  command : WireCommand
  call : Except ProtocolError FacadeCall

/-- What became of a call of the bridge; a result that will not stringify is
`none`. -/
inductive Outcome
  | returned (result : Option Json)
  | threw (error : Thrown)

/-- Handlers that answer `{}` whatever the bridge returns. -/
def FacadeCall.answer (call : FacadeCall) (result : Option Json) : Option Json :=
  match call with
  | .setState _ _ | .setReachable _ _ | .factoryReset _ => some (.object [])
  | _ => result

/-- What the `await` of a handler comes to. -/
def InFlight.outcome (started : InFlight) (outcome : Outcome) : Outcome :=
  match started.call with
  | .error error => .threw (.protocol error)
  | .ok call =>
      match outcome with
      | .returned result => .returned (call.answer result)
      | .threw error => .threw error

/-- What the server keeps for one socket.  `superseded` says that another client
has taken the attachment from it; the source does not keep it, and no step reads
it. -/
structure ClientState where
  attached : Bool
  unattachedTimer : Bool
  pending : List (Option Json)
  running : Option InFlight
  readyState : ReadyState
  sent : List Outgoing
  superseded : Bool

/-- A socket that has not connected yet. -/
def ClientState.unconnected : ClientState where
  attached := false
  unattachedTimer := false
  pending := []
  running := none
  readyState := .CONNECTING
  sent := []
  superseded := false

/-- `socket.close()`: begins the closing handshake, once. -/
def ClientState.hangUp (state : ClientState) : ClientState :=
  if state.readyState = .OPEN then { state with readyState := .CLOSING } else state

/-- The server and every socket it has ever accepted. -/
structure WsServer where
  sockets : Nat → ClientState
  clients : List Nat
  attached : Option Nat
  refusal : Option String
  listening : Bool

/-- What the server is built with. -/
structure ServerOptions where
  bridgeVersion : String
  matterJsVersion : String
  rendering : Rendering

/-- What happens to the server: a client connects or sends a text frame, the next
frame of a socket begins, the call of a socket's handler is over, the timer of
an unattached socket fires, a peer begins to close, a `close` event arrives, the
bridge begins or stops refusing, and the server shuts down. -/
inductive ServerEvent
  | connect (socket : Nat)
  | receive (socket : Nat) (frame : Option Json)
  | dequeue (socket : Nat)
  | settle (socket : Nat) (outcome : Outcome)
  | timeout (socket : Nat)
  | peerCloses (socket : Nat)
  | closed (socket : Nat)
  | refuse (refusal : Option String)
  | shutdown

namespace WsServer

/-- A server that listens and has no client. -/
def fresh (refusal : Option String) : WsServer where
  sockets := fun _ => .unconnected
  clients := []
  attached := none
  refusal := refusal
  listening := true

/-- Change what is kept for one socket. -/
def modify (socket : Nat) (change : ClientState → ClientState) (server : WsServer) : WsServer :=
  { server with
    sockets := fun other =>
      if other = socket then change (server.sockets socket) else server.sockets other }

/-- `send`: whether the frame went. -/
def send (socket : Nat) (frame : Option Outgoing) (server : WsServer) : WsServer × Bool :=
  match frame with
  | some outgoing =>
      if (server.sockets socket).readyState = .OPEN then
        (server.modify socket fun state => { state with sent := state.sent ++ [outgoing] }, true)
      else (server, false)
  | none => (server, false)

def sendError (socket : Nat) (messageId : String) (error : ProtocolError) (server : WsServer) :
    WsServer :=
  (server.send socket (some (.failure messageId error))).1

/-- `onConnection`. -/
def onConnection (options : ServerOptions) (socket : Nat) (server : WsServer) : WsServer :=
  let accepted : ClientState :=
    { ClientState.unconnected with unattachedTimer := true, readyState := .OPEN }
  let registered : WsServer :=
    { server.modify socket fun _ => accepted with clients := server.clients ++ [socket] }
  (registered.send socket
    (some (.handshake PROTOCOL_VERSION options.bridgeVersion options.matterJsVersion))).1

/-- The new attach closes the incumbent and takes its mark. -/
def supersede (socket : Nat) (server : WsServer) : WsServer :=
  match server.attached with
  | none => server
  | some incumbent =>
      if incumbent = socket then server
      else
        server.modify incumbent fun state =>
          { state.hangUp with
            attached := if incumbent ∈ server.clients then false else state.attached
            superseded := true }

/-- The part of `handleAttach` after its arguments are parsed, up to the call. -/
def handleAttach (socket : Nat) (server : WsServer) : WsServer :=
  { (server.supersede socket).modify socket fun state =>
      { state with attached := true, unattachedTimer := false } with attached := some socket }

/-- The handler runs up to its call of the bridge. -/
def startHandler (socket : Nat) (started : InFlight) (server : WsServer) : WsServer :=
  let called : WsServer :=
    match started.command, started.call with
    | .attach, .ok _ => server.handleAttach socket
    | _, _ => server
  called.modify socket fun state => { state with running := some started }

/-- The first waiting frame of a socket, when the handler before it is over. -/
def nextFrame (socket : Nat) (server : WsServer) : Option (Option Json × List (Option Json)) :=
  match (server.sockets socket).running, (server.sockets socket).pending with
  | none, frame :: rest => some (frame, rest)
  | _, _ => none

/-- What `onMessage` makes of a frame of a socket. -/
def verdict (socket : Nat) (frame : Option Json) (server : WsServer) : Verdict :=
  onMessage server.refusal (server.sockets socket).attached frame

/-- The frame leaves the queue, and its handling runs up to its first await. -/
def begin (options : ServerOptions) (socket : Nat) (frame : Option Json)
    (rest : List (Option Json)) (server : WsServer) : WsServer :=
  let popped := server.modify socket fun state => { state with pending := rest }
  match server.verdict socket frame with
  | .dropped => popped
  | .refused messageId error => popped.sendError socket messageId error
  | .accepted messageId command args =>
      popped.startHandler socket ⟨messageId, command, command.parse options.rendering args⟩

/-- The answer to a frame whose handler is over. -/
def respond (socket : Nat) (started : InFlight) (outcome : Outcome) (server : WsServer) :
    WsServer :=
  match outcome with
  | .returned result =>
      let (sent, went) := server.send socket (result.map (.success started.messageId))
      if went then sent
      else sent.sendError socket started.messageId
        ⟨.internal, "Could not send the result of " ++ started.command.name⟩
  | .threw (.protocol error) =>
      let answered := server.sendError socket started.messageId error
      if error.code = .versionMismatch then answered.modify socket ClientState.hangUp
      else answered
  | .threw (.matter message) => server.sendError socket started.messageId ⟨.internal, message⟩

/-- The timer of a socket fires; while the node refuses, it is only set again. -/
def onTimeout (socket : Nat) (server : WsServer) : WsServer :=
  let state := server.sockets socket
  if state.attached then server.modify socket fun state => { state with unattachedTimer := false }
  else if server.refusal.isSome then server
  else server.modify socket fun state => { state.hangUp with unattachedTimer := false }

/-- The `close` event. -/
def onClose (socket : Nat) (server : WsServer) : WsServer :=
  { server.modify socket fun state =>
      { state with unattachedTimer := false, readyState := .CLOSED } with
    clients := server.clients.filter (· ≠ socket)
    attached := if server.attached = some socket then none else server.attached }

/-- `close`: every client is terminated and forgotten. -/
def shutdown (server : WsServer) : WsServer where
  sockets := fun socket =>
    if socket ∈ server.clients then
      { (server.sockets socket).hangUp with unattachedTimer := false }
    else server.sockets socket
  clients := []
  attached := none
  refusal := server.refusal
  listening := false

/-- One event. -/
def step (options : ServerOptions) : LabelledStep WsServer ServerEvent
  | server, .connect socket =>
      if server.listening ∧ (server.sockets socket).readyState = .CONNECTING then
        some (server.onConnection options socket)
      else none
  | server, .receive socket frame =>
      if (server.sockets socket).readyState = .OPEN ∨
          (server.sockets socket).readyState = .CLOSING then
        some (server.modify socket fun state => { state with pending := state.pending ++ [frame] })
      else none
  | server, .dequeue socket =>
      (server.nextFrame socket).map fun (frame, rest) => server.begin options socket frame rest
  | server, .settle socket outcome =>
      (server.sockets socket).running.map fun started =>
        (server.respond socket started (started.outcome outcome)).modify socket
          fun state => { state with running := none }
  | server, .timeout socket =>
      if (server.sockets socket).unattachedTimer then some (server.onTimeout socket) else none
  | server, .peerCloses socket =>
      if (server.sockets socket).readyState = .OPEN then
        some (server.modify socket ClientState.hangUp)
      else none
  | server, .closed socket =>
      if (server.sockets socket).readyState = .OPEN ∨
          (server.sockets socket).readyState = .CLOSING then
        some (server.onClose socket)
      else none
  | server, .refuse refusal => some { server with refusal := refusal }
  | server, .shutdown => if server.listening then some server.shutdown else none

end WsServer

end IndigoMatter.Bridge
