import IndigoMatter.Library.InsertionMap
import IndigoMatter.Library.Transition
import Mathlib.Logic.Function.Iterate

/-!
# Requests of the WebSocket client

`ws_json_client.py` correlates responses with requests through two tables.
`_pending` holds the futures of the calls that wait; `_send_context` holds, in a
bounded table, what each request was, and outlives a call that stopped waiting.
A response goes to the future of its call, or else to `on_late_response`.

A call is a task of the event loop, split where it is suspended: while the frame
is sent, while `asyncio.wait_for` waits for the future, and, before Python 3.12,
while `wait_for` waits for the cancellation of that future to take effect.  What
happens to a future takes hold at once; the task goes on in a later step, and
only then is the call taken out of `_pending`.  The steps come in any order.

The message ids of the calls are distinct, so a future is kept with its call and
`_pending` is the list of ids registered there.  The subclass hooks have already
read a response frame when it gets here; one they cannot read is left out.
-/

namespace IndigoMatter.Plugin

open IndigoMatter.Library

variable {Context Payload : Type}

/-- `SEND_CONTEXT_LIMIT`. -/
def sendContextLimit : Nat := 256

/-- How `asyncio.wait_for` ends a wait.  Up to Python 3.11 it releases a waiter
of its own and then looks at the future; since 3.12 it cancels the task, and with
it the future the task waits for. -/
inductive WaitFor
  | releasesWaiter
  | cancelsTask
deriving DecidableEq

/-- What the hooks make of a response: the code and details of an error, or the
payload. -/
abbrev Response (Payload : Type) := Except (Int × String) Payload

/-- The future of a call. -/
inductive ResponseFuture (Payload : Type)
  | pending
  | answered (response : Response Payload)
  | disconnected
  | cancelled

/-- How a call ends. -/
inductive Ending (Payload : Type)
  | answered (response : Response Payload)
  | disconnected
  | timedOut
  | cancelled
  | sendFailed

/-- What can stop a call from waiting. -/
inductive Interruption
  | timeout
  | cancellation
deriving DecidableEq

/-- Where the task of a call is suspended, or how it ended. -/
inductive CallPhase (Payload : Type)
  | sending
  | waiting
  | closing
  | ended (ending : Ending Payload)

/-- A call of `_request_frame`.  `connection` counts the connections lost before
it; the source does not keep it, and no step reads it. -/
structure Call (Context Payload : Type) where
  context : Option Context
  connection : Nat
  future : ResponseFuture Payload
  phase : CallPhase Payload
  interrupted : Option Interruption

/-- What `on_late_response` is handed. -/
structure LateResponse (Context Payload : Type) where
  messageId : String
  context : Option Context
  response : Response Payload

/-- A response frame that has been received, and whether its id had been issued
on the connection it came from. -/
structure Receipt (Payload : Type) where
  response : Response Payload
  solicited : Bool

/-- The client, every call made of it, and what its hook was handed.  The source
does not keep `connection`, `evicted` and `received`, and no step reads the first
two. -/
structure WsJsonClient (Context Payload : Type) where
  connected : Bool
  calls : InsertionMap String (Call Context Payload)
  pending : List String
  sendContext : InsertionMap String Context
  late : List (LateResponse Context Payload)
  connection : Nat
  evicted : List String
  received : InsertionMap String (Receipt Payload)

/-- What happens to the client: a connection is made, a call begins, its send is
over, its send raises or is cancelled, its wait is interrupted, its task goes
on, a response frame is dispatched, and the connection is lost. -/
inductive WsEvent (Context Payload : Type)
  | connect
  | request (messageId : String) (context : Option Context)
  | sent (messageId : String)
  | sendFails (messageId : String) (cancelled : Bool)
  | interrupt (messageId : String) (interruption : Interruption)
  | resume (messageId : String)
  | response (messageId : String) (response : Response Payload)
  | disconnect

/-- `Future.done`. -/
def ResponseFuture.done : ResponseFuture Payload → Bool
  | .pending => false
  | _ => true

/-- What awaiting a future that is done comes to. -/
def ResponseFuture.outcome : ResponseFuture Payload → Option (Ending Payload)
  | .pending => none
  | .answered response => some (.answered response)
  | .disconnected => some .disconnected
  | .cancelled => some .cancelled

/-- The error an interrupted wait raises. -/
def Interruption.ending : Interruption → Ending Payload
  | .timeout => .timedOut
  | .cancellation => .cancelled

/-- A cancellation wins over an earlier timeout. -/
def Interruption.after (interruption : Interruption) (earlier : Option Interruption) :
    Interruption :=
  match interruption with
  | .cancellation => .cancellation
  | .timeout => earlier.getD .timeout

/-- A call that has not ended. -/
def Call.live (call : Call Context Payload) : Bool :=
  match call.phase with
  | .ended _ => false
  | _ => true

namespace WsJsonClient

/-- A client that has not connected yet. -/
def fresh : WsJsonClient Context Payload where
  connected := false
  calls := ∅
  pending := []
  sendContext := ∅
  late := []
  connection := 0
  evicted := []
  received := ∅

/-! ## Contexts -/

/-- `del self._send_context[next(iter(self._send_context))]`. -/
def evictOldest (client : WsJsonClient Context Payload) : WsJsonClient Context Payload :=
  match client.sendContext.keys with
  | [] => client
  | oldest :: _ =>
      { client with
        sendContext := client.sendContext.delete oldest
        evicted := oldest :: client.evicted }

/-- Note what a request is; the oldest notes make room. -/
def rememberSendContext (client : WsJsonClient Context Payload) (messageId : String)
    (context : Context) : WsJsonClient Context Payload :=
  let noted := { client with sendContext := client.sendContext.set messageId context }
  evictOldest^[noted.sendContext.size - sendContextLimit] noted

/-! ## Calls -/

/-- Change the record of a call. -/
def setCall (client : WsJsonClient Context Payload) (messageId : String)
    (call : Call Context Payload) : WsJsonClient Context Payload :=
  { client with calls := client.calls.set messageId call }

/-- Leave `_request_frame`: its `finally` takes the call out of `_pending` and
leaves its note. -/
def finish (client : WsJsonClient Context Payload) (messageId : String)
    (call : Call Context Payload) (ending : Ending Payload) : WsJsonClient Context Payload :=
  { client.setCall messageId { call with phase := .ended ending } with
    pending := client.pending.filter (· ≠ messageId) }

/-- Put the future of a new call into `_pending`. -/
def register (client : WsJsonClient Context Payload) (messageId : String)
    (context : Option Context) : WsJsonClient Context Payload :=
  { client.setCall messageId
      { context
        connection := client.connection
        future := .pending
        phase := .sending
        interrupted := none } with
    pending := messageId :: client.pending }

/-- `_request_frame` up to its first suspension; a client that is not connected
raises and issues nothing. -/
def requestFrame (client : WsJsonClient Context Payload) (messageId : String)
    (context : Option Context) : WsJsonClient Context Payload :=
  if client.connected then
    match context with
    | none => client.register messageId none
    | some note => (client.rememberSendContext messageId note).register messageId context
  else client

/-- The send is over and `wait_for` starts.  Since 3.12 it takes the outcome of
a future that is done at once; before, it suspends all the same. -/
def sent (style : WaitFor) (client : WsJsonClient Context Payload) (messageId : String)
    (call : Call Context Payload) : WsJsonClient Context Payload :=
  match style, call.future.outcome with
  | .cancelsTask, some ending => client.finish messageId call ending
  | _, _ => client.setCall messageId { call with phase := .waiting }

/-- The deadline passes or the task is cancelled.  Since 3.12 this cancels a
future that is not done, and otherwise is raised when the task goes on. -/
def interrupt (style : WaitFor) (client : WsJsonClient Context Payload) (messageId : String)
    (call : Call Context Payload) (interruption : Interruption) :
    WsJsonClient Context Payload :=
  let struck := { call with interrupted := some (interruption.after call.interrupted) }
  match style, call.future with
  | .cancelsTask, .pending => client.setCall messageId { struck with future := .cancelled }
  | _, _ => client.setCall messageId struck

/-- The task of a call goes on.  Up to 3.11 a future that is done wins over the
interruption, and one that is not is cancelled and waited for. -/
def resume (style : WaitFor) (client : WsJsonClient Context Payload) (messageId : String)
    (call : Call Context Payload) : Option (WsJsonClient Context Payload) :=
  match call.phase, style with
  | .waiting, .cancelsTask =>
      match call.interrupted with
      | some interruption => some (client.finish messageId call interruption.ending)
      | none => call.future.outcome.map (client.finish messageId call)
  | .waiting, .releasesWaiter =>
      match call.future.outcome, call.interrupted with
      | some ending, _ => some (client.finish messageId call ending)
      | none, some _ =>
          some (client.setCall messageId { call with future := .cancelled, phase := .closing })
      | none, none => none
  | .closing, _ =>
      call.interrupted.map fun interruption =>
        client.finish messageId call interruption.ending
  | _, _ => none

/-! ## Responses -/

/-- `_log_unmatched`, as far as the hook. -/
def logUnmatched (client : WsJsonClient Context Payload) (messageId : String)
    (response : Response Payload) : WsJsonClient Context Payload :=
  { client with
    sendContext := client.sendContext.delete messageId
    late := client.late ++ [⟨messageId, client.sendContext.get? messageId, response⟩] }

/-- `_dispatch` of a response.  One whose future is done is let go. -/
def dispatch (client : WsJsonClient Context Payload) (messageId : String)
    (response : Response Payload) : WsJsonClient Context Payload :=
  if messageId ∈ client.pending then
    let taken := { client with sendContext := client.sendContext.delete messageId }
    match client.calls.get? messageId with
    | none => taken
    | some call =>
        if call.future.done then taken
        else taken.setCall messageId { call with future := .answered response }
  else client.logUnmatched messageId response

/-- The id was issued on the current connection. -/
def issued (client : WsJsonClient Context Payload) (messageId : String) : Bool :=
  (client.calls.get? messageId).any fun call => call.connection = client.connection

/-- A response frame is read off the socket. -/
def receive (client : WsJsonClient Context Payload) (messageId : String)
    (response : Response Payload) : WsJsonClient Context Payload :=
  { client.dispatch messageId response with
    received := client.received.set messageId ⟨response, client.issued messageId⟩ }

/-- What a lost connection does to a call: a future in `_pending` that is not done
fails. -/
def failCall (client : WsJsonClient Context Payload) (messageId : String)
    (call : Call Context Payload) : Call Context Payload :=
  if messageId ∈ client.pending ∧ ¬call.future.done then { call with future := .disconnected }
  else call

/-- `_mark_disconnected`. -/
def markDisconnected (client : WsJsonClient Context Payload) : WsJsonClient Context Payload :=
  { client with
    connected := false
    calls := client.calls.mapValues client.failCall
    pending := []
    sendContext := ∅
    connection := client.connection + 1 }

/-! ## Steps -/

/-- One step of the event loop.  An id is used for one call, and answered once. -/
def step (style : WaitFor) :
    LabelledStep (WsJsonClient Context Payload) (WsEvent Context Payload) :=
  fun client event =>
    match event with
    | .connect => some { client with connected := true }
    | .request messageId context =>
        if client.calls.has messageId then none
        else some (client.requestFrame messageId context)
    | .sent messageId =>
        match client.calls.get? messageId with
        | some call =>
            match call.phase with
            | .sending => some (client.sent style messageId call)
            | _ => none
        | none => none
    | .sendFails messageId cancelled =>
        match client.calls.get? messageId with
        | some call =>
            match call.phase with
            | .sending =>
                some (client.finish messageId call (if cancelled then .cancelled else .sendFailed))
            | _ => none
        | none => none
    | .interrupt messageId interruption =>
        match client.calls.get? messageId with
        | some call =>
            match call.phase with
            | .waiting | .closing => some (client.interrupt style messageId call interruption)
            | _ => none
        | none => none
    | .resume messageId =>
        (client.calls.get? messageId).bind (client.resume style messageId)
    | .response messageId response =>
        if client.received.has messageId then none
        else some (client.receive messageId response)
    | .disconnect => some client.markDisconnected

end WsJsonClient

end IndigoMatter.Plugin
