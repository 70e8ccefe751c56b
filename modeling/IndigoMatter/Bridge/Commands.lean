import IndigoMatter.Bridge.Reconcile

/-!
# The command table

The commands the protocol server knows, the arguments each of them parses, and
the gate in front of them.  Every check here runs before anything is handed to
the bridge: a handler either refuses its arguments or makes exactly one call.
-/

namespace IndigoMatter.Bridge

open IndigoMatter.Library

/-- The protocol version this node speaks. -/
def PROTOCOL_VERSION : Nat := 2

/-- Bounds of the enhanced commissioning window, in seconds. -/
def WINDOW_DURATION_MIN_SECONDS : Nat := 180

def WINDOW_DURATION_MAX_SECONDS : Nat := 900

def WINDOW_DURATION_DEFAULT_SECONDS : Nat := 900

/-- The commands that are accepted while the node refuses to serve endpoints. -/
def RECOVERY_COMMANDS : List String := ["get_status", "get_pairing", "rebuild_endpoint_map"]

/-- The tail of every `endpoint_map_invalid` refusal. -/
def ENDPOINT_MAP_INVALID_SUFFIX : String :=
  "; only get_status, get_pairing and rebuild_endpoint_map are accepted"

/-- The details of an `endpoint_map_invalid` refusal. -/
def endpointMapInvalidDetails (reason : String) : String :=
  reason ++ ENDPOINT_MAP_INVALID_SUFFIX

/-- The text the host language gives to the values that error messages quote. -/
structure Rendering where
  number : JsNumber → String
  stringify : Option Json → String

/-- The keys of the handler table. -/
inductive WireCommand
  | attach
  | getStatus
  | getPairing
  | openCommissioningWindow
  | upsertEndpoint
  | removeEndpoint
  | setState
  | setReachable
  | removeFabric
  | factoryReset
  | rebuildEndpointMap
deriving DecidableEq

namespace WireCommand

/-- The wire name of a command. -/
def name : WireCommand → String
  | attach => "attach"
  | getStatus => "get_status"
  | getPairing => "get_pairing"
  | openCommissioningWindow => "open_commissioning_window"
  | upsertEndpoint => "upsert_endpoint"
  | removeEndpoint => "remove_endpoint"
  | setState => "set_state"
  | setReachable => "set_reachable"
  | removeFabric => "remove_fabric"
  | factoryReset => "factory_reset"
  | rebuildEndpointMap => "rebuild_endpoint_map"

/-- Every command, in the order of the handler table. -/
def all : List WireCommand :=
  [attach, getStatus, getPairing, openCommissioningWindow, upsertEndpoint, removeEndpoint,
    setState, setReachable, removeFabric, factoryReset, rebuildEndpointMap]

/-- The lookup in the handler table. -/
def ofName? (text : String) : Option WireCommand := all.find? fun command => command.name = text

end WireCommand

/-- What a handler asks of the bridge. -/
inductive FacadeCall
  | reconcile (endpoints : List EndpointSpec) (replaceAll : Bool)
  | getStatus
  | getPairingSettled
  | openCommissioningWindow (durationSeconds : Int)
  | upsertEndpoint (spec : EndpointSpec)
  | removeEndpoint (indigoDeviceId : Int)
  | setState (indigoDeviceId : Int) (states : Struct)
  | setReachable (indigoDeviceId : Int) (reachable : Bool)
  | removeFabric (fabricIndex : Int)
  | factoryReset (preserveEndpointNumbers : Bool)
  | rebuildEndpointMap

/-! ## Arguments -/

/-- The fabric to drop: a positive integer. -/
def parseFabricIndex (rendering : Rendering) (value : Option Json) : Except ProtocolError Int :=
  let refusal : Except ProtocolError Int :=
    malformed ("fabricIndex must be a positive integer, got " ++ rendering.stringify value)
  match value with
  | some (.number number) =>
      match number.integer? with
      | some fabricIndex => if fabricIndex < 1 then refusal else .ok fabricIndex
      | none => refusal
  | _ => refusal

/-- Whether a factory reset keeps the endpoint map; it does unless told not to. -/
def parsePreserveEndpointNumbers (value : Option Json) : Except ProtocolError Bool :=
  parseFlag value true "preserveEndpointNumbers"

/-- The opt-in that makes emptying the endpoint set deliberate. -/
def parseReplaceAll (intent : Option Json) : Except ProtocolError Bool :=
  match intent with
  | none => .ok false
  | some (.string text) => .ok (text = INTENT_REPLACE_ALL)
  | some _ => malformed "intent must be a string"

/-- `protocolVersion` of an `attach`: skew fails closed. -/
def checkVersion (rendering : Rendering) (version : Option Json) : Except ProtocolError Unit :=
  match version with
  | some (.number number) =>
      if number = JsNumber.ofInt PROTOCOL_VERSION then .ok ()
      else .error ⟨.versionMismatch, "Node speaks protocol version " ++
        toString PROTOCOL_VERSION ++ ", client sent " ++ rendering.number number⟩
  | _ => malformed "attach requires a numeric protocolVersion"

/-- What `handleAttach` parses before any attaching state changes hands. -/
def parseAttach (rendering : Rendering) (args : Struct) : Except ProtocolError FacadeCall := do
  checkVersion rendering (Json.property args "protocolVersion")
  let endpoints ← parseEndpointSpecs (Json.property args "endpoints")
  let replaceAll ← parseReplaceAll (Json.property args "intent")
  return .reconcile endpoints replaceAll

/-- `durationSeconds`: absent or `null` means the default. -/
def handleOpenWindow (duration : Option Json) : Except ProtocolError FacadeCall :=
  let refusal : Except ProtocolError FacadeCall :=
    malformed ("durationSeconds must be an integer " ++ toString WINDOW_DURATION_MIN_SECONDS ++
      "-" ++ toString WINDOW_DURATION_MAX_SECONDS)
  match duration with
  | none | some .null => .ok (.openCommissioningWindow WINDOW_DURATION_DEFAULT_SECONDS)
  | some (.number number) =>
      match number.integer? with
      | some seconds =>
          if seconds < WINDOW_DURATION_MIN_SECONDS ∨ (WINDOW_DURATION_MAX_SECONDS : Int) < seconds
          then refusal
          else .ok (.openCommissioningWindow seconds)
      | none => refusal
  | some _ => refusal

/-- `handleSetState`: the states have to be there. -/
def handleSetState (args : Struct) : Except ProtocolError FacadeCall := do
  let indigoDeviceId ← parseDeviceId (Json.property args "indigoDeviceId")
  match Json.property args "states" with
  | some (.object states) => return .setState indigoDeviceId states
  | _ => malformed "states must be an object"

/-- `handleSetReachable`. -/
def handleSetReachable (args : Struct) : Except ProtocolError FacadeCall := do
  let indigoDeviceId ← parseDeviceId (Json.property args "indigoDeviceId")
  match Json.property args "reachable" with
  | some (.boolean reachable) => return .setReachable indigoDeviceId reachable
  | _ => malformed "reachable must be a boolean"

/-- The call a handler makes, or its refusal of the arguments. -/
def WireCommand.parse (rendering : Rendering) (args : Struct) :
    WireCommand → Except ProtocolError FacadeCall
  | .attach => parseAttach rendering args
  | .getStatus => .ok .getStatus
  | .getPairing => .ok .getPairingSettled
  | .openCommissioningWindow => handleOpenWindow (Json.property args "durationSeconds")
  | .upsertEndpoint =>
      match Json.property args "endpoint" with
      | some endpoint => (parseEndpointSpec endpoint).map .upsertEndpoint
      | none => malformed "endpoint must be an object"
  | .removeEndpoint => (parseDeviceId (Json.property args "indigoDeviceId")).map .removeEndpoint
  | .setState => handleSetState args
  | .setReachable => handleSetReachable args
  | .removeFabric => (parseFabricIndex rendering (Json.property args "fabricIndex")).map .removeFabric
  | .factoryReset =>
      (parsePreserveEndpointNumbers (Json.property args "preserveEndpointNumbers")).map .factoryReset
  | .rebuildEndpointMap => .ok .rebuildEndpointMap

/-! ## The gate -/

/-- What `onMessage` makes of a frame before any handler runs. -/
inductive Verdict
  | dropped
  | refused (messageId : String) (error : ProtocolError)
  | accepted (messageId : String) (command : WireCommand) (args : Struct)

/-- The handler of a command name. -/
def lookupHandler (messageId command : String) (args : Struct) : Verdict :=
  match WireCommand.ofName? command with
  | some known => .accepted messageId known args
  | none => .refused messageId ⟨.unknownCommand, "Unknown command " ++ command⟩

/-- The refuse-to-start gate and, behind it, the attach gate. -/
def gate (refusal : Option String) (attached : Bool) (messageId command : String)
    (args : Struct) : Verdict :=
  match refusal with
  | some reason =>
      if command ∈ RECOVERY_COMMANDS then lookupHandler messageId command args
      else .refused messageId ⟨.endpointMapInvalid, endpointMapInvalidDetails reason⟩
  | none =>
      if command ≠ "attach" ∧ attached = false then
        .refused messageId ⟨.notAttached, command ++ " requires a successful attach first"⟩
      else lookupHandler messageId command args

/-- The part of `onMessage` that runs before the handler.  A frame is `none`
when its text does not parse; the properties of an array are not looked at. -/
def onMessage (refusal : Option String) (attached : Bool) (frame : Option Json) : Verdict :=
  let properties : Option Struct :=
    match frame with
    | some (.object fields) => some fields
    | some (.array _) => some []
    | _ => none
  match properties with
  | none => .dropped
  | some fields =>
      match Json.property fields "message_id" with
      | some (.string messageId) =>
          match Json.property fields "command" with
          | some (.string command) =>
              let args := match Json.property fields "args" with
                | some (.object args) => args
                | _ => []
              gate refusal attached messageId command args
          | _ => .refused messageId ⟨.malformedArgs, "Missing command"⟩
      | _ => .dropped

/-! ## What passes the gate -/

theorem WireCommand.ofName?_eq_some {text : String} {command : WireCommand}
    (found : WireCommand.ofName? text = some command) : command.name = text := by
  simpa using List.find?_some found

theorem accepted_lookupHandler {messageId command answered : String} {args given : Struct}
    {known : WireCommand}
    (passed : lookupHandler messageId command args = .accepted answered known given) :
    known.name = command := by
  unfold lookupHandler at passed
  cases found : WireCommand.ofName? command with
  | none =>
      rw [found] at passed
      cases passed
  | some handler =>
      rw [found] at passed
      obtain ⟨-, rfl, -⟩ := Verdict.accepted.inj passed
      exact WireCommand.ofName?_eq_some found

/-- While the node serves, only `attach` passes the gate on a socket that is not
marked attached; while it refuses, `attach` does not pass at all. -/
theorem accepted_gate {refusal : Option String} {attached : Bool}
    {messageId command answered : String} {args given : Struct} {known : WireCommand}
    (passed : gate refusal attached messageId command args = .accepted answered known given) :
    (refusal = none → known ≠ .attach → attached = true) ∧
      (known = .attach → refusal = none) := by
  unfold gate at passed
  cases refusal with
  | some reason =>
      constructor
      · intro impossible
        cases impossible
      · rintro rfl
        dsimp only at passed
        split at passed
        · rename_i recovers
          rw [← accepted_lookupHandler passed] at recovers
          exact absurd recovers (by decide)
        · cases passed
  | none =>
      refine ⟨fun _ other => ?_, fun _ => rfl⟩
      dsimp only at passed
      split at passed
      · cases passed
      · rename_i open_gate
        have named := accepted_lookupHandler passed
        by_contra unmarked
        apply open_gate
        refine ⟨fun isAttach => other ?_, Bool.eq_false_iff.mpr unmarked⟩
        rw [isAttach] at named
        revert named
        cases known <;> decide

theorem accepted_onMessage {refusal : Option String} {attached : Bool} {frame : Option Json}
    {messageId : String} {known : WireCommand} {args : Struct}
    (passed : onMessage refusal attached frame = .accepted messageId known args) :
    (refusal = none → known ≠ .attach → attached = true) ∧
      (known = .attach → refusal = none) := by
  unfold onMessage at passed
  dsimp only at passed
  split at passed
  · cases passed
  · split at passed
    · split at passed
      · exact accepted_gate passed
      · cases passed
    · cases passed

end IndigoMatter.Bridge
