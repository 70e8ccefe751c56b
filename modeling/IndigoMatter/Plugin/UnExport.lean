import IndigoMatter.Library.Transition

/-!
# Un-exporting everything

The export bridge of the plugin, as far as it keeps the un-export debt: a
preference that says how many accessories an emptied allow-list still owes the
node.  An attach carries `replace_all` when a debt was recorded as it was about
to be sent, and the debt is cleared when such an attach completes.

An attach is followed from the moment its list is built.  The list is built off
the loop, the debt is read after it, and the answer comes later still; edits of
the allow-list run on other threads and can fall anywhere in between.  An
un-export keeps the client object to itself, so at most one client is alive.
-/

namespace IndigoMatter.Plugin

open IndigoMatter.Library

/-- Who sends an attach: the handshake, its retry with the opt-in, the re-attach
after a rebuild of the endpoint map, an un-export, or a migration. -/
inductive Purpose
  | handshake
  | retry
  | rebuild
  | unExport
  | migrate
deriving DecidableEq

/-- An attach that waits for its answer.  `builtAt` is how many un-exports had been
recorded when its list was built; the source does not keep it, and no step reads it. -/
structure Attach where
  purpose : Purpose
  specs : List Int
  builtAt : Nat
  replaceAll : Bool
deriving DecidableEq

/-- How far the handshake of a client has come. -/
inductive Phase
  | disconnected
  | gathered (purpose : Purpose) (specs : List Int) (builtAt : Nat)
  | waiting
  | retrying
  | attached
  | recovery
  | halted
deriving DecidableEq

/-- Whether `_request_frame` finds a usable connection. -/
def Phase.connected : Phase → Bool
  | disconnected | gathered .handshake _ _ | halted => false
  | _ => true

/-- A client object: its handshake and its attaches in flight, in the order sent. -/
structure BridgeClient where
  phase : Phase
  inFlight : List Attach
deriving DecidableEq

/-- How far an un-export has come. -/
inductive UnExportStatus
  | scheduled
  | attaching
  | succeeded
  | failed
deriving DecidableEq

/-- An un-export under way.  `discharged` is whether the debt has been cleared since
it was recorded; the source does not keep it, and no step reads it. -/
structure UnExport where
  removing : Nat
  status : UnExportStatus
  discharged : Bool
deriving DecidableEq

/-- The export bridge and the live set of the node, as the attaches that were served
have made it.  `recordings` counts the un-exports recorded so far; no step reads
it, except to stamp a list. -/
structure ExportBridge where
  store : List Int
  enabled : Bool
  lastExportCount : Nat
  debt : Nat
  client : Option BridgeClient
  unExporting : Option UnExport
  startAfterUnExport : Bool
  agentStarted : Bool
  served : List Int
  recordings : Nat
deriving DecidableEq

/-- The codes of a refused attach that are told apart. -/
inductive Refusal
  | massRemovalRefused
  | versionMismatch
  | endpointMapInvalid
  | other
deriving DecidableEq

/-- What can happen.  `served` says how many of the attaches in flight the node had
served when their connection went away, and `keeps` which devices of the
allow-list can be bridged when a list is built. -/
inductive ExportEvent
  | edit (store : List Int)
  | setEnabled (enabled : Bool)
  | exportsChanged (scheduled : Bool) (served : Nat)
  | start
  | revive
  | gather (keeps : List Int)
  | send
  | migrate (keeps : List Int)
  | upsert (device : Int)
  | remove (device : Int)
  | succeed
  | refuse (refusal : Refusal)
  | drop (served : Nat)
  | unExportStart
  | unExportTimeout (served : Nat)
  | finishUnExport
  | agentStopped
deriving DecidableEq

namespace ExportBridge

/-- A plugin that has just started, with what it and the node have persisted. -/
def fresh (store : List Int) (enabled : Bool) (debt : Nat) (served : List Int) :
    ExportBridge where
  store := store
  enabled := enabled
  lastExportCount := store.length
  debt := debt
  client := none
  unExporting := none
  startAfterUnExport := false
  agentStarted := false
  served := served
  recordings := 0

/-- `self.client`: an un-export takes the client away. -/
def selfClient (bridge : ExportBridge) : Option BridgeClient :=
  match bridge.unExporting with
  | some _ => none
  | none => bridge.client

/-! ## The agent and the client -/

/-- `_stop_agent`: only an agent that this session has started. -/
def stopAgent (bridge : ExportBridge) : ExportBridge := { bridge with agentStarted := false }

/-- `start`: deferred while an un-export is under way. -/
def start (bridge : ExportBridge) : ExportBridge :=
  if bridge.unExporting.isSome then { bridge with startAfterUnExport := true }
  else if bridge.client.isSome then bridge
  else if bridge.enabled then
    { bridge with agentStarted := true, client := some ⟨.disconnected, []⟩ }
  else bridge

/-- The node has served the first attaches in flight. -/
def serveLost (served : Nat) (bridge : ExportBridge) : ExportBridge :=
  match bridge.client with
  | none => bridge
  | some client =>
      { bridge with
        served := ((client.inFlight.take served).getLast?.map Attach.specs).getD bridge.served }

/-- The client is closed and dropped. -/
def closeClient (bridge : ExportBridge) : ExportBridge := { bridge with client := none }

/-! ## The debt -/

/-- `_record_pending_replace_all`: the larger of the old debt and the new one. -/
def recordPendingReplaceAll (removing : Nat) (bridge : ExportBridge) : ExportBridge :=
  { bridge with debt := max bridge.debt removing, recordings := bridge.recordings + 1 }

/-- `_clear_pending_replace_all`. -/
def clearPendingReplaceAll (bridge : ExportBridge) : ExportBridge :=
  { bridge with
    debt := 0
    unExporting := bridge.unExporting.map fun unExport => { unExport with discharged := true } }

/-- `_replace_all`: whether an attach carries the opt-in. -/
def replaceAll (bridge : ExportBridge) (specs : List Int) : Bool :=
  decide (0 < bridge.debt) || (specs.isEmpty && decide (0 < bridge.store.length))

/-- `_on_attached`: an attach that carried the opt-in pays a recorded debt. -/
def onAttached (carriedReplaceAll : Bool) (bridge : ExportBridge) : ExportBridge :=
  if carriedReplaceAll ∧ 0 < bridge.debt then
    let cleared := bridge.clearPendingReplaceAll
    if bridge.store = [] then
      let dropped := if bridge.unExporting.isSome then cleared else cleared.closeClient
      dropped.stopAgent
    else cleared
  else bridge

/-- `_replace_all_then_stop`, up to the scheduling of its coroutine. -/
def replaceAllThenStop (removing : Nat) (scheduled : Bool) (bridge : ExportBridge) :
    ExportBridge :=
  let recorded := bridge.recordPendingReplaceAll removing
  if scheduled then { recorded with unExporting := some ⟨removing, .scheduled, false⟩ }
  else
    -- The loop is gone, and the client with it.
    let abandoned := recorded.closeClient
    if bridge.startAfterUnExport then { abandoned with startAfterUnExport := false }.start
    else abandoned

/-- `exports_changed`. -/
def exportsChanged (scheduled : Bool) (served : Nat) (bridge : ExportBridge) : ExportBridge :=
  let removing := bridge.lastExportCount
  let counted := { bridge with lastExportCount := bridge.store.length }
  if !bridge.enabled then
    if bridge.selfClient.isSome then (counted.serveLost served).closeClient.stopAgent
    else counted.stopAgent
  else if bridge.store ≠ [] then counted.start
  else if bridge.selfClient.isSome then counted.replaceAllThenStop removing scheduled
  else if 0 < bridge.debt then counted.start
  else counted

/-! ## A client's attaches -/

/-- The devices of the allow-list that can be bridged. -/
def endpointSpecs (keeps : List Int) (bridge : ExportBridge) : List Int :=
  bridge.store.filter fun device => decide (device ∈ keeps)

/-- The un-export ends: it failed, and its client is closed. -/
def failUnExport (bridge : ExportBridge) : ExportBridge :=
  { bridge with
    client := none
    unExporting := bridge.unExporting.map fun unExport => { unExport with status := .failed } }

/-- Whether an un-export waits for its attach. -/
def unExportAttaching (bridge : ExportBridge) : Bool :=
  bridge.unExporting.any fun unExport => decide (unExport.status = .attaching)

/-- The connection is gone: everything in flight has failed. -/
def disconnect (phase : Phase) (bridge : ExportBridge) : ExportBridge :=
  if bridge.unExportAttaching then bridge.failUnExport
  else { bridge with client := some ⟨phase, []⟩ }

/-- The answer to the first attach in flight is a success. -/
def succeed (client : BridgeClient) (attach : Attach) (rest : List Attach)
    (bridge : ExportBridge) : ExportBridge :=
  let answered :=
    { bridge with served := attach.specs, client := some { client with inFlight := rest } }
  let attached := { answered with client := some ⟨.attached, rest⟩ }
  match attach.purpose with
  | .handshake | .retry | .rebuild => attached.onAttached attach.replaceAll
  | .migrate => attached.onAttached false
  | .unExport =>
      let cleared := answered.clearPendingReplaceAll
      { cleared with
        client := none
        unExporting := cleared.unExporting.map fun unExport =>
          { unExport with status := .succeeded } }

/-- `_handle_attach_refused`. -/
def handleAttachRefused (rest : List Attach) (refusal : Refusal) (bridge : ExportBridge) :
    ExportBridge :=
  match refusal with
  | .massRemovalRefused | .versionMismatch => bridge.disconnect .halted
  | .endpointMapInvalid => { bridge with client := some ⟨.recovery, rest⟩ }
  | .other => bridge.disconnect .disconnected

/-- The answer to the first attach in flight is a refusal; the handshake retries
once with the opt-in when a debt is recorded. -/
def refuse (client : BridgeClient) (attach : Attach) (rest : List Attach) (refusal : Refusal)
    (bridge : ExportBridge) : ExportBridge :=
  match attach.purpose with
  | .handshake =>
      if refusal = .massRemovalRefused ∧ attach.replaceAll = false ∧ 0 < bridge.debt then
        { bridge with client := some ⟨.retrying, rest⟩ }
      else bridge.handleAttachRefused rest refusal
  | .retry | .rebuild => bridge.handleAttachRefused rest refusal
  | .migrate => { bridge with client := some { client with inFlight := rest } }
  | .unExport => bridge.failUnExport

/-- A list is built for the handshake, for its retry, or after a rebuild. -/
def gather (keeps : List Int) (client : BridgeClient) (bridge : ExportBridge) :
    Option ExportBridge :=
  let gathered (purpose : Purpose) : ExportBridge :=
    { bridge with
      client := some { client with
        phase := .gathered purpose (bridge.endpointSpecs keeps) bridge.recordings } }
  match client.phase with
  | .disconnected => some (gathered .handshake)
  | .retrying => some (gathered .retry)
  | .recovery => some (gathered .rebuild)
  | _ => none

/-- The debt is read, and the attach with the list goes out. -/
def send (client : BridgeClient) (bridge : ExportBridge) : Option ExportBridge :=
  match client.phase with
  | .gathered purpose specs builtAt =>
      let carries := purpose = .retry || bridge.replaceAll specs
      some { bridge with
        client := some ⟨.waiting, client.inFlight ++ [⟨purpose, specs, builtAt, carries⟩]⟩ }
  | _ => none

/-- The un-export coroutine begins; with no connection its attach fails at once. -/
def unExportStart (bridge : ExportBridge) : Option ExportBridge :=
  match bridge.unExporting with
  | some unExport =>
      if unExport.status = .scheduled then
        match bridge.client with
        | some client =>
            if client.phase.connected then
              let attach : Attach := ⟨.unExport, [], bridge.recordings, true⟩
              some { bridge with
                client := some { client with inFlight := client.inFlight ++ [attach] }
                unExporting := some { unExport with status := .attaching } }
            else some bridge.failUnExport
        | none => some bridge.failUnExport
      else none
  | none => none

/-- The end of the un-export coroutine: a start that was deferred, or no agent. -/
def finishUnExport (bridge : ExportBridge) : Option ExportBridge :=
  match bridge.unExporting with
  | some unExport =>
      if unExport.status = .succeeded ∨ unExport.status = .failed then
        let ended := { bridge with unExporting := none, client := none }
        some (if bridge.startAfterUnExport then { ended with startAfterUnExport := false }.start
          else ended.stopAgent)
      else none
  | none => none

/-- One event. -/
def step : LabelledStep ExportBridge ExportEvent
  | bridge, .edit store => some { bridge with store := store }
  | bridge, .setEnabled enabled => some { bridge with enabled := enabled }
  | bridge, .exportsChanged scheduled served => some (bridge.exportsChanged scheduled served)
  | bridge, .start => some bridge.start
  | bridge, .revive =>
      if bridge.selfClient.map BridgeClient.phase = some .halted then
        some bridge.closeClient.start
      else none
  | bridge, .gather keeps => bridge.client.bind fun client => bridge.gather keeps client
  | bridge, .send => bridge.client.bind fun client => bridge.send client
  | bridge, .migrate keeps =>
      match bridge.selfClient with
      | some client =>
          if client.phase = .attached then
            let attach : Attach :=
              ⟨.migrate, bridge.endpointSpecs keeps, bridge.recordings, false⟩
            some { bridge with
              client := some { client with inFlight := client.inFlight ++ [attach] } }
          else none
      | none => none
  | bridge, .upsert device =>
      if bridge.selfClient.map BridgeClient.phase = some .attached ∧ device ∈ bridge.store then
        some { bridge with served := bridge.served.insert device }
      else none
  | bridge, .remove device =>
      if bridge.selfClient.map BridgeClient.phase = some .attached then
        some { bridge with served := bridge.served.filter (· ≠ device) }
      else none
  | bridge, .succeed =>
      bridge.client.bind fun client =>
        match client.inFlight with
        | [] => none
        | attach :: rest => some (bridge.succeed client attach rest)
  | bridge, .refuse refusal =>
      bridge.client.bind fun client =>
        match client.inFlight with
        | [] => none
        | attach :: rest => some (bridge.refuse client attach rest refusal)
  | bridge, .drop served =>
      if bridge.client.isSome then some ((bridge.serveLost served).disconnect .disconnected)
      else none
  | bridge, .unExportStart => bridge.unExportStart
  | bridge, .unExportTimeout served =>
      if bridge.unExportAttaching then some (bridge.serveLost served).failUnExport else none
  | bridge, .finishUnExport => bridge.finishUnExport
  | bridge, .agentStopped => some bridge.stopAgent

end ExportBridge

end IndigoMatter.Plugin
