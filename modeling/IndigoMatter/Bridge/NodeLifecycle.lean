import IndigoMatter.Bridge.Commands
import IndigoMatter.Bridge.NodeInterleaving

/-!
# The node across starts, pairings and resets

Three things outlive the process of a node: the endpoint map, the fabrics that
matter.js stores, and `identity.json`, which carries the witness that the bridge
has ever been paired.  Every start reads them again and may refuse to serve.
While the node runs it follows the fabric set, and matter.js erases itself when
the last fabric leaves.

A start is one step.  What other work can come between is a separate event: the
commands of `Concurrent`, the observations of matter.js, and of `remove_fabric`
and `factory_reset` what follows once matter.js has done its part.  An event
carries what the outside answers.  The log, the warnings, the listeners and the
commissioning window are left out.
-/

namespace IndigoMatter.Bridge

open IndigoMatter.Library

/-! ## The identity -/

/-- The persisted identity; `commissionedAt` is the commissioning witness. -/
structure BridgeIdentity where
  installId : String
  passcode : Nat
  discriminator : Nat
  commissionedAt : Option String
deriving DecidableEq

/-- What there is at `identity.json`. -/
inductive IdentityFile
  | absent
  | usable (identity : BridgeIdentity)
  | unusable
deriving DecidableEq

namespace IdentityFile

/-- Write an identity; a write that fails leaves the file alone. -/
def write (lands : Bool) (identity : BridgeIdentity) (file : IdentityFile) : IdentityFile :=
  if lands then .usable identity else file

/-- The commissioning witness that the next start reads, if it can read the file. -/
def witness : IdentityFile → Option String
  | .usable identity => identity.commissionedAt
  | _ => none

end IdentityFile

/-- Record that the bridge has been commissioned, in memory and, if the write
lands, on disk. -/
def markCommissioned (lands : Bool) (now : String) (identity : BridgeIdentity)
    (file : IdentityFile) : BridgeIdentity × IdentityFile :=
  if identity.commissionedAt.isSome then (identity, file)
  else
    let updated := { identity with commissionedAt := some now }
    (updated, file.write lands updated)

/-- Drop the commissioning witness, in memory and, if the write lands, on disk. -/
def clearCommissioned (lands : Bool) (identity : BridgeIdentity) (file : IdentityFile) :
    BridgeIdentity × IdentityFile :=
  if identity.commissionedAt.isNone then (identity, file)
  else
    let rest := { identity with commissionedAt := none }
    (rest, file.write lands rest)

/-! ## Refusing -/

/-- Why a node refuses to serve. -/
inductive RefuseReason
  | mapUnreadable
  | fabricStorageLost
  | identityUnreadable
deriving DecidableEq

/-- The text of a refusal. -/
def RefuseReason.text : RefuseReason → String
  | .mapUnreadable => "endpoint map is unreadable"
  | .fabricStorageLost =>
      "this bridge was commissioned but its Matter fabric storage is gone, so every endpoint " ++
        "number would be reallocated"
  | .identityUnreadable => "the bridge identity file is present but unreadable"

/-- What the decision to refuse depends on. -/
structure EndpointIdentityState where
  commissioned : Bool
  mapProblem : Option String
  commissionedAt : Option String

/-- The decision to refuse. -/
def refuseReasonFor (state : EndpointIdentityState) : Option RefuseReason :=
  if state.commissioned then
    if state.mapProblem.isNone then none else some .mapUnreadable
  else if state.commissionedAt.isNone then none
  else some .fabricStorageLost

/-! ## The node -/

/-- Mark every recorded number as void, if there are any. -/
def Node.voidNumbers (disk : Disk) (node : Node) : Node :=
  if 0 < node.endpointMap.size then
    { node with
      endpointMap := (node.endpointMap.voidNumbers (disk.next node.endpointMap)).2 }
  else node

/-- The registry after matter.js has erased itself and allocated its numbers
anew. -/
def Registry.renumbered (numbers : Nat → Nat) (registry : Registry) : Registry :=
  { registry with
    children := registry.children.mapValues fun _ endpoint =>
      { endpoint with number := numbers endpoint.number } }

/-- A node with its storage.  `fabrics` are the indices in the fabric table of
matter.js and `fabricCount` is how many the node last saw; `quarantined` says
that an unusable identity lies beside `identity.json`. -/
structure BridgeNode where
  storagePath : String
  running : Bool
  calls : Concurrent
  fabrics : List Nat
  fabricCount : Nat
  identity : BridgeIdentity
  identityFile : IdentityFile
  quarantined : Bool
  refusal : Option RefuseReason

/-- What the outside answers while the node follows a change: whether the
fabrics can be read, whether a write of `identity.json` lands, and the time. -/
structure Answers where
  readable : Bool
  lands : Bool
  now : String

namespace BridgeNode

/-- A node that has not been started, over what is in its storage. -/
def installed (storagePath : String) (file : MapFile) (fabrics : List Nat)
    (identityFile : IdentityFile) (quarantined : Bool) : BridgeNode where
  storagePath := storagePath
  running := false
  calls := ⟨Node.fresh (.unread (storagePath ++ "/" ++ ENDPOINT_MAP_FILE) file), [], []⟩
  fabrics := fabrics
  fabricCount := 0
  identity := ⟨"", 0, 0, none⟩
  identityFile := identityFile
  quarantined := quarantined
  refusal := none

/-- The endpoint map of the node. -/
def endpointMap (bridge : BridgeNode) : EndpointMapStore := bridge.calls.node.endpointMap

/-- Change what the endpoint map depends on. -/
def modifyNode (change : Node → Node) (bridge : BridgeNode) : BridgeNode :=
  { bridge with calls := { bridge.calls with node := change bridge.calls.node } }

/-- Adopt the outcome of moving the witness. -/
def applyWitness (write : BridgeIdentity × IdentityFile) (bridge : BridgeNode) : BridgeNode :=
  { bridge with identity := write.1, identityFile := write.2 }

/-- Drop the witness. -/
def clearWitness (answers : Answers) (bridge : BridgeNode) : BridgeNode :=
  bridge.applyWitness (clearCommissioned answers.lands bridge.identity bridge.identityFile)

/-- Stamp the witness the first time a fabric is seen. -/
def noteCommissioningWitness (answers : Answers) (bridge : BridgeNode) : BridgeNode :=
  if bridge.identity.commissionedAt.isSome ∨ bridge.fabrics.length = 0 then bridge
  else
    bridge.applyWitness
      (markCommissioned answers.lands answers.now bridge.identity bridge.identityFile)

@[simp]
theorem noteCommissioningWitness_endpointMap (answers : Answers) (bridge : BridgeNode) :
    (bridge.noteCommissioningWitness answers).endpointMap = bridge.endpointMap := by
  unfold noteCommissioningWitness
  split <;> rfl

@[simp]
theorem noteCommissioningWitness_fabrics (answers : Answers) (bridge : BridgeNode) :
    (bridge.noteCommissioningWitness answers).fabrics = bridge.fabrics := by
  unfold noteCommissioningWitness
  split <;> rfl

@[simp]
theorem noteCommissioningWitness_refusal (answers : Answers) (bridge : BridgeNode) :
    (bridge.noteCommissioningWitness answers).refusal = bridge.refusal := by
  unfold noteCommissioningWitness
  split <;> rfl

@[simp]
theorem noteCommissioningWitness_fabricCount (answers : Answers) (bridge : BridgeNode) :
    (bridge.noteCommissioningWitness answers).fabricCount = bridge.fabricCount := by
  unfold noteCommissioningWitness
  split <;> rfl

/-- The fabric set has just emptied. -/
def noteLastFabricGone (disk : Disk) (answers : Answers) (bridge : BridgeNode) : BridgeNode :=
  if bridge.identity.commissionedAt.isNone then bridge
  else
    (bridge.clearWitness answers).modifyNode fun node =>
      { node.voidNumbers disk with drift := [] }

/-- Count the fabrics again; a list that cannot be read changes nothing. -/
def noteFabrics (disk : Disk) (answers : Answers) (bridge : BridgeNode) : BridgeNode :=
  if answers.readable then
    let counted := { bridge with fabricCount := bridge.fabrics.length }
    if 0 < bridge.fabricCount ∧ bridge.fabrics.length = 0 then
      counted.noteLastFabricGone disk answers
    else counted
  else bridge

/-- What matter.js's fabric table is now; matter.js erases itself when the last
fabric has left. -/
def withFabrics (fabrics : List Nat) (numbers : Nat → Nat) (bridge : BridgeNode) : BridgeNode :=
  let changed := { bridge with fabrics := fabrics }
  if fabrics = [] then
    changed.modifyNode fun node => { node with registry := node.registry.renumbered numbers }
  else changed

section WithFabrics

variable (fabrics : List Nat) (numbers : Nat → Nat) (bridge : BridgeNode)

/-- A change of the fabric table leaves what the node itself keeps alone. -/
theorem withFabrics_eq : ∃ registry, bridge.withFabrics fabrics numbers =
    { bridge.modifyNode fun node => { node with registry := registry } with fabrics := fabrics } := by
  unfold withFabrics
  dsimp only
  split
  · exact ⟨_, rfl⟩
  · exact ⟨bridge.calls.node.registry, rfl⟩

@[simp]
theorem withFabrics_endpointMap :
    (bridge.withFabrics fabrics numbers).endpointMap = bridge.endpointMap := by
  rcases withFabrics_eq fabrics numbers bridge with ⟨registry, same⟩
  rw [same]
  rfl

@[simp]
theorem withFabrics_fabrics : (bridge.withFabrics fabrics numbers).fabrics = fabrics := by
  rcases withFabrics_eq fabrics numbers bridge with ⟨registry, same⟩
  rw [same]

@[simp]
theorem withFabrics_fabricCount :
    (bridge.withFabrics fabrics numbers).fabricCount = bridge.fabricCount := by
  rcases withFabrics_eq fabrics numbers bridge with ⟨registry, same⟩
  rw [same]
  rfl

@[simp]
theorem withFabrics_identity :
    (bridge.withFabrics fabrics numbers).identity = bridge.identity := by
  rcases withFabrics_eq fabrics numbers bridge with ⟨registry, same⟩
  rw [same]
  rfl

@[simp]
theorem withFabrics_identityFile :
    (bridge.withFabrics fabrics numbers).identityFile = bridge.identityFile := by
  rcases withFabrics_eq fabrics numbers bridge with ⟨registry, same⟩
  rw [same]
  rfl

end WithFabrics

/-! ### Starting -/

/-- What a start draws and is answered: the values of a new identity, whether
`identity.json` can be written or moved aside, and the time. -/
structure Boot where
  installId : String
  passcode : Nat
  discriminator : Nat
  lands : Bool
  now : String

/-- A fresh identity. -/
def mintIdentity (boot : Boot) : BridgeIdentity :=
  ⟨boot.installId, boot.passcode, boot.discriminator, none⟩

/-- Whether the storage cannot hand back a usable identity, a first run apart. -/
def identityProblem (bridge : BridgeNode) : Bool :=
  match bridge.identityFile with
  | .usable _ => false
  | .unusable => true
  | .absent => bridge.quarantined

/-- Move an unusable identity aside. -/
def quarantineIdentity (boot : Boot) (bridge : BridgeNode) : BridgeNode :=
  if bridge.identityFile = .unusable ∧ boot.lands then
    { bridge with identityFile := .absent, quarantined := true }
  else bridge

/-- Read the identity, or mint and write one; a write that fails ends the start. -/
def loadOrCreateIdentity (boot : Boot) (bridge : BridgeNode) : Option BridgeNode :=
  match bridge.identityFile with
  | .usable identity => some { bridge with identity := identity }
  | _ =>
      if boot.lands then
        some (bridge.applyWitness (mintIdentity boot, .usable (mintIdentity boot)))
      else none

/-- What `main.ts` settles before it builds the node. -/
def identify (boot : Boot) (bridge : BridgeNode) : Option BridgeNode :=
  if bridge.identityProblem then
    some { bridge.quarantineIdentity boot with
      identity := mintIdentity boot
      refusal := some .identityUnreadable }
  else { bridge with refusal := none }.loadOrCreateIdentity boot

theorem identify_endpointMap {boot : Boot} {bridge identified : BridgeNode}
    (found : bridge.identify boot = some identified) :
    identified.endpointMap = bridge.endpointMap := by
  unfold identify at found
  split at found
  · cases found
    unfold quarantineIdentity
    split <;> rfl
  · unfold loadOrCreateIdentity at found
    split at found
    · cases found
      rfl
    · split at found
      · cases found
        rfl
      · cases found

/-- Load the map and rebuild its endpoints, unless the node refuses already. -/
def restoreEndpoints (matter : Matter) (bridge : BridgeNode) : BridgeNode :=
  let store := bridge.endpointMap.load
  let specs := if bridge.refusal.isSome then [] else store.restoreSpecs
  let node :=
    { Node.fresh store with registry := finalState (restore matter specs Registry.fresh) }
  { bridge with calls := ⟨node, [], []⟩ }

/-- Adopt the numbers matter.js has been persisting, on a commissioned bridge
with no map. -/
def bootstrapEndpointMap (disk : Disk) (bridge : BridgeNode) : BridgeNode :=
  bridge.modifyNode fun node =>
    { node with
      endpointMap :=
        ((node.endpointMap.seed [] (disk.next node.endpointMap)).map Prod.snd).getD
          node.endpointMap }

/-- The decision to refuse, once the fabric table is readable.  A node that
serves stamps the witness; one that refuses does not. -/
def assertEndpointIdentity (disk : Disk) (answers : Answers) (bridge : BridgeNode) : BridgeNode :=
  if bridge.refusal.isSome then bridge
  else
    let commissioned := decide (bridge.fabrics ≠ [])
    match refuseReasonFor
        ⟨commissioned, bridge.endpointMap.problem, bridge.identity.commissionedAt⟩ with
    | none =>
        let based :=
          if commissioned && !bridge.endpointMap.present then bridge.bootstrapEndpointMap disk
          else bridge
        based.noteCommissioningWitness answers
    | some reason => { bridge with refusal := some reason }

/-- Take the restored endpoints out again when the node refuses after all. -/
def withdrawRestoredIfRefusing (matter : Matter) (bridge : BridgeNode) : BridgeNode :=
  if bridge.refusal.isNone ∨ bridge.calls.node.registry.live.size = 0 then bridge
  else
    bridge.modifyNode fun node =>
      { node with registry := finalState (reconcileNow matter [] true node.registry) }

/-- Start the process. -/
def start (disk : Disk) (matter : Matter) (boot : Boot) (bridge : BridgeNode) :
    Option BridgeNode :=
  (bridge.identify boot).map fun identified =>
    let online :=
      { identified.restoreEndpoints matter with
        running := true
        fabricCount := identified.fabrics.length }
    (online.assertEndpointIdentity disk ⟨true, boot.lands, boot.now⟩).withdrawRestoredIfRefusing
      matter

/-! ### Commands -/

/-- matter.js has observed a change of its fabric table. -/
def fabricsChanged (disk : Disk) (answers : Answers) (bridge : BridgeNode) : BridgeNode :=
  if answers.readable then (bridge.noteCommissioningWitness answers).noteFabrics disk answers
  else bridge

/-- Drop the fabric of one ecosystem; an index with no fabric behind it only has
the fabrics counted again. -/
def removeFabric (disk : Disk) (fabricIndex : Nat) (numbers : Nat → Nat) (answers : Answers)
    (bridge : BridgeNode) : BridgeNode :=
  if fabricIndex ∈ bridge.fabrics then
    (bridge.withFabrics (bridge.fabrics.erase fabricIndex) numbers).noteFabrics disk answers
  else bridge.noteFabrics disk answers

/-- A node that matter.js has erased, without the witness and without a refusal;
`deletes` says whether the map can be deleted. -/
def wiped (preserveEndpointNumbers deletes : Bool) (numbers : Nat → Nat) (answers : Answers)
    (bridge : BridgeNode) : BridgeNode :=
  let cleared := (bridge.withFabrics [] numbers).clearWitness answers
  { cleared.modifyNode fun node =>
      { node with
        endpointMap :=
          if preserveEndpointNumbers then node.endpointMap
          else (node.endpointMap.discard deletes).2
        drift := [] } with
    refusal := none }

/-- A factory reset, once matter.js has erased itself.  A map that is preserved
keeps its records, with void numbers. -/
def factoryReset (disk : Disk) (preserveEndpointNumbers deletes : Bool) (numbers : Nat → Nat)
    (answers : Answers) (bridge : BridgeNode) : BridgeNode :=
  let noted := (bridge.wiped preserveEndpointNumbers deletes numbers answers).noteFabrics disk
    answers
  if preserveEndpointNumbers then noted.modifyNode (Node.voidNumbers disk) else noted

/-- Adopt the live endpoint numbers as the new map, and stop refusing.  A node
with an unreadable identity cannot be helped this way, and neither can one whose
map cannot be written. -/
def rebuildEndpointMap (disk : Disk) (answers : Answers) (bridge : BridgeNode) :
    Option ProtocolError × BridgeNode :=
  if bridge.refusal = some .identityUnreadable then
    (some ⟨.endpointMapInvalid, endpointMapInvalidDetails
      (RefuseReason.identityUnreadable.text ++ ", and rebuilding the endpoint map cannot fix " ++
        "that — the unusable file was moved aside as identity.json.unreadable-<stamp>; " ++
        "restore or repair it and restart the bridge")⟩, bridge)
  else
    let node := bridge.calls.node
    let rebuilt := node.endpointMap.rebuild node.registry.liveIdentities
      (disk.next node.endpointMap)
    let written := bridge.modifyNode fun node => { node with endpointMap := rebuilt.2 }
    if rebuilt.1 then
      let served :=
        { written.modifyNode fun node => { node with drift := [] } with refusal := none }
      (none, if bridge.fabrics = [] then served.clearWitness answers else served)
    else
      (some ⟨.internal, "the rebuilt endpoint map could not be written, so nothing has changed " ++
        "— free some space in " ++ bridge.storagePath ++ " and try again"⟩, written)

/-! ### Steps -/

/-- What can happen to the storage while no process runs. -/
inductive StorageChange
  | fabrics (found : List Nat)
  | identityFile (file : IdentityFile) (quarantined : Bool)
  | endpointMap (file : MapFile)

/-- The storage after such a change. -/
def afterChange (bridge : BridgeNode) : StorageChange → BridgeNode
  | .fabrics found => { bridge with fabrics := found }
  | .identityFile file quarantined =>
      { bridge with identityFile := file, quarantined := quarantined }
  | .endpointMap file =>
      bridge.modifyNode fun node =>
        { node with endpointMap := { node.endpointMap with file := file } }

/-- What can happen to a node and its storage. -/
inductive BridgeEvent
  | start (matter : Matter) (boot : Boot)
  | stop
  | call (event : CallEvent)
  | fabricsChanged (fabrics : List Nat) (numbers : Nat → Nat) (answers : Answers)
  | removeFabric (fabricIndex : Nat) (numbers : Nat → Nat) (answers : Answers)
  | factoryReset (preserveEndpointNumbers deletes : Bool) (numbers : Nat → Nat)
      (answers : Answers)
  | rebuildEndpointMap (answers : Answers)
  | outside (change : StorageChange)

/-- Whether the gate of a refusing node lets an event through. -/
def admits (bridge : BridgeNode) : BridgeEvent → Bool
  | .call (.call _) | .removeFabric _ _ _ | .factoryReset _ _ _ _ => bridge.refusal.isNone
  | _ => true

/-- One event of a node that runs. -/
def serve (disk : Disk) (bridge : BridgeNode) : BridgeEvent → Option BridgeNode
  | .stop => some { bridge with running := false }
  | .call event => (bridge.calls.step disk event).map fun calls => { bridge with calls := calls }
  | .fabricsChanged fabrics numbers answers =>
      some ((bridge.withFabrics fabrics numbers).fabricsChanged disk answers)
  | .removeFabric fabricIndex numbers answers =>
      some (bridge.removeFabric disk fabricIndex numbers answers)
  | .factoryReset preserveEndpointNumbers deletes numbers answers =>
      some (bridge.factoryReset disk preserveEndpointNumbers deletes numbers answers)
  | .rebuildEndpointMap answers => some (bridge.rebuildEndpointMap disk answers).2
  | .start _ _ | .outside _ => none

/-- One event; a start and a change from outside need a node that is stopped,
everything else one that runs and does not refuse it. -/
def step (disk : Disk) : LabelledStep BridgeNode BridgeEvent := fun bridge event =>
  if bridge.running then if bridge.admits event then bridge.serve disk event else none
  else
    match event with
    | .start matter boot => bridge.start disk matter boot
    | .outside change => some (bridge.afterChange change)
    | _ => none

/-- What one event does: a running node serves it, a stopped one is started or has
its storage changed. -/
theorem step_cases {disk : Disk} {bridge next : BridgeNode} {event : BridgeEvent}
    (taken : step disk bridge event = some next) :
    (bridge.running = true ∧ bridge.serve disk event = some next) ∨
      (bridge.running = false ∧
        ((∃ matter boot, event = .start matter boot ∧
            bridge.start disk matter boot = some next) ∨
          ∃ change, event = .outside change ∧ bridge.afterChange change = next)) := by
  unfold step at taken
  split at taken
  · rename_i running
    split at taken
    · exact .inl ⟨running, taken⟩
    · cases taken
  · rename_i stopped
    rw [Bool.not_eq_true] at stopped
    cases event with
    | start matter boot => exact .inr ⟨stopped, .inl ⟨matter, boot, rfl, taken⟩⟩
    | outside change => exact .inr ⟨stopped, .inr ⟨change, rfl, Option.some.inj taken⟩⟩
    | _ => cases taken

/-- What a first start draws. -/
def firstBoot : Boot := ⟨"7c9e", 20202021, 3840, true, "2026-01-01T00:00:00.000Z"⟩

/-- A command with nothing else in flight, on a matter.js that works. -/
def commandEvents (command : NodeCommand) : List BridgeEvent :=
  [.call (.call command), .call (.run .sound), .call (.finish 0)]

end BridgeNode

end IndigoMatter.Bridge
