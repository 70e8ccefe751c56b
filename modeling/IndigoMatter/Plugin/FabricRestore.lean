import IndigoMatter.Plugin.FabricArchive

/-!
# Restoring a fabric

A restore stops both daemons, moves the storage directories aside, extracts the archive into
fresh ones and starts the daemons again.  It never deletes anything: when a step fails, what
has been extracted is moved out of the way and the original moved back, the bridge first.

The original trees are followed through every script of refusals.  Wherever a restore ends,
each of them is complete at its own path or at the one it was moved aside to.
-/

namespace IndigoMatter.Plugin.Fabric

open IndigoMatter.Library

/-! ## The restore -/

/-- What `_load_and_validate_archive` finds. -/
inductive ArchiveFile
  | missing
  | notAnArchive
  | corrupt
  | zip (archive : Archive)

/-- What `restore_backup` is called with; `probes` says whether the control of the bridge
can be asked if it is alive. -/
structure RestoreJob where
  archive : ArchiveFile
  storage : StorageDir
  bridgeStorage : Option StorageDir
  bridgeControl : Bool
  probes : Bool
  stamp : Stamp

/-- `_BridgePlan`. -/
structure BridgePlan where
  dest : StorageDir
  members : Nat
  wasAlive : Bool
  movedAsideTo : Option Path
  started : Option Bool

/-- What a restore returns. -/
structure RestoreReport where
  movedAsideTo : Option Path
  bridgeRestored : Bool
  bridgeMembers : Nat
  bridgeMovedAsideTo : Option Path
  bridgeStarted : Option Bool

/-- `_load_and_validate_archive`. -/
def loadAndValidateArchive : ArchiveFile → Restoring Archive
  | .missing => throw .archiveMissing
  | .notAnArchive => throw .notAnArchive
  | .corrupt => throw .corruptMember
  | .zip archive => if archive.isEmpty then throw .noMembers else return archive

/-- `bridge_members_in`. -/
def bridgeMembersIn (archive : Archive) : List (List Char) :=
  archive.namelist.filter fun name => BRIDGE_MEMBER_PREFIX.isPrefixOf name

def StorageDir.overlaps (storage other : StorageDir) : Bool :=
  storage.path.isPrefixOf other.path || other.path.isPrefixOf storage.path

/-- `_plan_bridge_restore`. -/
def planBridgeRestore (job : RestoreJob) (archive : Archive) : Option BridgePlan :=
  if (bridgeMembersIn archive).isEmpty then none
  else
    match job.bridgeStorage with
    | none => none
    | some dest =>
        if !job.bridgeControl || dest.overlaps job.storage then none
        else
          some {
            dest
            members := (bridgeMembersIn archive).length
            wasAlive := false
            movedAsideTo := none
            started := none
          }

def logError (line : ErrorLine) : Restoring Unit :=
  modify fun station => { station with errors := station.errors ++ [line] }

/-- Record what is asked of a daemon. -/
def note (deed : Deed) : Restoring Unit :=
  modify fun station => { station with deeds := station.deeds ++ [(deed, station.disk)] }

section Restore

variable (answers : Nat → Answer)

def askControl : Restoring CallAnswer := do
  let answer ← nextAnswer answers
  return answer.control

/-- `_control_is_alive`: alive when unsure. -/
def controlIsAlive (probes : Bool) : Restoring Bool := do
  if !probes then return true
  let answer ← askControl answers
  return answer ≠ .no

/-- `_restart_bridge`. -/
def restartBridge : Restoring Bool := do
  note .bridgeStarted
  let answer ← askControl answers
  return answer = .yes

/-- Start a bridge that the restore has stopped, and log where that fails. -/
def restartIfStopped (plan : Option BridgePlan) (line : ErrorLine) : Restoring Unit := do
  if plan.any BridgePlan.wasAlive then
    let started ← restartBridge answers
    if !started then logError line

/-- `server_control.start()`. -/
def startController : Restoring Bool := do
  note .controllerStarted
  let answer ← askControl answers
  match answer with
  | .yes => return true
  | .no => return false
  | .raises => throw .controlRaised

/-- `server_control.start()` under a guard, with its error lines. -/
def restartController (home : Path) : Restoring Unit := do
  let started ← tryCatch (startController answers) fun _ => do
    logError .controllerRestartRaised
    return false
  if !started then logError (.controllerDown home)

/-- Stop the bridge if it is alive. -/
def stopBridge (job : RestoreJob) (plan : BridgePlan) : Restoring BridgePlan := do
  let wasAlive ← controlIsAlive answers job.probes
  if wasAlive then
    note .bridgeStopped
    let answer ← askControl answers
    match answer with
    | .yes => return { plan with wasAlive }
    | .no => throw .bridgeNotStopped
    | .raises => throw .controlRaised
  else return { plan with wasAlive }

/-- `_stop_for_restore`. -/
def stopForRestore (job : RestoreJob) (plan : Option BridgePlan) :
    Restoring (Option BridgePlan) := do
  let plan ← match plan with
    | none => pure none
    | some plan => some <$> stopBridge answers job plan
  note .controllerStopped
  let answer ← askControl answers
  if answer = .yes then return plan
  else
    restartIfStopped answers plan .bridgeNotRestarted
    throw .controllerNotStopped

/-- Move a storage directory aside, if there is one. -/
def moveAside (storage : StorageDir) (stamp : Stamp) : Restoring (Option Path) := do
  let station ← get
  if station.disk.isDir storage.path then
    osRename answers storage.path (storage.preRestore stamp)
    return some (storage.preRestore stamp)
  else return none

/-- `_move_aside_for_restore`. -/
def moveAsideForRestore (job : RestoreJob) (plan : Option BridgePlan) :
    Restoring (Option Path × Option BridgePlan) := do
  let movedAsideTo ← moveAside answers job.storage job.stamp
  match plan with
  | none => return (movedAsideTo, none)
  | some plan =>
      let bridgeMovedAsideTo ← tryCatch (moveAside answers plan.dest job.stamp) fun error => do
        match movedAsideTo with
        | none => throw error
        | some aside =>
            tryCatch (osRename answers aside job.storage.path) fun _ => do
              logError (.undoFailed aside job.storage.path)
              throw (.doubleFault aside job.storage.path)
            throw error
      return (movedAsideTo, some { plan with movedAsideTo := bridgeMovedAsideTo })

/-- Make a directory, extract one side into it, and refuse an empty result. -/
def extractSide (archive : Archive) (storage : StorageDir) (side : ArchiveSide) :
    Restoring Unit := do
  makeDirs answers [] (storage.path.map FileName.text)
  safeExtract answers archive storage.path side
  let station ← get
  if !(station.disk.isDir storage.path && station.disk.hasEntries storage.path) then
    throw (.emptyStorage storage.path)

/-- `_extract_for_restore`. -/
def extractForRestore (archive : Archive) (job : RestoreJob) (plan : Option BridgePlan) :
    Restoring Unit := do
  extractSide answers archive job.storage .controller
  match plan with
  | none => return
  | some plan => extractSide answers archive plan.dest .bridge

/-- One side of a rollback: what has been extracted is moved out of the way, and the original
moved back. -/
def putBack (storage : StorageDir) (stamp : Stamp) (movedAsideTo : Option Path) :
    Restoring Unit := do
  let station ← get
  if station.disk.pathExists storage.path then
    osRename answers storage.path (storage.failedAside stamp)
  match movedAsideTo with
  | none => return
  | some aside =>
      let station ← get
      if station.disk.isDir aside then osRename answers aside storage.path

/-- `_rollback`. -/
def rollback (job : RestoreJob) (movedAsideTo : Option Path) (plan : Option BridgePlan) :
    Restoring Unit := do
  match plan with
  | none => pure ()
  | some plan =>
      tryCatch (putBack answers plan.dest job.stamp plan.movedAsideTo) fun _ =>
        logError (.bridgeRollbackFailed plan.movedAsideTo plan.dest.path)
  tryCatch (putBack answers job.storage job.stamp movedAsideTo) fun error => do
    logError (.rollbackFailed movedAsideTo job.storage.path (plan.any BridgePlan.wasAlive))
    throw error
  restartController answers job.storage.path
  restartIfStopped answers plan .bridgeNotRestarted

/-- `_finish_bridge_restore`. -/
def finishBridgeRestore : Option BridgePlan → Restoring (Option BridgePlan)
  | none => return none
  | some plan => do
      if plan.wasAlive then
        let started ← restartBridge answers
        if !started then logError (.bridgeNotStarted plan.dest.path)
        return some { plan with started := some started }
      else return some plan

/-- The handler of a move aside that failed. -/
def afterMoveAsideFailed (job : RestoreJob) (plan : Option BridgePlan) (error : Failure) :
    Restoring (Option Path × Option BridgePlan) := do
  match error with
  | .doubleFault aside home =>
      restartIfStopped answers plan .bridgeNotRestarted
      throw (.strandedAside aside home)
  | _ =>
      restartController answers job.storage.path
      restartIfStopped answers plan .bridgeNotRestarted
      throw .movingAsideFailed

/-- The part of a restore that is rolled back when it fails. -/
def extractAndStart (archive : Archive) (job : RestoreJob) (plan : Option BridgePlan) :
    Restoring Unit := do
  extractForRestore answers archive job plan
  let started ← startController answers
  if !started then throw .controllerNotStarted

/-- `restore_backup`. -/
def restoreBackup (job : RestoreJob) : Restoring RestoreReport := do
  let archive ← loadAndValidateArchive job.archive
  let plan := planBridgeRestore job archive
  if !noZipSlip archive.namelist job.storage.path .controller then throw .zipSlip
  if plan.any fun plan => !noZipSlip archive.namelist plan.dest.path .bridge then throw .zipSlip
  let plan ← stopForRestore answers job plan
  let (movedAsideTo, plan) ← tryCatch (moveAsideForRestore answers job plan)
    (afterMoveAsideFailed answers job plan)
  tryCatch (extractAndStart answers archive job plan) fun _ => do
    rollback answers job movedAsideTo plan
    throw (.rolledBack (movedAsideTo.getD job.storage.path))
  let plan ← finishBridgeRestore answers plan
  return {
    movedAsideTo
    bridgeRestored := plan.isSome
    bridgeMembers := (bridgeMembersIn archive).length
    bridgeMovedAsideTo := plan.bind BridgePlan.movedAsideTo
    bridgeStarted := plan.bind BridgePlan.started
  }

end Restore

end IndigoMatter.Plugin.Fabric
