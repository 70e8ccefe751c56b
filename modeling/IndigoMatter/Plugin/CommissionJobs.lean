import IndigoMatter.Library.Transition
import IndigoMatter.Plugin.MatterModel
import Mathlib.Data.List.Dedup
import Mathlib.Data.List.Sort

/-!
# Commission jobs

The job table of the plugin and its coroutines, one event for each stretch of code
between two awaits.  A job runs in one coroutine until it is terminal; one that
timed out is watched until its window closes, and a node that joins meanwhile can
reopen it in another coroutine.

Node ids are the integers of the server.
-/

namespace IndigoMatter.Plugin

open IndigoMatter.Library

/-- `uuid4`. -/
abbrev JobId := Nat

/-- `JobStatus`. -/
inductive JobStatus
  | pending
  | commissioning
  | readingDescriptors
  | creatingDevices
  | success
  | failed
deriving DecidableEq

/-- `TERMINAL`. -/
def JobStatus.terminal : JobStatus → Bool
  | success | failed => true
  | _ => false

/-- The codes a failed job carries. -/
inductive JobErrorCode
  | commissioningTimeout
  | commissioningFailed
  | internalError
deriving DecidableEq

/-- What a failed job reports. -/
structure JobError where
  code : JobErrorCode
  message : String
  matterErrorCode : Option Int := none
deriving DecidableEq

/-- `TIMEOUT_MESSAGE`. -/
def TIMEOUT_MESSAGE : String :=
  "matter-server did not finish commissioning within 300s; the device may still join — check " ++
    "Indigo before retrying. Common causes: the device's ORIGINAL QR code was pasted instead " ++
    "of a fresh share code from its current ecosystem; the share window expired; or the " ++
    "device is not IP-reachable from this Mac."

/-- Seconds a terminal job is kept. -/
def RETENTION : Nat := 900

/-- Seconds after a timeout in which a node may still claim the job. -/
def RECONCILE_WINDOW : Nat := 300

/-- `Job`; the job id is the key of the table.  `result` is the node of `result["nodeId"]`. -/
structure Job where
  setupCode : String
  suggestedName : String
  suggestedRoom : Option String
  nodeId : Option NodeId
  status : JobStatus
  progress : Rat
  message : String
  startedAt : Nat
  terminalAt : Option Nat
  result : Option NodeId
  error : Option JobError
deriving DecidableEq

/-- What the coroutine of a job waits for: to begin, for an answer of the server, for
its devices, or for the removal of its node in `_fail`. -/
inductive Stage
  | scheduled
  | commissioning
  | reading (node : NodeId)
  | creating (node : NodeId)
  | removing (node : NodeId) (error : JobError)
  | claimed (node : NodeId)
  | reconciling (node : NodeId)
deriving DecidableEq

/-- What the watchdog of a timed-out job waits for. -/
inductive WatchStage
  | sleeping
  | removing (node : NodeId)
deriving DecidableEq

/-- A call of `_create_devices`: whose name and room were applied to which node. -/
structure Applied where
  setupCode : String
  suggestedName : String
  suggestedRoom : Option String
  node : NodeId
deriving DecidableEq

/-- How an awaited call fails, with the text and the code of the exception. -/
inductive Failure
  | timeout
  | refused (message : String) (matterErrorCode : Option Int)
  | other (message : String)
deriving DecidableEq

/-- A late answer of the server to a commission request. -/
inductive LateAnswer
  | error (matterErrorCode : Option Int) (details : String)
  | success (node : Option NodeId)
deriving DecidableEq

/-- A commission request that has passed validation. -/
structure CommissionRequest where
  setupCode : String
  suggestedName : String
  suggestedRoom : Option String
deriving DecidableEq

/-- The job table, the coroutines under way and the device creations so far. -/
structure CommissionJobs where
  jobs : InsertionMap JobId Job
  byCode : InsertionMap String JobId
  removing : List NodeId
  tasks : InsertionMap JobId Stage
  watchdogs : InsertionMap JobId WatchStage
  applied : List Applied
  now : Nat

/-- What can happen.  `scheduled` and `armed` say whether the loop still takes a
coroutine, and `known` whether Indigo has devices of the node. -/
inductive JobEvent
  | clock (now : Nat)
  | createJob (jobId : JobId) (request : CommissionRequest) (connected scheduled : Bool)
  | getJob
  | begin (jobId : JobId)
  | commissioned (jobId : JobId) (node : Option NodeId)
  | descriptorsRead (jobId : JobId)
  | devicesCreated (jobId : JobId)
  | failed (jobId : JobId) (failure : Failure) (armed : Bool)
  | nodeRemoved (jobId : JobId)
  | cancelled (jobId : JobId)
  | nodeAdded (node : NodeId) (scheduled : Bool)
  | lateAnswer (jobId : JobId) (answer : LateAnswer)
  | windowClosed (jobId : JobId) (known : Bool)
  | orphanSettled (jobId : JobId)
  | watchCancelled (jobId : JobId)
deriving DecidableEq

/-- `_advance`: a terminal status is stamped. -/
def Job.advance (now : Nat) (status : JobStatus) (progress : Rat) (message : String) (job : Job) :
    Job :=
  { job with
    status := status
    progress := progress
    message := message
    terminalAt := if status.terminal then some now else job.terminalAt }

/-- An error, and the status that goes with it. -/
def Job.fail (now : Nat) (error : JobError) (job : Job) : Job :=
  ({ job with error := some error } : Job).advance now .failed job.progress ""

/-- Whether what a job reports is that its commission request timed out. -/
def Job.reportsTimeout (job : Job) : Bool :=
  job.error.any fun error => decide (error.code = .commissioningTimeout)

/-- A job is claimed by a node that joins after its timeout. -/
def Job.claim (node : NodeId) (job : Job) : Job :=
  { job with
    error := none
    terminalAt := none
    progress := 17 / 20
    message := "Device joined after timeout; creating Indigo devices…"
    nodeId := some node
    status := .creatingDevices }

namespace CommissionJobs

/-- A plugin that has just started. -/
def fresh : CommissionJobs := ⟨∅, ∅, [], ∅, ∅, [], 0⟩

/-- Change a job that is still in the table. -/
def modify (jobId : JobId) (f : Job → Job) (table : CommissionJobs) : CommissionJobs :=
  match table.jobs.get? jobId with
  | none => table
  | some job => { table with jobs := table.jobs.set jobId (f job) }

theorem get?_modify (table : CommissionJobs) (jobId : JobId) (f : Job → Job) (other : JobId) :
    (table.modify jobId f).jobs.get? other =
      if other = jobId then (table.jobs.get? jobId).map f else table.jobs.get? other := by
  unfold modify
  cases stored : table.jobs.get? jobId with
  | none =>
      by_cases same : other = jobId
      · rw [if_pos same, same, stored, Option.map_none]
      · rw [if_neg same]
  | some job => simp [InsertionMap.get?_set]

/-- Changing a job leaves everything but the jobs alone. -/
theorem modify_eq (table : CommissionJobs) (jobId : JobId) (f : Job → Job) :
    table.modify jobId f = { table with jobs := (table.modify jobId f).jobs } := by
  unfold modify
  split <;> rfl

/-- `self._removing.add`. -/
def addRemoving (node : NodeId) (table : CommissionJobs) : CommissionJobs :=
  { table with removing := table.removing.insert node }

/-- `self._removing.discard`. -/
def discardRemoving (node : NodeId) (table : CommissionJobs) : CommissionJobs :=
  { table with removing := table.removing.filter (· ≠ node) }

/-! ## The table -/

/-- `_reap_locked`. -/
def reap (table : CommissionJobs) : CommissionJobs :=
  let expired := table.jobs.entries.filter fun entry =>
    entry.2.terminalAt.any fun terminalAt => decide (terminalAt + RETENTION < table.now)
  expired.foldl (fun table entry =>
    { table with
      jobs := table.jobs.delete entry.1
      byCode := if table.byCode.get? entry.2.setupCode = some entry.1
        then table.byCode.delete entry.2.setupCode else table.byCode }) table

/-- What `create_job` answers. -/
inductive CreateAnswer
  | accepted (jobId : JobId)
  | duplicate (existing : JobId)
  | unreachable
deriving DecidableEq

/-- `create_job`, from the check of the connection on. -/
def createJob (jobId : JobId) (request : CommissionRequest) (connected scheduled : Bool)
    (table : CommissionJobs) : CreateAnswer × CommissionJobs :=
  if !connected then (.unreachable, table)
  else
    let reaped := table.reap
    let running := (reaped.byCode.get? request.setupCode).filter fun existing =>
      (reaped.jobs.get? existing).any fun job => !job.status.terminal
    match running with
    | some existing => (.duplicate existing, reaped)
    | none =>
        let job : Job := ⟨request.setupCode, request.suggestedName, request.suggestedRoom, none,
          .pending, 0, "", reaped.now, none, none, none⟩
        if scheduled then
          (.accepted jobId,
            { reaped with
              jobs := reaped.jobs.set jobId job
              byCode := reaped.byCode.set request.setupCode jobId
              tasks := reaped.tasks.set jobId .scheduled })
        else
          (.unreachable,
            { reaped with
              jobs := reaped.jobs.delete jobId
              byCode := reaped.byCode.delete request.setupCode })

/-- `_node_held_by_other_job`. -/
def heldByOther (jobId : JobId) (node : NodeId) (table : CommissionJobs) : Bool :=
  table.jobs.entries.any fun entry =>
    decide (entry.1 ≠ jobId ∧ entry.2.nodeId = some node ∧ entry.2.status ≠ .failed)

/-! ## The worker -/

/-- The coroutine of a job is over. -/
def endTask (jobId : JobId) (table : CommissionJobs) : CommissionJobs :=
  { table with tasks := table.tasks.delete jobId }

/-- The coroutine of a job waits anew. -/
def await (jobId : JobId) (stage : Stage) (table : CommissionJobs) : CommissionJobs :=
  { table with tasks := table.tasks.set jobId stage }

/-- The end of `_fail`, and of the failures that do not go through it. -/
def land (jobId : JobId) (error : JobError) (table : CommissionJobs) : CommissionJobs :=
  (table.modify jobId (Job.fail table.now error)).endTask jobId

/-- `_fail`, up to the removal of the node when nobody else holds it. -/
def fail (jobId : JobId) (error : JobError) (node : Option NodeId) (table : CommissionJobs) :
    CommissionJobs :=
  match node with
  | none => table.land jobId error
  | some node =>
      if table.heldByOther jobId node then table.land jobId error
      else (table.addRemoving node).await jobId (.removing node error)

/-- The `except` clauses of `_run_job`.  Only a timeout of the commissioning itself
leaves the job to be claimed. -/
def handle (jobId : JobId) (failure : Failure) (armed : Bool) (node : Option NodeId)
    (table : CommissionJobs) : CommissionJobs :=
  match failure, node with
  | .timeout, some node =>
      table.land jobId ⟨.internalError, "timed out reading node descriptors for " ++
        nodeIdToStr node ++ " after commissioning succeeded", none⟩
  | .timeout, none =>
      let landed := table.land jobId ⟨.commissioningTimeout, TIMEOUT_MESSAGE, none⟩
      if armed then { landed with watchdogs := landed.watchdogs.set jobId .sleeping }
      else landed
  | .refused message code, node =>
      table.fail jobId ⟨.commissioningFailed, message, code⟩ node
  | .other message, node => table.fail jobId ⟨.internalError, message, none⟩ node

/-- `_create_devices` is called with the name and the room of a job. -/
def apply (jobId : JobId) (node : NodeId) (table : CommissionJobs) : CommissionJobs :=
  match table.jobs.get? jobId with
  | none => table
  | some job =>
      { table with
        applied := table.applied ++
          [⟨job.setupCode, job.suggestedName, job.suggestedRoom, node⟩] }

@[simp]
theorem jobs_apply (table : CommissionJobs) (jobId : JobId) (node : NodeId) :
    (table.apply jobId node).jobs = table.jobs := by
  unfold apply
  split <;> rfl

/-- A coroutine begins: `_run_job` or `_reconcile_job`. -/
def begin (jobId : JobId) (table : CommissionJobs) : Option CommissionJobs :=
  match table.tasks.get? jobId with
  | some .scheduled =>
      some ((table.modify jobId (Job.advance table.now .commissioning (1 / 5) "Commissioning…")).await
        jobId .commissioning)
  | some (.claimed node) => some ((table.apply jobId node).await jobId (.reconciling node))
  | _ => none

/-- The server answers the commission request in time. -/
def commissioned (jobId : JobId) (node : Option NodeId) (table : CommissionJobs) :
    Option CommissionJobs :=
  match table.tasks.get? jobId, node with
  | some .commissioning, none =>
      some (table.fail jobId
        ⟨.commissioningFailed, "matter-server returned no node_id", none⟩ none)
  | some .commissioning, some node =>
      some ((table.modify jobId fun job =>
        ({ job with nodeId := some node } : Job).advance table.now .readingDescriptors (3 / 5)
          "Discovering device capabilities…").await jobId (.reading node))
  | _, _ => none

/-- `get_node` answers. -/
def descriptorsRead (jobId : JobId) (table : CommissionJobs) : Option CommissionJobs :=
  match table.tasks.get? jobId with
  | some (.reading node) =>
      some (((table.modify jobId (Job.advance table.now .creatingDevices (17 / 20)
        "Creating Indigo devices…")).apply jobId node).await jobId (.creating node))
  | _ => none

/-- A job has its devices. -/
def succeed (jobId : JobId) (node : NodeId) (message : String) (table : CommissionJobs) :
    CommissionJobs :=
  (table.modify jobId fun job =>
    ({ job with result := some node } : Job).advance table.now .success 1 message).endTask jobId

/-- The devices are there. -/
def devicesCreated (jobId : JobId) (table : CommissionJobs) : Option CommissionJobs :=
  match table.tasks.get? jobId with
  | some (.creating node) => some (table.succeed jobId node "Done")
  | some (.reconciling node) =>
      some (table.succeed jobId node "Done (completed after timeout)")
  | _ => none

/-- The text of an exception; a timeout has none, and is named by its type. -/
def failureMessage : Failure → String
  | .timeout => "TimeoutError"
  | .refused message _ | .other message => message

/-- What a coroutine awaits fails. -/
def failed (jobId : JobId) (failure : Failure) (armed : Bool) (table : CommissionJobs) :
    Option CommissionJobs :=
  match table.tasks.get? jobId with
  | some .commissioning => some (table.handle jobId failure armed none)
  | some (.reading node) | some (.creating node) =>
      some (table.handle jobId failure armed (some node))
  | some (.reconciling _) =>
      some (table.land jobId ⟨.internalError, failureMessage failure, none⟩)
  | _ => none

/-- `remove_node` has settled in `_fail`, one way or the other. -/
def nodeRemoved (jobId : JobId) (table : CommissionJobs) : Option CommissionJobs :=
  match table.tasks.get? jobId with
  | some (.removing node error) => some ((table.discardRemoving node).land jobId error)
  | _ => none

/-- The loop shuts down.  A coroutine that has not begun, one in `_fail` and a
reconcile leave their job as it is. -/
def cancelled (jobId : JobId) (table : CommissionJobs) : Option CommissionJobs :=
  match table.tasks.get? jobId with
  | none => none
  | some .scheduled | some (.claimed _) | some (.reconciling _) => some (table.endTask jobId)
  | some (.removing node _) => some ((table.discardRemoving node).endTask jobId)
  | some .commissioning | some (.reading _) | some (.creating _) =>
      some (table.land jobId
        ⟨.internalError, "commissioning cancelled by plugin shutdown", none⟩)

/-! ## Nodes that join late -/

/-- Whether a job can still be claimed, by the node it waits for or at all. -/
def isCandidate (cutoff : Nat) (job : Job) : Bool :=
  decide (job.status = .failed ∧ job.reportsTimeout = true) &&
    job.terminalAt.any fun terminalAt => decide (cutoff ≤ terminalAt)

/-- `_timeout_candidates_locked`, the oldest first. -/
def timeoutCandidates (cutoff : Nat) (table : CommissionJobs) : List (JobId × Job) :=
  (table.jobs.entries.filter fun entry => isCandidate cutoff entry.2).insertionSort
    fun first second => first.2.terminalAt.getD 0 ≤ second.2.terminalAt.getD 0

/-- `_claimable_locked`: the job that may claim a node. -/
def claimable (node : NodeId) (cutoff : Nat) (table : CommissionJobs) : Option (JobId × Job) :=
  let candidates := table.timeoutCandidates cutoff
  if node ∈ table.removing then none
  else
    let exact := candidates.filter fun entry => decide (entry.2.nodeId = some node)
    let unidentified := candidates.filter fun entry => decide (entry.2.nodeId = none)
    if exact ≠ [] then exact.getLast?
    else if (unidentified.map fun entry => entry.2.setupCode).dedup.length = 1 then
      unidentified.getLast?
    else none

/-- The start of the window in which a timed-out job can be claimed. -/
def cutoff (table : CommissionJobs) : Nat := table.now - RECONCILE_WINDOW

theorem mem_timeoutCandidates {table : CommissionJobs} {cutoff : Nat} {jobId : JobId} {job : Job} :
    (jobId, job) ∈ table.timeoutCandidates cutoff ↔
      table.jobs.get? jobId = some job ∧ isCandidate cutoff job = true := by
  unfold timeoutCandidates
  rw [List.mem_insertionSort, List.mem_filter, InsertionMap.mem_entries_iff]

/-- A node is claimed by a job that waits for it; failing that, by one of the jobs that
do not know their node, which are then all of one setup code. -/
theorem claimable_spec {table : CommissionJobs} {node : NodeId} {cutoff : Nat} {jobId : JobId} {job : Job}
    (claims : table.claimable node cutoff = some (jobId, job)) :
    node ∉ table.removing ∧ table.jobs.get? jobId = some job ∧ isCandidate cutoff job = true ∧
      (job.nodeId = some node ∨
        (job.nodeId = none ∧ ∀ other candidate, table.jobs.get? other = some candidate →
          isCandidate cutoff candidate = true → candidate.nodeId ≠ some node ∧
            (candidate.nodeId = none → candidate.setupCode = job.setupCode))) := by
  unfold claimable at claims
  dsimp only at claims
  split at claims
  · cases claims
  · rename_i stays
    split at claims
    · have mem := List.mem_of_getLast? claims
      rcases List.mem_filter.mp mem with ⟨candidate, exact_⟩
      rcases mem_timeoutCandidates.mp candidate with ⟨stored, waits⟩
      exact ⟨stays, stored, waits, .inl (of_decide_eq_true exact_)⟩
    · rename_i none_
      split at claims
      · rename_i one
        have mem := List.mem_of_getLast? claims
        rcases List.mem_filter.mp mem with ⟨candidate, unidentified⟩
        rcases mem_timeoutCandidates.mp candidate with ⟨stored, waits⟩
        refine ⟨stays, stored, waits, .inr ⟨of_decide_eq_true unidentified, ?_⟩⟩
        intro other rival storedRival waitsRival
        have rivals : (other, rival) ∈ table.timeoutCandidates cutoff :=
          mem_timeoutCandidates.mpr ⟨storedRival, waitsRival⟩
        constructor
        · intro waitsFor
          apply none_
          intro empty
          have exact_ : (other, rival) ∈ (table.timeoutCandidates cutoff).filter
              fun entry => decide (entry.2.nodeId = some node) :=
            List.mem_filter.mpr ⟨rivals, decide_eq_true waitsFor⟩
          rw [empty] at exact_
          cases exact_
        · intro unidentifiedRival
          rcases List.length_eq_one_iff.mp one with ⟨code, only⟩
          have isOnly (entry : JobId × Job) (mem : entry ∈ (table.timeoutCandidates cutoff).filter
              fun entry => decide (entry.2.nodeId = none)) : entry.2.setupCode = code := by
            have listed : entry.2.setupCode ∈ (((table.timeoutCandidates cutoff).filter
                fun entry => decide (entry.2.nodeId = none)).map
                  fun entry => entry.2.setupCode).dedup :=
              List.mem_dedup.mpr (List.mem_map.mpr ⟨entry, mem, rfl⟩)
            rw [only] at listed
            exact List.mem_singleton.mp listed
          rw [isOnly (jobId, job) mem]
          exact isOnly (other, rival)
            (List.mem_filter.mpr ⟨rivals, decide_eq_true unidentifiedRival⟩)
      · cases claims

/-- `reconcile_node_added`: the claimed job, and the table. -/
def reconcileNodeAdded (node : NodeId) (scheduled : Bool) (table : CommissionJobs) :
    Option JobId × CommissionJobs :=
  match table.claimable node table.cutoff with
  | none => (none, table)
  | some (jobId, job) =>
      if scheduled then
        (some jobId,
          { table with
            jobs := table.jobs.set jobId (job.claim node)
            tasks := table.tasks.set jobId (.claimed node) })
      else (none, table)

/-- `note_late_response`. -/
def noteLateResponse (jobId : JobId) (answer : LateAnswer) (table : CommissionJobs) :
    CommissionJobs :=
  match answer with
  | .error matterErrorCode details =>
      table.modify jobId fun job =>
        if job.status = .failed ∧ job.reportsTimeout = true then
          { job with
            error := some ⟨.commissioningFailed, "matter-server reported the commission " ++
              "failed after the plugin stopped waiting: " ++ details, matterErrorCode⟩ }
        else job
  | .success none => table
  | .success (some node) =>
      table.modify jobId fun job =>
        if job.nodeId = none then { job with nodeId := some node } else job

/-- The watchdog of a job is over. -/
def endWatch (jobId : JobId) (table : CommissionJobs) : CommissionJobs :=
  { table with watchdogs := table.watchdogs.delete jobId }

/-- `_expire_reconcile_window` wakes up, and `_remove_orphaned_node` up to the removal. -/
def windowClosed (jobId : JobId) (known : Bool) (table : CommissionJobs) :
    Option CommissionJobs :=
  match table.watchdogs.get? jobId with
  | some .sleeping =>
      match table.jobs.get? jobId with
      | none => some (table.endWatch jobId)
      | some job =>
          if job.status ≠ .failed ∨ job.reportsTimeout = false then
            some (table.endWatch jobId)
          else
            match job.nodeId with
            | none => some (table.endWatch jobId)
            | some node =>
                if table.heldByOther jobId node then some (table.endWatch jobId)
                else if known then some ((table.discardRemoving node).endWatch jobId)
                else some { table.addRemoving node with
                  watchdogs := table.watchdogs.set jobId (.removing node) }
  | _ => none

/-- The removal of an orphaned node has settled, or its watchdog is cancelled. -/
def watchEnded (jobId : JobId) (settled : Bool) (table : CommissionJobs) :
    Option CommissionJobs :=
  match table.watchdogs.get? jobId with
  | some .sleeping => if settled then none else some (table.endWatch jobId)
  | some (.removing node) => some ((table.discardRemoving node).endWatch jobId)
  | none => none

/-- A job id that has never been given out. -/
def unused (jobId : JobId) (table : CommissionJobs) : Bool :=
  !table.jobs.has jobId && !table.tasks.has jobId && !table.watchdogs.has jobId

/-- One event. -/
def step : LabelledStep CommissionJobs JobEvent
  | table, .clock now => some { table with now := now }
  | table, .createJob jobId request connected scheduled =>
      if table.unused jobId then some (table.createJob jobId request connected scheduled).2
      else none
  | table, .getJob => some table.reap
  | table, .begin jobId => table.begin jobId
  | table, .commissioned jobId node => table.commissioned jobId node
  | table, .descriptorsRead jobId => table.descriptorsRead jobId
  | table, .devicesCreated jobId => table.devicesCreated jobId
  | table, .failed jobId failure armed => table.failed jobId failure armed
  | table, .nodeRemoved jobId => table.nodeRemoved jobId
  | table, .cancelled jobId => table.cancelled jobId
  | table, .nodeAdded node scheduled => some (table.reconcileNodeAdded node scheduled).2
  | table, .lateAnswer jobId answer => some (table.noteLateResponse jobId answer)
  | table, .windowClosed jobId known => table.windowClosed jobId known
  | table, .orphanSettled jobId => table.watchEnded jobId true
  | table, .watchCancelled jobId => table.watchEnded jobId false

end CommissionJobs

end IndigoMatter.Plugin
