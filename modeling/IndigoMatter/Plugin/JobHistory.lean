import IndigoMatter.Plugin.CommissionJobs

/-!
# The history of a commission job

`create_job` and `reconcile_node_added` change the table under the lock and hand a
coroutine to the loop after they have let go of it.  When the loop does not take it,
they lock again and take the job out, or put it back as it was.  Here the two halves
are events of their own, so anything can happen in between.

A late answer belongs to a request that has been sent and is no longer awaited.

What an event does to one job, its coroutine and its watchdog is one of a few moves,
and what it does to the removals under way is another.
-/

namespace IndigoMatter.Plugin

open IndigoMatter.Library

/-- A coroutine that has not been handed to the loop yet: that of a new job, with the
setup code at hand, or that of a claimed one, with the job as it was before. -/
inductive Handover
  | created (setupCode : String)
  | claimed (priors : Job)
deriving DecidableEq

/-- The job table and the coroutines that are still to be handed over. -/
structure JobHistory where
  table : CommissionJobs
  handovers : InsertionMap JobId Handover

/-- What can happen; `handedOver` says whether the loop has taken the coroutine. -/
inductive HistoryEvent
  | job (event : JobEvent)
  | createJob (jobId : JobId) (request : CommissionRequest) (connected : Bool)
  | nodeAdded (node : NodeId)
  | handedOver (jobId : JobId) (scheduled : Bool)
deriving DecidableEq

/-- A claimed job as it was before, when the loop is down. -/
def Job.restore (priors job : Job) : Job :=
  { job with
    status := .failed
    error := priors.error
    terminalAt := priors.terminalAt
    progress := priors.progress
    message := priors.message
    nodeId := priors.nodeId }

/-- The job of a new request. -/
def CommissionRequest.job (now : Nat) (request : CommissionRequest) : Job where
  setupCode := request.setupCode
  suggestedName := request.suggestedName
  suggestedRoom := request.suggestedRoom
  nodeId := none
  status := .pending
  progress := 0
  message := ""
  startedAt := now
  terminalAt := none
  result := none
  error := none

namespace JobHistory

/-- No jobs. -/
def fresh : JobHistory := ⟨.fresh, ∅⟩

/-- `create_job` up to the end of its first locked region. -/
def createJob (jobId : JobId) (request : CommissionRequest) (connected : Bool)
    (state : JobHistory) : JobHistory :=
  match state.table.createJob jobId request connected true with
  | (.accepted _, table) =>
      { table, handovers := state.handovers.set jobId (.created request.setupCode) }
  | (_, table) => { state with table }

/-- `reconcile_node_added` up to the end of its locked region. -/
def nodeAdded (node : NodeId) (state : JobHistory) : JobHistory :=
  match state.table.claimable node state.table.cutoff with
  | none => state
  | some (jobId, job) =>
      { table := (state.table.reconcileNodeAdded node true).2
        handovers := state.handovers.set jobId (.claimed job) }

/-- A job the loop does not take is gone. -/
def drop (jobId : JobId) (setupCode : String) (table : CommissionJobs) : CommissionJobs :=
  { table with
    jobs := table.jobs.delete jobId
    byCode := if table.byCode.get? setupCode = some jobId then table.byCode.delete setupCode
      else table.byCode
    tasks := table.tasks.delete jobId }

/-- The coroutine of a job is handed to the loop. -/
def handedOver (jobId : JobId) (scheduled : Bool) (state : JobHistory) : Option JobHistory :=
  (state.handovers.get? jobId).map fun handover =>
    { table :=
        if scheduled then state.table
        else
          match handover with
          | .created setupCode => drop jobId setupCode state.table
          | .claimed priors => (state.table.modify jobId (Job.restore priors)).endTask jobId
      handovers := state.handovers.delete jobId }

/-- The request of a job has been sent and is no longer awaited. -/
def givenUp (jobId : JobId) (table : CommissionJobs) : Bool :=
  decide (table.tasks.get? jobId ≠ some .commissioning) &&
    (table.jobs.get? jobId).all fun job => decide (job.status ≠ .pending)

/-- What the loop can do by itself. -/
def enabled (state : JobHistory) : JobEvent → Bool
  | .createJob _ _ _ _ | .nodeAdded _ _ => false
  | .begin jobId | .cancelled jobId => !state.handovers.has jobId
  | .lateAnswer jobId _ => givenUp jobId state.table
  | _ => true

/-- One event. -/
def step : LabelledStep JobHistory HistoryEvent
  | state, .job event =>
      if state.enabled event then
        (state.table.step event).map fun table => { state with table }
      else none
  | state, .createJob jobId request connected =>
      if state.table.unused jobId && !state.handovers.has jobId then
        some (state.createJob jobId request connected)
      else none
  | state, .nodeAdded node => some (state.nodeAdded node)
  | state, .handedOver jobId scheduled => state.handedOver jobId scheduled

/-! ## One job -/

/-- All there is of one job. -/
structure View where
  job : Option Job
  task : Option Stage
  watch : Option WatchStage
  handover : Option Handover

/-- What a state has of a job. -/
def view (state : JobHistory) (jobId : JobId) : View where
  job := state.table.jobs.get? jobId
  task := state.table.tasks.get? jobId
  watch := state.table.watchdogs.get? jobId
  handover := state.handovers.get? jobId

/-- A coroutine that ends with its job failed: any that has begun. -/
def Fails : Stage → JobError → Prop
  | .removing _ error, landed => landed = error
  | .scheduled, _ | .claimed _, _ => False
  | .commissioning, _ | .reading _, _ | .creating _, _ | .reconciling _, _ => True

/-- What an event can do to one job. -/
inductive JobMove (state : JobHistory) (jobId : JobId) : HistoryEvent → View → View → Prop
  | same {event view} : JobMove state jobId event view view
  | reaped {event job task watch handover} (terminal : job.terminalAt.isSome) :
      JobMove state jobId event ⟨some job, task, watch, handover⟩ ⟨none, task, watch, handover⟩
  | entered {request} :
      JobMove state jobId (.createJob jobId request true) ⟨none, none, none, none⟩
        ⟨some (request.job state.table.now), some .scheduled, none,
          some (.created request.setupCode)⟩
  | dropped {job task watch setupCode} :
      JobMove state jobId (.handedOver jobId false) ⟨job, task, watch, some (.created setupCode)⟩
        ⟨none, none, watch, none⟩
  | taken {job task watch handover} :
      JobMove state jobId (.handedOver jobId true) ⟨job, task, watch, some handover⟩
        ⟨job, task, watch, none⟩
  | restored {job task watch priors} :
      JobMove state jobId (.handedOver jobId false) ⟨job, task, watch, some (.claimed priors)⟩
        ⟨job.map (Job.restore priors), none, watch, none⟩
  | began {job watch} :
      JobMove state jobId (.job (.begin jobId)) ⟨job, some .scheduled, watch, none⟩
        ⟨job.map (Job.advance state.table.now .commissioning (1 / 5) "Commissioning…"),
          some .commissioning, watch, none⟩
  | reconciles {job watch node} :
      JobMove state jobId (.job (.begin jobId)) ⟨job, some (.claimed node), watch, none⟩
        ⟨job, some (.reconciling node), watch, none⟩
  | commissioned {job watch handover node} :
      JobMove state jobId (.job (.commissioned jobId (some node)))
        ⟨job, some .commissioning, watch, handover⟩
        ⟨job.map fun job => ({ job with nodeId := some node } : Job).advance state.table.now
            .readingDescriptors (3 / 5) "Discovering device capabilities…",
          some (.reading node), watch, handover⟩
  | read {job watch handover node} :
      JobMove state jobId (.job (.descriptorsRead jobId)) ⟨job, some (.reading node), watch, handover⟩
        ⟨job.map (Job.advance state.table.now .creatingDevices (17 / 20) "Creating Indigo devices…"),
          some (.creating node), watch, handover⟩
  | succeeded {job watch handover stage node message}
      (creates : stage = .creating node ∨ stage = .reconciling node) :
      JobMove state jobId (.job (.devicesCreated jobId)) ⟨job, some stage, watch, handover⟩
        ⟨job.map fun job => ({ job with result := some node } : Job).advance state.table.now
            .success 1 message, none, watch, handover⟩
  | landed {event job watch watch' handover stage error}
      (worker : ∀ other answer, event ≠ .lateAnswer other answer) (fails : Fails stage error)
      (watched : watch' = watch ∨ watch' = some .sleeping ∧ stage = .commissioning) :
      JobMove state jobId (.job event) ⟨job, some stage, watch, handover⟩
        ⟨job.map (Job.fail state.table.now error), none, watch', handover⟩
  | removes {event job watch handover stage node error}
      (holds : stage = .reading node ∨ stage = .creating node)
      (free : state.table.heldByOther jobId node = false) :
      JobMove state jobId (.job event) ⟨job, some stage, watch, handover⟩
        ⟨job, some (.removing node error), watch, handover⟩
  | cancelled {job watch stage} (stays : stage ≠ .commissioning) :
      JobMove state jobId (.job (.cancelled jobId)) ⟨job, some stage, watch, none⟩
        ⟨job, none, watch, none⟩
  | claimed {job task watch handover node}
      (claims : state.table.claimable node state.table.cutoff = some (jobId, job)) :
      JobMove state jobId (.nodeAdded node) ⟨some job, task, watch, handover⟩
        ⟨some (job.claim node), some (.claimed node), watch, some (.claimed job)⟩
  | lateError {job task watch handover matterErrorCode details error} (failed : job.status = .failed)
      (timedOut : job.reportsTimeout = true) :
      JobMove state jobId (.job (.lateAnswer jobId (.error matterErrorCode details)))
        ⟨some job, task, watch, handover⟩
        ⟨some { job with error := some error }, task, watch, handover⟩
  | lateSuccess {job task watch handover node} (unknown : job.nodeId = none)
      (sent : job.status ≠ .pending) (unawaited : task ≠ some .commissioning) :
      JobMove state jobId (.job (.lateAnswer jobId (.success (some node))))
        ⟨some job, task, watch, handover⟩
        ⟨some { job with nodeId := some node }, task, watch, handover⟩
  | watchEnds {event job task stage handover} :
      JobMove state jobId (.job event) ⟨job, task, some stage, handover⟩ ⟨job, task, none, handover⟩
  | watchRemoves {job task handover node} (failed : job.status = .failed)
      (timedOut : job.reportsTimeout = true) (known : job.nodeId = some node)
      (free : state.table.heldByOther jobId node = false) :
      JobMove state jobId (.job (.windowClosed jobId false))
        ⟨some job, task, some .sleeping, handover⟩
        ⟨some job, task, some (.removing node), handover⟩

/-! ## The parts of a step -/

section Parts

variable (table : CommissionJobs) (handovers : InsertionMap JobId Handover) (jobId other : JobId)

@[simp]
theorem view_modify (f : Job → Job) :
    (⟨table.modify jobId f, handovers⟩ : JobHistory).view other =
      if other = jobId then
        { (⟨table, handovers⟩ : JobHistory).view other with
          job := (table.jobs.get? jobId).map f }
      else (⟨table, handovers⟩ : JobHistory).view other := by
  rw [CommissionJobs.modify_eq]
  simp only [view, CommissionJobs.get?_modify]
  split <;> rfl

@[simp]
theorem view_endTask :
    (⟨table.endTask jobId, handovers⟩ : JobHistory).view other =
      if other = jobId then { (⟨table, handovers⟩ : JobHistory).view other with task := none }
      else (⟨table, handovers⟩ : JobHistory).view other := by
  simp only [view, CommissionJobs.endTask, InsertionMap.get?_delete]
  split <;> rfl

@[simp]
theorem view_await (stage : Stage) :
    (⟨table.await jobId stage, handovers⟩ : JobHistory).view other =
      if other = jobId then
        { (⟨table, handovers⟩ : JobHistory).view other with task := some stage }
      else (⟨table, handovers⟩ : JobHistory).view other := by
  simp only [view, CommissionJobs.await, InsertionMap.get?_set]
  split <;> rfl

@[simp]
theorem view_endWatch :
    (⟨table.endWatch jobId, handovers⟩ : JobHistory).view other =
      if other = jobId then { (⟨table, handovers⟩ : JobHistory).view other with watch := none }
      else (⟨table, handovers⟩ : JobHistory).view other := by
  simp only [view, CommissionJobs.endWatch, InsertionMap.get?_delete]
  split <;> rfl

@[simp]
theorem view_apply (node : NodeId) :
    (⟨table.apply jobId node, handovers⟩ : JobHistory).view other =
      (⟨table, handovers⟩ : JobHistory).view other := by
  unfold CommissionJobs.apply
  split <;> rfl

@[simp]
theorem view_addRemoving (node : NodeId) :
    (⟨table.addRemoving node, handovers⟩ : JobHistory).view other =
      (⟨table, handovers⟩ : JobHistory).view other := rfl

@[simp]
theorem view_discardRemoving (node : NodeId) :
    (⟨table.discardRemoving node, handovers⟩ : JobHistory).view other =
      (⟨table, handovers⟩ : JobHistory).view other := rfl

theorem view_setWatch (stage : WatchStage) :
    (⟨{ table with watchdogs := table.watchdogs.set jobId stage }, handovers⟩ :
        JobHistory).view other =
      if other = jobId then
        { (⟨table, handovers⟩ : JobHistory).view other with watch := some stage }
      else (⟨table, handovers⟩ : JobHistory).view other := by
  simp only [view, InsertionMap.get?_set]
  split <;> rfl

end Parts

variable {table moved : CommissionJobs} {handovers : InsertionMap JobId Handover} {jobId : JobId}

/-- Every job moves as an event may move it. -/
def Moves (state : JobHistory) (event : HistoryEvent) (next : JobHistory) : Prop :=
  ∀ jobId, JobMove state jobId event (state.view jobId) (next.view jobId)

/-- An event that only touches one job moves every job once that one moves. -/
theorem moves_of_subject {state next : JobHistory} {event : HistoryEvent} (subject : JobId)
    (view : View)
    (views : ∀ other, next.view other = if other = subject then view else state.view other)
    (move : JobMove state subject event (state.view subject) view) : Moves state event next := by
  intro jobId
  rw [views]
  split
  · rename_i same
    exact same ▸ move
  · exact .same

theorem view_of_task {stage : Stage} (waits : table.tasks.get? jobId = some stage) :
    (⟨table, handovers⟩ : JobHistory).view jobId = ⟨table.jobs.get? jobId, some stage,
      table.watchdogs.get? jobId, handovers.get? jobId⟩ := by
  rw [view, waits]

theorem view_of_watch {stage : WatchStage} (waits : table.watchdogs.get? jobId = some stage) :
    (⟨table, handovers⟩ : JobHistory).view jobId = ⟨table.jobs.get? jobId,
      table.tasks.get? jobId, some stage, handovers.get? jobId⟩ := by
  rw [view, waits]

/-! ### The worker -/

/-- A coroutine lands its job, whatever it has done to the marks before. -/
theorem moves_land {event : JobEvent} {stage : Stage} {error : JobError} {removing : List NodeId}
    (worker : ∀ other answer, event ≠ .lateAnswer other answer)
    (waits : table.tasks.get? jobId = some stage) (fails : Fails stage error) :
    Moves ⟨table, handovers⟩ (.job event)
      ⟨({ table with removing := removing } : CommissionJobs).land jobId error, handovers⟩ := by
  apply moves_of_subject jobId ⟨(table.jobs.get? jobId).map (Job.fail table.now error), none,
    table.watchdogs.get? jobId, handovers.get? jobId⟩
  · intro other
    simp only [CommissionJobs.land, view_endTask, view_modify]
    split <;> simp_all [view]
  · rw [view_of_task waits]
    exact .landed worker fails (.inl rfl)

theorem moves_fail {event : JobEvent} {stage : Stage} {error : JobError} {node : Option NodeId}
    (worker : ∀ other answer, event ≠ .lateAnswer other answer)
    (waits : table.tasks.get? jobId = some stage) (fails : Fails stage error)
    (holds : ∀ value, node = some value → stage = .reading value ∨ stage = .creating value) :
    Moves ⟨table, handovers⟩ (.job event) ⟨table.fail jobId error node, handovers⟩ := by
  unfold CommissionJobs.fail
  split
  · exact moves_land worker waits fails
  · rename_i node
    split
    · exact moves_land worker waits fails
    · rename_i free
      apply moves_of_subject jobId ⟨table.jobs.get? jobId, some (.removing node error),
        table.watchdogs.get? jobId, handovers.get? jobId⟩
      · intro other
        simp only [view_await, view_addRemoving]
        split <;> simp_all [view]
      · rw [view_of_task waits]
        exact .removes (holds node rfl) (by simpa using free)

theorem moves_begin (idle : handovers.get? jobId = none) (taken : table.begin jobId = some moved) :
    Moves ⟨table, handovers⟩ (.job (.begin jobId)) ⟨moved, handovers⟩ := by
  unfold CommissionJobs.begin at taken
  split at taken
  · rename_i waits
    obtain rfl := Option.some.inj taken
    apply moves_of_subject jobId ⟨(table.jobs.get? jobId).map
      (Job.advance table.now .commissioning (1 / 5) "Commissioning…"), some .commissioning,
      table.watchdogs.get? jobId, none⟩
    · intro other
      simp only [view_await, view_modify]
      split <;> simp_all [view]
    · rw [view_of_task waits, idle]
      exact .began
  · rename_i node waits
    obtain rfl := Option.some.inj taken
    apply moves_of_subject jobId ⟨table.jobs.get? jobId, some (.reconciling node),
      table.watchdogs.get? jobId, none⟩
    · intro other
      simp only [view_await, view_apply]
      split <;> simp_all [view]
    · rw [view_of_task waits, idle]
      exact .reconciles
  · cases taken

theorem moves_commissioned {node : Option NodeId}
    (taken : table.commissioned jobId node = some moved) :
    Moves ⟨table, handovers⟩ (.job (.commissioned jobId node)) ⟨moved, handovers⟩ := by
  unfold CommissionJobs.commissioned at taken
  split at taken
  · rename_i waits
    obtain rfl := Option.some.inj taken
    exact moves_fail (by simp) waits trivial (by simp)
  · rename_i node waits
    obtain rfl := Option.some.inj taken
    apply moves_of_subject jobId ⟨(table.jobs.get? jobId).map fun job =>
        ({ job with nodeId := some node } : Job).advance table.now .readingDescriptors (3 / 5)
          "Discovering device capabilities…", some (.reading node), table.watchdogs.get? jobId,
      handovers.get? jobId⟩
    · intro other
      simp only [view_await, view_modify]
      split <;> simp_all [view]
    · rw [view_of_task waits]
      exact .commissioned
  · cases taken

theorem moves_descriptorsRead (taken : table.descriptorsRead jobId = some moved) :
    Moves ⟨table, handovers⟩ (.job (.descriptorsRead jobId)) ⟨moved, handovers⟩ := by
  unfold CommissionJobs.descriptorsRead at taken
  split at taken
  · rename_i node waits
    obtain rfl := Option.some.inj taken
    apply moves_of_subject jobId ⟨(table.jobs.get? jobId).map
      (Job.advance table.now .creatingDevices (17 / 20) "Creating Indigo devices…"),
      some (.creating node), table.watchdogs.get? jobId, handovers.get? jobId⟩
    · intro other
      simp only [view_await, view_apply, view_modify]
      split <;> simp_all [view]
    · rw [view_of_task waits]
      exact .read
  · cases taken

theorem moves_succeed {stage : Stage} {node : NodeId} {message : String}
    (waits : table.tasks.get? jobId = some stage)
    (creates : stage = .creating node ∨ stage = .reconciling node) :
    Moves ⟨table, handovers⟩ (.job (.devicesCreated jobId))
      ⟨table.succeed jobId node message, handovers⟩ := by
  apply moves_of_subject jobId ⟨(table.jobs.get? jobId).map fun job =>
      ({ job with result := some node } : Job).advance table.now .success 1 message, none,
    table.watchdogs.get? jobId, handovers.get? jobId⟩
  · intro other
    simp only [CommissionJobs.succeed, view_endTask, view_modify]
    split <;> simp_all [view]
  · rw [view_of_task waits]
    exact .succeeded creates

theorem moves_devicesCreated (taken : table.devicesCreated jobId = some moved) :
    Moves ⟨table, handovers⟩ (.job (.devicesCreated jobId)) ⟨moved, handovers⟩ := by
  unfold CommissionJobs.devicesCreated at taken
  split at taken
  · rename_i node waits
    obtain rfl := Option.some.inj taken
    exact moves_succeed waits (.inl rfl)
  · rename_i node waits
    obtain rfl := Option.some.inj taken
    exact moves_succeed waits (.inr rfl)
  · cases taken

theorem moves_handle {event : JobEvent} {stage : Stage} {failure : Failure} {armed : Bool}
    {node : Option NodeId} (worker : ∀ other answer, event ≠ .lateAnswer other answer)
    (waits : table.tasks.get? jobId = some stage)
    (begun : ∀ error, Fails stage error)
    (holds : ∀ value, node = some value → stage = .reading value ∨ stage = .creating value)
    (awaits : node = none → stage = .commissioning) :
    Moves ⟨table, handovers⟩ (.job event)
      ⟨table.handle jobId failure armed node, handovers⟩ := by
  unfold CommissionJobs.handle
  split
  · exact moves_land worker waits (begun _)
  · dsimp only
    split
    · -- the watchdog is armed as well
      apply moves_of_subject jobId ⟨(table.jobs.get? jobId).map (Job.fail table.now
          ⟨.commissioningTimeout, TIMEOUT_MESSAGE, none⟩), none, some .sleeping,
        handovers.get? jobId⟩
      · intro other
        rw [view_setWatch]
        simp only [CommissionJobs.land, view_endTask, view_modify]
        split <;> simp_all [view]
      · rw [view_of_task waits]
        exact .landed worker (begun _) (.inr ⟨rfl, awaits rfl⟩)
    · exact moves_land worker waits (begun _)
  · exact moves_fail worker waits (begun _) holds
  · exact moves_fail worker waits (begun _) holds

theorem moves_failed {failure : Failure} {armed : Bool}
    (taken : table.failed jobId failure armed = some moved) :
    Moves ⟨table, handovers⟩ (.job (.failed jobId failure armed)) ⟨moved, handovers⟩ := by
  unfold CommissionJobs.failed at taken
  split at taken
  · rename_i waits
    obtain rfl := Option.some.inj taken
    exact moves_handle (by simp) waits (fun _ => trivial) (by simp) fun _ => rfl
  · rename_i node waits
    obtain rfl := Option.some.inj taken
    exact moves_handle (by simp) waits (fun _ => trivial) (by simp_all) (by simp)
  · rename_i node waits
    obtain rfl := Option.some.inj taken
    exact moves_handle (by simp) waits (fun _ => trivial) (by simp_all) (by simp)
  · rename_i node waits
    obtain rfl := Option.some.inj taken
    exact moves_land (by simp) waits trivial
  · cases taken

theorem moves_nodeRemoved (taken : table.nodeRemoved jobId = some moved) :
    Moves ⟨table, handovers⟩ (.job (.nodeRemoved jobId)) ⟨moved, handovers⟩ := by
  unfold CommissionJobs.nodeRemoved at taken
  split at taken
  · rename_i node error waits
    obtain rfl := Option.some.inj taken
    exact moves_land (by simp) waits rfl
  · cases taken

/-- A coroutine ends and leaves its job as it is. -/
theorem moves_endTask {stage : Stage} {removing : List NodeId}
    (idle : handovers.get? jobId = none) (waits : table.tasks.get? jobId = some stage)
    (stays : stage ≠ .commissioning) :
    Moves ⟨table, handovers⟩ (.job (.cancelled jobId))
      ⟨({ table with removing := removing } : CommissionJobs).endTask jobId, handovers⟩ := by
  apply moves_of_subject jobId ⟨table.jobs.get? jobId, none, table.watchdogs.get? jobId, none⟩
  · intro other
    rw [view_endTask]
    split <;> simp_all [view]
  · rw [view_of_task waits, idle]
    exact .cancelled stays

theorem moves_cancelled (idle : handovers.get? jobId = none)
    (taken : table.cancelled jobId = some moved) :
    Moves ⟨table, handovers⟩ (.job (.cancelled jobId)) ⟨moved, handovers⟩ := by
  unfold CommissionJobs.cancelled at taken
  split at taken
  · cases taken
  · rename_i waits
    obtain rfl := Option.some.inj taken
    exact moves_endTask idle waits (by simp)
  · rename_i node waits
    obtain rfl := Option.some.inj taken
    exact moves_endTask idle waits (by simp)
  · rename_i node waits
    obtain rfl := Option.some.inj taken
    exact moves_endTask idle waits (by simp)
  · rename_i node error waits
    obtain rfl := Option.some.inj taken
    exact moves_endTask idle waits (by simp)
  · rename_i waits
    obtain rfl := Option.some.inj taken
    exact moves_land (by simp) waits trivial
  · rename_i node waits
    obtain rfl := Option.some.inj taken
    exact moves_land (by simp) waits trivial
  · rename_i node waits
    obtain rfl := Option.some.inj taken
    exact moves_land (by simp) waits trivial

/-! ### Late answers and watchdogs -/

/-- One job of the table is changed. -/
theorem moves_modify {event : HistoryEvent} {f : Job → Job} {job changed : Job}
    (stored : table.jobs.get? jobId = some job) (result : f job = changed)
    (move : JobMove ⟨table, handovers⟩ jobId event
      ⟨some job, table.tasks.get? jobId, table.watchdogs.get? jobId, handovers.get? jobId⟩
      ⟨some changed, table.tasks.get? jobId, table.watchdogs.get? jobId,
        handovers.get? jobId⟩) :
    Moves ⟨table, handovers⟩ event ⟨table.modify jobId f, handovers⟩ := by
  apply moves_of_subject jobId _ _ (by rwa [view, stored])
  intro other
  rw [view_modify, stored, Option.map_some, result]
  split
  · rename_i same
    rw [same, view]
  · rfl

theorem moves_noteLateResponse {answer : LateAnswer} (unawaited : givenUp jobId table = true) :
    Moves ⟨table, handovers⟩ (.job (.lateAnswer jobId answer))
      ⟨table.noteLateResponse jobId answer, handovers⟩ := by
  cases stored : table.jobs.get? jobId with
  | none =>
      have unchanged : table.noteLateResponse jobId answer = table := by
        unfold CommissionJobs.noteLateResponse CommissionJobs.modify
        split <;> simp [stored]
      rw [unchanged]
      exact fun _ => .same
  | some job =>
      rw [givenUp, stored, Bool.and_eq_true] at unawaited
      have sent : job.status ≠ .pending := by simpa using unawaited.2
      have quiet : table.tasks.get? jobId ≠ some .commissioning := by simpa using unawaited.1
      unfold CommissionJobs.noteLateResponse
      split
      · by_cases waits : job.status = .failed ∧ job.reportsTimeout = true
        · exact moves_modify stored (if_pos waits) (.lateError waits.1 waits.2)
        · exact moves_modify stored (if_neg waits) .same
      · exact fun _ => .same
      · by_cases unknown : job.nodeId = none
        · exact moves_modify stored (if_pos unknown) (.lateSuccess unknown sent quiet)
        · exact moves_modify stored (if_neg unknown) .same

/-- A watchdog ends. -/
theorem moves_endWatch {event : JobEvent} {stage : WatchStage} {removing : List NodeId}
    (waits : table.watchdogs.get? jobId = some stage) :
    Moves ⟨table, handovers⟩ (.job event)
      ⟨({ table with removing := removing } : CommissionJobs).endWatch jobId, handovers⟩ := by
  apply moves_of_subject jobId ⟨table.jobs.get? jobId, table.tasks.get? jobId, none,
    handovers.get? jobId⟩
  · intro other
    rw [view_endWatch]
    split <;> simp_all [view]
  · rw [view_of_watch waits]
    exact .watchEnds

theorem moves_windowClosed {known : Bool} (taken : table.windowClosed jobId known = some moved) :
    Moves ⟨table, handovers⟩ (.job (.windowClosed jobId known)) ⟨moved, handovers⟩ := by
  unfold CommissionJobs.windowClosed at taken
  split at taken
  · rename_i sleeps
    split at taken
    · obtain rfl := Option.some.inj taken
      exact moves_endWatch sleeps
    · rename_i job stored
      split at taken
      · obtain rfl := Option.some.inj taken
        exact moves_endWatch sleeps
      · rename_i timedOut
        split at taken
        · obtain rfl := Option.some.inj taken
          exact moves_endWatch sleeps
        · rename_i node named
          split at taken
          · obtain rfl := Option.some.inj taken
            exact moves_endWatch sleeps
          · rename_i free
            split at taken
            · obtain rfl := Option.some.inj taken
              exact moves_endWatch sleeps
            · rename_i unknown
              obtain rfl := Option.some.inj taken
              obtain rfl : known = false := by simpa using unknown
              push Not at timedOut
              apply moves_of_subject jobId ⟨some job, table.tasks.get? jobId,
                some (.removing node), handovers.get? jobId⟩
              · intro other
                apply (view_setWatch (table.addRemoving node) handovers jobId other
                  (.removing node)).trans
                rw [view_addRemoving]
                split <;> simp_all [view]
              · rw [view_of_watch sleeps, stored]
                exact .watchRemoves timedOut.1 (by simpa using timedOut.2) named
                  (by simpa using free)
  · cases taken

theorem moves_watchEnded {event : JobEvent} {settled : Bool}
    (taken : table.watchEnded jobId settled = some moved) :
    Moves ⟨table, handovers⟩ (.job event) ⟨moved, handovers⟩ := by
  unfold CommissionJobs.watchEnded at taken
  split at taken
  · rename_i waits
    split at taken
    · cases taken
    · obtain rfl := Option.some.inj taken
      exact moves_endWatch waits
  · rename_i node waits
    obtain rfl := Option.some.inj taken
    exact moves_endWatch waits
  · cases taken

/-! ### The two locked calls -/

/-- What taking one job out of the table does. -/
structure Forgets (gone : JobId → Prop) (table moved : CommissionJobs) : Prop where
  jobs : ∀ jobId, moved.jobs.get? jobId = table.jobs.get? jobId ∨
    moved.jobs.get? jobId = none ∧ gone jobId
  byCode : ∀ setupCode, moved.byCode.get? setupCode = table.byCode.get? setupCode ∨
    moved.byCode.get? setupCode = none ∧
      ∃ jobId, table.byCode.get? setupCode = some jobId ∧ gone jobId
  tasks : moved.tasks = table.tasks
  watchdogs : moved.watchdogs = table.watchdogs
  removing : moved.removing = table.removing
  now : moved.now = table.now

/-- Reaping takes terminal jobs out of the table and leaves the rest alone. -/
theorem forgets_reap (table : CommissionJobs) :
    Forgets (fun jobId => ∃ job, table.jobs.get? jobId = some job ∧ job.terminalAt.isSome)
      table table.reap := by
  have fold (gone : JobId → Prop) : ∀ (expired : List (JobId × Job)),
      (∀ entry ∈ expired, gone entry.1) → ∀ (state : CommissionJobs), Forgets gone table state →
        Forgets gone table (expired.foldl (fun table entry =>
          { table with
            jobs := table.jobs.delete entry.1
            byCode := if table.byCode.get? entry.2.setupCode = some entry.1
              then table.byCode.delete entry.2.setupCode else table.byCode }) state) := by
    intro expired
    induction expired with
    | nil => exact fun _ _ forgets => forgets
    | cons entry rest ih =>
        intro listed state forgets
        apply ih fun other member => listed other (List.mem_cons_of_mem _ member)
        have left := listed entry List.mem_cons_self
        constructor
        · intro jobId
          rw [InsertionMap.get?_delete]
          split
          · rename_i same
            exact .inr ⟨rfl, same ▸ left⟩
          · exact forgets.jobs jobId
        · intro setupCode
          dsimp only
          split
          · rename_i named
            rw [InsertionMap.get?_delete]
            split
            · rename_i same
              rcases forgets.byCode setupCode with kept | removed
              · exact .inr ⟨rfl, entry.1, by rw [← kept, same, named], left⟩
              · exact .inr ⟨rfl, removed.2⟩
            · exact forgets.byCode setupCode
          · exact forgets.byCode setupCode
        · exact forgets.tasks
        · exact forgets.watchdogs
        · exact forgets.removing
        · exact forgets.now
  apply fold
  · intro entry member
    rcases List.mem_filter.mp member with ⟨stored, expired⟩
    have stored : table.jobs.get? entry.1 = some entry.2 := InsertionMap.mem_entries_iff.mp stored
    refine ⟨entry.2, stored, ?_⟩
    cases terminal : entry.2.terminalAt with
    | none => simp [terminal] at expired
    | some at_ => rfl
  · exact ⟨fun _ => .inl rfl, fun _ => .inl rfl, rfl, rfl, rfl, rfl⟩

theorem moves_reap (table : CommissionJobs) (handovers : InsertionMap JobId Handover)
    (event : HistoryEvent) : Moves ⟨table, handovers⟩ event ⟨table.reap, handovers⟩ := by
  intro jobId
  have forgets := forgets_reap table
  rcases forgets.jobs jobId with kept | ⟨gone, job, stored, terminal⟩
  · have same : (⟨table.reap, handovers⟩ : JobHistory).view jobId =
        (⟨table, handovers⟩ : JobHistory).view jobId := by
      simp only [view, kept, forgets.tasks, forgets.watchdogs]
    rw [same]
    exact .same
  · simp only [view, gone, stored, forgets.tasks, forgets.watchdogs]
    exact .reaped terminal

/-- A create_job that reaches the loop enters a new job into the reaped table; one
that does not leaves the reaped table. -/
theorem createJob_cases (table : CommissionJobs) (handovers : InsertionMap JobId Handover)
    (jobId : JobId) (request : CommissionRequest) :
    ((∃ existing, (table.createJob jobId request true true).1 = .duplicate existing) ∧
        (⟨table, handovers⟩ : JobHistory).createJob jobId request true =
          ⟨table.reap, handovers⟩) ∨
      (table.createJob jobId request true true).1 = .accepted jobId ∧
        (⟨table, handovers⟩ : JobHistory).createJob jobId request true =
          ⟨{ table.reap with
              jobs := table.reap.jobs.set jobId (request.job table.reap.now)
              byCode := table.reap.byCode.set request.setupCode jobId
              tasks := table.reap.tasks.set jobId .scheduled },
            handovers.set jobId (.created request.setupCode)⟩ := by
  simp only [createJob, CommissionJobs.createJob, Bool.not_true, Bool.false_eq_true, if_false]
  cases running : (table.reap.byCode.get? request.setupCode).filter fun existing =>
      (table.reap.jobs.get? existing).any fun job => !job.status.terminal with
  | some existing => exact .inl ⟨⟨existing, rfl⟩, rfl⟩
  | none => exact .inr ⟨rfl, rfl⟩

theorem absent_of_unused (unused : table.unused jobId = true) :
    table.jobs.get? jobId = none ∧ table.tasks.get? jobId = none ∧
      table.watchdogs.get? jobId = none := by
  simpa [CommissionJobs.unused, InsertionMap.has, and_assoc] using unused

theorem moves_createJob {request : CommissionRequest} {connected : Bool}
    (unused : table.unused jobId = true) (idle : handovers.get? jobId = none) :
    Moves ⟨table, handovers⟩ (.createJob jobId request connected)
      ((⟨table, handovers⟩ : JobHistory).createJob jobId request connected) := by
  cases connected with
  | false => exact fun _ => .same
  | true =>
      rcases createJob_cases table handovers jobId request with ⟨-, same⟩ | ⟨-, same⟩
      · rw [same]
        exact moves_reap table handovers _
      · rw [same]
        intro other
        have forgets := forgets_reap table
        by_cases subject : other = jobId
        · subst subject
          rcases absent_of_unused unused with ⟨noJob, noTask, noWatch⟩
          simp only [view, noJob, noTask, noWatch, idle, forgets.watchdogs, forgets.now,
            InsertionMap.get?_set_self]
          exact .entered
        · -- the other jobs are only reaped
          have reaped := moves_reap table handovers (.createJob jobId request true) other
          simpa [view, InsertionMap.get?_set, subject] using reaped

theorem moves_nodeAdded (node : NodeId) :
    Moves ⟨table, handovers⟩ (.nodeAdded node)
      ((⟨table, handovers⟩ : JobHistory).nodeAdded node) := by
  unfold nodeAdded
  split
  · exact fun _ => .same
  · rename_i jobId job claims
    have stored := (CommissionJobs.claimable_spec claims).2.1
    apply moves_of_subject jobId ⟨some (job.claim node), some (.claimed node),
      table.watchdogs.get? jobId, some (.claimed job)⟩
    · intro other
      simp only [view, CommissionJobs.reconcileNodeAdded, claims, if_true, InsertionMap.get?_set]
      split <;> simp_all
    · rw [view, stored]
      exact .claimed claims

theorem moves_handedOver {scheduled : Bool} {next : JobHistory}
    (taken : (⟨table, handovers⟩ : JobHistory).handedOver jobId scheduled = some next) :
    Moves ⟨table, handovers⟩ (.handedOver jobId scheduled) next := by
  rcases Option.map_eq_some_iff.mp taken with ⟨handover, waits, rfl⟩
  have shape : (⟨table, handovers⟩ : JobHistory).view jobId = ⟨table.jobs.get? jobId,
      table.tasks.get? jobId, table.watchdogs.get? jobId, some handover⟩ := by
    rw [view, waits]
  cases scheduled with
  | true =>
      apply moves_of_subject jobId ⟨table.jobs.get? jobId, table.tasks.get? jobId,
        table.watchdogs.get? jobId, none⟩
      · intro other
        simp only [view, if_true, InsertionMap.get?_delete]
        split <;> simp_all
      · rw [shape]
        exact .taken
  | false =>
      cases handover with
      | created setupCode =>
          apply moves_of_subject jobId ⟨none, none, table.watchdogs.get? jobId, none⟩
          · intro other
            simp only [view, drop, Bool.false_eq_true, if_false, InsertionMap.get?_delete]
            split <;> simp_all
          · rw [shape]
            exact .dropped
      | claimed priors =>
          apply moves_of_subject jobId ⟨(table.jobs.get? jobId).map (Job.restore priors), none,
            table.watchdogs.get? jobId, none⟩
          · intro other
            have restored := view_endTask (table.modify jobId (Job.restore priors))
              (handovers.delete jobId) jobId other
            rw [view_modify] at restored
            simp only [Bool.false_eq_true, if_false]
            rw [restored]
            simp only [view, InsertionMap.get?_delete]
            split <;> simp_all
          · rw [shape]
            exact .restored

/-- Every job moves as the event may move it. -/
theorem moves_of_step {state next : JobHistory} {event : HistoryEvent}
    (taken : step state event = some next) : Moves state event next := by
  rcases state with ⟨table, handovers⟩
  cases event with
  | createJob jobId request connected =>
      rw [step, Option.ite_none_right_eq_some, Bool.and_eq_true] at taken
      obtain rfl := Option.some.inj taken.2
      apply moves_createJob taken.1.1
      simpa [InsertionMap.has] using taken.1.2
  | nodeAdded node =>
      obtain rfl := Option.some.inj taken
      exact moves_nodeAdded node
  | handedOver jobId scheduled => exact moves_handedOver taken
  | job event =>
      rw [step, Option.ite_none_right_eq_some] at taken
      rcases taken with ⟨enabled_, moved⟩
      rcases Option.map_eq_some_iff.mp moved with ⟨moved, taken, rfl⟩
      cases event with
      | clock now =>
          obtain rfl := Option.some.inj taken
          exact fun _ => .same
      | createJob jobId request connected scheduled => cases enabled_
      | getJob =>
          obtain rfl := Option.some.inj taken
          exact moves_reap table handovers _
      | begin jobId =>
          apply moves_begin _ taken
          simpa [enabled, InsertionMap.has] using enabled_
      | commissioned jobId node => exact moves_commissioned taken
      | descriptorsRead jobId => exact moves_descriptorsRead taken
      | devicesCreated jobId => exact moves_devicesCreated taken
      | failed jobId failure armed => exact moves_failed taken
      | nodeRemoved jobId => exact moves_nodeRemoved taken
      | cancelled jobId =>
          apply moves_cancelled _ taken
          simpa [enabled, InsertionMap.has] using enabled_
      | nodeAdded node scheduled => cases enabled_
      | lateAnswer jobId answer =>
          obtain rfl := Option.some.inj taken
          exact moves_noteLateResponse enabled_
      | windowClosed jobId known => exact moves_windowClosed taken
      | orphanSettled jobId => exact moves_watchEnded taken
      | watchCancelled jobId => exact moves_watchEnded taken

end JobHistory

end IndigoMatter.Plugin
