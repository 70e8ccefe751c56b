import IndigoMatter.Plugin.JobGraph

/-!
# Clean-up and ownership

A failed job removes its node from the fabric, and so does the watchdog of a job
whose window has closed.  Both look for another owner and mark the node in one locked
region, and a node that joins is not claimed while it is marked.  But a commission
answer names a node without looking at the marks, and the marks are a set: a second
clean-up of the same node takes the mark of the first with it.
-/

namespace IndigoMatter.Plugin

open IndigoMatter.Library

/-- Who removes a node: the coroutine of a job, or its watchdog. -/
inductive Remover
  | worker (jobId : JobId)
  | watchdog (jobId : JobId)
deriving DecidableEq

/-- The node whose removal a coroutine waits for. -/
def Stage.removal : Stage → Option NodeId
  | .removing node _ => some node
  | .scheduled | .commissioning | .reading _ | .creating _ | .claimed _ | .reconciling _ => none

/-- The node whose removal a watchdog waits for. -/
def WatchStage.removal : WatchStage → Option NodeId
  | .removing node => some node
  | .sleeping => none

namespace CommissionJobs

/-- The removal a remover has in flight. -/
def removal (table : CommissionJobs) : Remover → Option NodeId
  | .worker jobId => (table.tasks.get? jobId).bind Stage.removal
  | .watchdog jobId => (table.watchdogs.get? jobId).bind WatchStage.removal

/-- All removals in flight. -/
def removals (table : CommissionJobs) : List (Remover × NodeId) :=
  (table.tasks.entries.filterMap fun entry =>
      entry.2.removal.map fun node => (.worker entry.1, node)) ++
    table.watchdogs.entries.filterMap fun entry =>
      entry.2.removal.map fun node => (.watchdog entry.1, node)

theorem mem_removals {table : CommissionJobs} {remover : Remover} {node : NodeId} :
    (remover, node) ∈ table.removals ↔ table.removal remover = some node := by
  cases remover with
  | worker jobId =>
      simp [removals, removal, InsertionMap.mem_entries_iff, Option.bind_eq_some_iff]
  | watchdog jobId =>
      simp [removals, removal, InsertionMap.mem_entries_iff, Option.bind_eq_some_iff]

/-- The clean-up of a closed window would go on to check a node. -/
def cleansUp (table : CommissionJobs) (jobId : JobId) (node : NodeId) : Bool :=
  (table.jobs.get? jobId).any (fun job =>
      decide (job.status = .failed ∧ job.reportsTimeout = true ∧ job.nodeId = some node)) &&
    !table.heldByOther jobId node

/-- No other removal of its node is in flight when a remover is done. -/
def settlesAlone (table : CommissionJobs) (remover : Remover) : Bool :=
  table.removals.all fun own => table.removals.all fun other =>
    decide (own.1 = remover → other.2 = own.2 → other.1 = remover)

end CommissionJobs

namespace JobHistory

/-- While a removal of a node is in flight, nobody else who has not failed holds the
node, it is not claimed, and the nodes in flight are the marked ones. -/
structure RemovesSafely (state : JobHistory) : Prop where
  owner : ∀ remover node, state.table.removal remover = some node → ∀ jobId job,
    state.table.jobs.get? jobId = some job → job.nodeId = some node → job.status ≠ .failed →
      remover = .worker jobId
  unclaimed : ∀ remover node, state.table.removal remover = some node → ∀ cutoff,
    state.table.claimable node cutoff = none
  marked : ∀ node, node ∈ state.table.removing ↔
    ∃ remover, state.table.removal remover = some node

/-- A commission answer names no node whose removal is in flight, a clean-up spares no
such node, and a removal is not done while another one of its node is in flight. -/
def undisturbed (state : JobHistory) : HistoryEvent → Bool
  | .job (.commissioned _ (some node)) =>
      state.table.removals.all fun removal => decide (removal.2 ≠ node)
  | .job (.windowClosed jobId true) =>
      state.table.removals.all fun removal => !state.table.cleansUp jobId removal.2
  | .job (.nodeRemoved jobId) | .job (.cancelled jobId) =>
      state.table.settlesAlone (.worker jobId)
  | .job (.orphanSettled jobId) | .job (.watchCancelled jobId) =>
      state.table.settlesAlone (.watchdog jobId)
  | _ => true

/-! ## What an event does to the removals -/

/-- A removal is over, and the mark of its node is gone. -/
structure Settles (table moved : CommissionJobs) (remover : Remover) (node : NodeId) : Prop where
  flies : table.removal remover = some node
  marks : moved.removing = table.removing.filter (· ≠ node)
  removals : ∀ other, moved.removal other = if other = remover then none else table.removal other

/-- The removals in flight and the marks, before and after. -/
inductive RemovalMove (state : JobHistory) : HistoryEvent → JobHistory → Prop
  | quiet {event next} (marks : next.table.removing = state.table.removing)
      (removals : ∀ remover, next.table.removal remover = state.table.removal remover) :
      RemovalMove state event next
  | starts {event next} (jobId : JobId) (remover : Remover) (node : NodeId)
      (free : state.table.heldByOther jobId node = false)
      (own : remover = .worker jobId ∨
        ∃ job, state.table.jobs.get? jobId = some job ∧ job.status = .failed)
      (jobs : next.table.jobs = state.table.jobs)
      (marks : next.table.removing = state.table.removing.insert node)
      (removals : ∀ other, next.table.removal other =
        if other = remover then some node else state.table.removal other)
      (idle : state.table.removal remover = none) :
      RemovalMove state (.job event) next
  | settles {event next remover node} (settles : Settles state.table next.table remover node)
      (alone : state.undisturbed (.job event) = state.table.settlesAlone remover) :
      RemovalMove state (.job event) next
  | spares {next} (jobId : JobId) (node : NodeId)
      (cleans : state.table.cleansUp jobId node = true)
      (marks : next.table.removing = state.table.removing.filter (· ≠ node))
      (removals : ∀ remover, next.table.removal remover = state.table.removal remover) :
      RemovalMove state (.job (.windowClosed jobId true)) next

section Parts

variable (table : CommissionJobs) (jobId : JobId) (remover : Remover)

@[simp]
theorem removal_modify (f : Job → Job) :
    (table.modify jobId f).removal remover = table.removal remover := by
  rw [CommissionJobs.modify_eq]
  cases remover <;> rfl

@[simp]
theorem removal_endTask :
    (table.endTask jobId).removal remover =
      if remover = .worker jobId then none else table.removal remover := by
  cases remover with
  | worker other =>
      simp only [CommissionJobs.removal, CommissionJobs.endTask, InsertionMap.get?_delete,
        Remover.worker.injEq]
      split <;> rfl
  | watchdog other => simp [CommissionJobs.removal, CommissionJobs.endTask]

@[simp]
theorem removal_await (stage : Stage) :
    (table.await jobId stage).removal remover =
      if remover = .worker jobId then stage.removal else table.removal remover := by
  cases remover with
  | worker other =>
      simp only [CommissionJobs.removal, CommissionJobs.await, InsertionMap.get?_set,
        Remover.worker.injEq]
      split <;> rfl
  | watchdog other => simp [CommissionJobs.removal, CommissionJobs.await]

@[simp]
theorem removal_endWatch :
    (table.endWatch jobId).removal remover =
      if remover = .watchdog jobId then none else table.removal remover := by
  cases remover with
  | worker other => simp [CommissionJobs.removal, CommissionJobs.endWatch]
  | watchdog other =>
      simp only [CommissionJobs.removal, CommissionJobs.endWatch, InsertionMap.get?_delete,
        Remover.watchdog.injEq]
      split <;> rfl

theorem removal_setWatch (stage : WatchStage) :
    ({ table with watchdogs := table.watchdogs.set jobId stage } : CommissionJobs).removal remover =
      if remover = .watchdog jobId then stage.removal else table.removal remover := by
  cases remover with
  | worker other => simp [CommissionJobs.removal]
  | watchdog other =>
      simp only [CommissionJobs.removal, InsertionMap.get?_set, Remover.watchdog.injEq]
      split <;> rfl

@[simp]
theorem removal_apply (node : NodeId) :
    (table.apply jobId node).removal remover = table.removal remover := by
  unfold CommissionJobs.apply
  cases remover <;> split <;> rfl

end Parts

variable {table moved : CommissionJobs} {handovers : InsertionMap JobId Handover} {jobId : JobId}

theorem removal_congr (tasks : moved.tasks = table.tasks)
    (watchdogs : moved.watchdogs = table.watchdogs) (remover : Remover) :
    moved.removal remover = table.removal remover := by
  cases remover with
  | worker jobId => rw [CommissionJobs.removal, CommissionJobs.removal, tasks]
  | watchdog jobId => rw [CommissionJobs.removal, CommissionJobs.removal, watchdogs]

@[simp]
theorem removing_modify (f : Job → Job) : (table.modify jobId f).removing = table.removing := by
  rw [CommissionJobs.modify_eq]

@[simp]
theorem removing_apply (node : NodeId) : (table.apply jobId node).removing = table.removing := by
  unfold CommissionJobs.apply
  split <;> rfl

theorem removal_of_task {stage : Stage} (waits : table.tasks.get? jobId = some stage) :
    table.removal (.worker jobId) = stage.removal := by
  rw [CommissionJobs.removal, waits, Option.bind_some]

theorem removal_of_watch {stage : WatchStage} (waits : table.watchdogs.get? jobId = some stage) :
    table.removal (.watchdog jobId) = stage.removal := by
  rw [CommissionJobs.removal, waits, Option.bind_some]

/-- A job holds a node against another one exactly when `heldByOther` finds it. -/
theorem only_holder {node : NodeId} (free : table.heldByOther jobId node = false) {other : JobId}
    {job : Job} (stored : table.jobs.get? other = some job) (holds : job.nodeId = some node)
    (running : job.status ≠ .failed) : other = jobId := by
  by_contra different
  have held : table.heldByOther jobId node = true := by
    rw [CommissionJobs.heldByOther, List.any_eq_true]
    exact ⟨(other, job), InsertionMap.mem_entries_iff.mpr stored,
      decide_eq_true ⟨different, holds, running⟩⟩
  rw [free] at held
  cases held

/-! ### The worker -/

/-- A coroutine that removes nothing waits for something else that is no removal. -/
theorem quiet_await {event : HistoryEvent} {stage : Stage} {started : CommissionJobs}
    (idle : table.removal (.worker jobId) = none) (stays : stage.removal = none)
    (marks : started.removing = table.removing)
    (same : ∀ remover, started.removal remover = table.removal remover) :
    RemovalMove ⟨table, handovers⟩ event ⟨started.await jobId stage, handovers⟩ := by
  apply RemovalMove.quiet marks
  intro remover
  change (started.await jobId stage).removal remover = table.removal remover
  rw [removal_await, stays, same]
  split
  · rename_i own
    rw [own, idle]
  · rfl

/-- A coroutine that removes nothing is over. -/
theorem quiet_endTask {event : HistoryEvent} {started : CommissionJobs}
    {later : InsertionMap JobId Handover} (idle : table.removal (.worker jobId) = none)
    (marks : started.removing = table.removing)
    (same : ∀ remover, started.removal remover = table.removal remover) :
    RemovalMove ⟨table, handovers⟩ event ⟨started.endTask jobId, later⟩ := by
  apply RemovalMove.quiet marks
  intro remover
  change (started.endTask jobId).removal remover = table.removal remover
  rw [removal_endTask, same]
  split
  · rename_i own
    rw [own, idle]
  · rfl

theorem quiet_land {event : HistoryEvent} {error : JobError}
    (idle : table.removal (.worker jobId) = none) :
    RemovalMove ⟨table, handovers⟩ event ⟨table.land jobId error, handovers⟩ :=
  quiet_endTask idle (removing_modify _) fun remover => removal_modify table jobId remover _

theorem removalMove_fail {event : JobEvent} {error : JobError} {node : Option NodeId}
    (idle : table.removal (.worker jobId) = none) :
    RemovalMove ⟨table, handovers⟩ (.job event) ⟨table.fail jobId error node, handovers⟩ := by
  unfold CommissionJobs.fail
  split
  · exact quiet_land idle
  · rename_i node
    split
    · exact quiet_land idle
    · rename_i free
      apply RemovalMove.starts jobId (.worker jobId) node
      · simpa using free
      · exact .inl rfl
      · rfl
      · rfl
      · exact fun other => removal_await (table.addRemoving node) jobId other (.removing node error)
      · exact idle

theorem removalMove_handle {event : JobEvent} {failure : Failure} {armed : Bool}
    {node : Option NodeId} (idle : table.removal (.worker jobId) = none)
    (unwatched : node = none → table.removal (.watchdog jobId) = none) :
    RemovalMove ⟨table, handovers⟩ (.job event)
      ⟨table.handle jobId failure armed node, handovers⟩ := by
  unfold CommissionJobs.handle
  split
  · exact quiet_land idle
  · dsimp only
    split
    · -- the watchdog that is armed sleeps
      apply RemovalMove.quiet (removing_modify _)
      intro remover
      dsimp only
      rw [removal_setWatch, CommissionJobs.land, removal_endTask, removal_modify]
      split
      · rename_i own
        rw [own, unwatched rfl]
        rfl
      · split
        · rename_i own
          rw [own, idle]
        · rfl
    · exact quiet_land idle
  · exact removalMove_fail idle
  · exact removalMove_fail idle

theorem removalMove_begin {event : HistoryEvent} (taken : table.begin jobId = some moved) :
    RemovalMove ⟨table, handovers⟩ event ⟨moved, handovers⟩ := by
  unfold CommissionJobs.begin at taken
  split at taken
  · rename_i waits
    obtain rfl := Option.some.inj taken
    exact quiet_await (removal_of_task waits) rfl (removing_modify _)
      fun remover => removal_modify table jobId remover _
  · rename_i node waits
    obtain rfl := Option.some.inj taken
    exact quiet_await (removal_of_task waits) rfl (removing_apply node)
      fun remover => removal_apply table jobId remover node
  · cases taken

theorem removalMove_commissioned {node : Option NodeId}
    (taken : table.commissioned jobId node = some moved) :
    RemovalMove ⟨table, handovers⟩ (.job (.commissioned jobId node)) ⟨moved, handovers⟩ := by
  unfold CommissionJobs.commissioned at taken
  split at taken
  · rename_i waits
    obtain rfl := Option.some.inj taken
    exact removalMove_fail (removal_of_task waits)
  · rename_i node waits
    obtain rfl := Option.some.inj taken
    exact quiet_await (removal_of_task waits) rfl (removing_modify _)
      fun remover => removal_modify table jobId remover _
  · cases taken

theorem removalMove_descriptorsRead {event : HistoryEvent}
    (taken : table.descriptorsRead jobId = some moved) :
    RemovalMove ⟨table, handovers⟩ event ⟨moved, handovers⟩ := by
  unfold CommissionJobs.descriptorsRead at taken
  split at taken
  · rename_i node waits
    obtain rfl := Option.some.inj taken
    apply quiet_await (removal_of_task waits) rfl
    · rw [removing_apply, removing_modify]
    · intro remover
      rw [removal_apply, removal_modify]
  · cases taken

theorem quiet_succeed {event : HistoryEvent} {node : NodeId} {message : String}
    (idle : table.removal (.worker jobId) = none) :
    RemovalMove ⟨table, handovers⟩ event ⟨table.succeed jobId node message, handovers⟩ :=
  quiet_endTask idle (removing_modify _) fun remover => removal_modify table jobId remover _

theorem removalMove_devicesCreated {event : HistoryEvent}
    (taken : table.devicesCreated jobId = some moved) :
    RemovalMove ⟨table, handovers⟩ event ⟨moved, handovers⟩ := by
  unfold CommissionJobs.devicesCreated at taken
  split at taken
  · rename_i node waits
    obtain rfl := Option.some.inj taken
    exact quiet_succeed (removal_of_task waits)
  · rename_i node waits
    obtain rfl := Option.some.inj taken
    exact quiet_succeed (removal_of_task waits)
  · cases taken

theorem removalMove_failed {event : JobEvent} {failure : Failure} {armed : Bool}
    (unwatched : table.tasks.get? jobId = some .commissioning →
      table.watchdogs.get? jobId = none)
    (taken : table.failed jobId failure armed = some moved) :
    RemovalMove ⟨table, handovers⟩ (.job event) ⟨moved, handovers⟩ := by
  unfold CommissionJobs.failed at taken
  split at taken
  · rename_i waits
    obtain rfl := Option.some.inj taken
    apply removalMove_handle (removal_of_task waits)
    intro _
    rw [CommissionJobs.removal, unwatched waits, Option.bind_none]
  · rename_i node waits
    obtain rfl := Option.some.inj taken
    exact removalMove_handle (removal_of_task waits) (by simp)
  · rename_i node waits
    obtain rfl := Option.some.inj taken
    exact removalMove_handle (removal_of_task waits) (by simp)
  · rename_i node waits
    obtain rfl := Option.some.inj taken
    exact quiet_land (removal_of_task waits)
  · cases taken

/-! ### The end of a removal -/

/-- A coroutine that removes no node leaves the marks alone when it is over. -/
theorem settlesAlone_of_idle {remover : Remover} (idle : table.removal remover = none) :
    table.settlesAlone remover = true := by
  rw [CommissionJobs.settlesAlone, List.all_eq_true]
  intro own member
  rw [List.all_eq_true]
  intro other _
  apply decide_eq_true
  intro same
  rw [← same, show table.removal own.1 = some own.2 from CommissionJobs.mem_removals.mp member] at idle
  cases idle

theorem settles_nodeRemoved (taken : table.nodeRemoved jobId = some moved) :
    ∃ node, Settles table moved (.worker jobId) node := by
  unfold CommissionJobs.nodeRemoved at taken
  split at taken
  · rename_i node error waits
    obtain rfl := Option.some.inj taken
    refine ⟨node, removal_of_task waits, ?_, fun other => ?_⟩
    · exact removing_modify _
    · rw [CommissionJobs.land, removal_endTask, removal_modify]
      rfl
  · cases taken

/-- A coroutine that is cancelled settles the removal it waits for. -/
theorem settles_cancelled {node : NodeId} (flies : table.removal (.worker jobId) = some node)
    (taken : table.cancelled jobId = some moved) : Settles table moved (.worker jobId) node := by
  rcases Option.bind_eq_some_iff.mp flies with ⟨stage, waits, removes⟩
  cases stage with
  | removing other error =>
      obtain rfl : other = node := Option.some.inj removes
      rw [CommissionJobs.cancelled, waits] at taken
      obtain rfl := Option.some.inj taken
      exact ⟨flies, rfl, removal_endTask (table.discardRemoving other) jobId⟩
  | scheduled | commissioning | reading | creating | claimed | reconciling => cases removes

theorem settles_watchEnded {node : NodeId} {settled : Bool}
    (flies : table.removal (.watchdog jobId) = some node)
    (taken : table.watchEnded jobId settled = some moved) :
    Settles table moved (.watchdog jobId) node := by
  rcases Option.bind_eq_some_iff.mp flies with ⟨stage, waits, removes⟩
  cases stage with
  | removing other =>
      obtain rfl : other = node := Option.some.inj removes
      rw [CommissionJobs.watchEnded, waits] at taken
      obtain rfl := Option.some.inj taken
      exact ⟨flies, rfl, removal_endWatch (table.discardRemoving other) jobId⟩
  | sleeping => cases removes

theorem removalMove_cancelled (taken : table.cancelled jobId = some moved) :
    RemovalMove ⟨table, handovers⟩ (.job (.cancelled jobId)) ⟨moved, handovers⟩ := by
  cases flies : table.removal (.worker jobId) with
  | some node => exact .settles (settles_cancelled flies taken) rfl
  | none =>
      unfold CommissionJobs.cancelled at taken
      split at taken
      · cases taken
      · obtain rfl := Option.some.inj taken
        exact quiet_endTask flies rfl fun _ => rfl
      · obtain rfl := Option.some.inj taken
        exact quiet_endTask flies rfl fun _ => rfl
      · obtain rfl := Option.some.inj taken
        exact quiet_endTask flies rfl fun _ => rfl
      · rename_i node error waits
        cases flies.symm.trans (removal_of_task waits)
      · obtain rfl := Option.some.inj taken
        exact quiet_land flies
      · obtain rfl := Option.some.inj taken
        exact quiet_land flies
      · obtain rfl := Option.some.inj taken
        exact quiet_land flies

/-! ### The watchdog -/

/-- A watchdog that removes nothing is over. -/
theorem quiet_endWatch {event : HistoryEvent} (idle : table.removal (.watchdog jobId) = none) :
    RemovalMove ⟨table, handovers⟩ event ⟨table.endWatch jobId, handovers⟩ := by
  apply RemovalMove.quiet
  · rfl
  · intro remover
    change (table.endWatch jobId).removal remover = table.removal remover
    rw [removal_endWatch]
    split
    · rename_i own
      rw [own, idle]
    · rfl

theorem removalMove_watchEnded {event : JobEvent} {settled : Bool}
    (alone : (⟨table, handovers⟩ : JobHistory).undisturbed (.job event) =
      table.settlesAlone (.watchdog jobId))
    (taken : table.watchEnded jobId settled = some moved) :
    RemovalMove ⟨table, handovers⟩ (.job event) ⟨moved, handovers⟩ := by
  cases flies : table.removal (.watchdog jobId) with
  | some node => exact .settles (settles_watchEnded flies taken) alone
  | none =>
      unfold CommissionJobs.watchEnded at taken
      split at taken
      · split at taken
        · cases taken
        · obtain rfl := Option.some.inj taken
          exact quiet_endWatch flies
      · rename_i node waits
        cases flies.symm.trans (removal_of_watch waits)
      · cases taken

/-- A clean-up that finds the node among those of Indigo takes its mark away. -/
theorem spares_windowClosed {node : NodeId} (cleans : table.cleansUp jobId node = true)
    (taken : table.windowClosed jobId true = some moved) :
    moved = (table.discardRemoving node).endWatch jobId := by
  rw [CommissionJobs.cleansUp, Bool.and_eq_true, Option.any_eq_true] at cleans
  rcases cleans with ⟨⟨job, stored, expired⟩, free⟩
  rcases of_decide_eq_true expired with ⟨failed, timedOut, named⟩
  have free : table.heldByOther jobId node = false := by simpa using free
  simp only [CommissionJobs.windowClosed, stored, failed, timedOut, named] at taken
  split at taken
  · simpa [free] using taken.symm
  · cases taken

theorem removalMove_windowClosed {known : Bool}
    (taken : table.windowClosed jobId known = some moved) :
    RemovalMove ⟨table, handovers⟩ (.job (.windowClosed jobId known)) ⟨moved, handovers⟩ := by
  unfold CommissionJobs.windowClosed at taken
  split at taken
  · rename_i sleeps
    have idle : table.removal (.watchdog jobId) = none := removal_of_watch sleeps
    split at taken
    · obtain rfl := Option.some.inj taken
      exact quiet_endWatch idle
    · rename_i job stored
      split at taken
      · obtain rfl := Option.some.inj taken
        exact quiet_endWatch idle
      · rename_i expired
        push Not at expired
        split at taken
        · obtain rfl := Option.some.inj taken
          exact quiet_endWatch idle
        · rename_i node named
          split at taken
          · obtain rfl := Option.some.inj taken
            exact quiet_endWatch idle
          · rename_i free
            have free : table.heldByOther jobId node = false := by simpa using free
            split at taken
            · rename_i tracked
              obtain rfl : known = true := tracked
              obtain rfl := Option.some.inj taken
              apply RemovalMove.spares jobId node
              · simp [CommissionJobs.cleansUp, stored, expired, named, free]
              · rfl
              · intro remover
                change ((table.discardRemoving node).endWatch jobId).removal remover = _
                rw [removal_endWatch]
                split
                · rename_i own
                  rw [own]
                  exact idle.symm
                · rfl
            · obtain rfl := Option.some.inj taken
              apply RemovalMove.starts jobId (.watchdog jobId) node free
              · exact .inr ⟨job, stored, expired.1⟩
              · rfl
              · rfl
              · exact fun other =>
                  removal_setWatch (table.addRemoving node) jobId other (.removing node)
              · exact idle
  · cases taken

/-! ### Every event -/

/-- A job whose request is still to be answered has no watchdog yet. -/
def Unwatched (view : View) : Prop :=
  view.task = some .scheduled ∨ view.task = some .commissioning → view.watch = none

theorem unwatched_move {state : JobHistory} {event : HistoryEvent} {view next : View}
    (move : JobMove state jobId event view next) (coherent : Coherent view)
    (holds : Unwatched view) : Unwatched next := by
  cases move with
  | same | reaped | taken | lateError | lateSuccess => exact holds
  | entered => exact fun _ => rfl
  | began => exact fun _ => holds (.inl rfl)
  | watchEnds => exact fun _ => rfl
  | dropped | restored | reconciles | commissioned | read | succeeded | landed | removes | cancelled
  | claimed => simp [Unwatched]
  | watchRemoves failed timedOut known free =>
      rw [Unwatched, noTask_of_failed coherent failed]
      simp

theorem removalMove_of_step {state next : JobHistory} {event : HistoryEvent}
    (coherent : ∀ jobId, Coherent (state.view jobId))
    (unwatched : ∀ jobId, Unwatched (state.view jobId)) (taken : step state event = some next) :
    RemovalMove state event next := by
  rcases state with ⟨table, handovers⟩
  cases event with
  | createJob jobId request connected =>
      rw [step, Option.ite_none_right_eq_some, Bool.and_eq_true] at taken
      obtain rfl := Option.some.inj taken.2
      have forgets := forgets_reap table
      cases connected with
      | false => exact .quiet rfl fun _ => rfl
      | true =>
          rcases createJob_cases table handovers jobId request with ⟨-, same⟩ | ⟨-, same⟩
          · rw [same]
            exact .quiet forgets.removing (removal_congr forgets.tasks forgets.watchdogs)
          · rw [same]
            have idle : table.removal (.worker jobId) = none := by
              rw [CommissionJobs.removal, (absent_of_unused taken.1.1).2.1, Option.bind_none]
            apply RemovalMove.quiet forgets.removing
            intro remover
            have awaits := removal_await table.reap jobId remover .scheduled
            rw [removal_congr forgets.tasks forgets.watchdogs] at awaits
            apply awaits.trans
            split
            · rename_i own
              rw [own, idle]
              rfl
            · rfl
  | nodeAdded node =>
      obtain rfl := Option.some.inj taken
      unfold nodeAdded
      split
      · exact .quiet rfl fun _ => rfl
      · rename_i jobId job claims
        rcases CommissionJobs.claimable_spec claims with ⟨-, stored, candidate, -⟩
        have failed : job.status = .failed := by
          simp only [CommissionJobs.isCandidate, Bool.and_eq_true, decide_eq_true_eq] at candidate
          exact candidate.1.1
        have fits := coherent jobId
        rw [view, stored] at fits
        have idle : table.removal (.worker jobId) = none := by
          rw [CommissionJobs.removal, noTask_of_failed fits failed, Option.bind_none]
        simp only [CommissionJobs.reconcileNodeAdded, claims, if_true]
        apply RemovalMove.quiet
        · rfl
        · intro remover
          apply (removal_await table jobId remover (.claimed node)).trans
          split
          · rename_i own
            rw [own, idle]
            rfl
          · rfl
  | handedOver jobId scheduled =>
      rcases Option.map_eq_some_iff.mp taken with ⟨handover, waits, rfl⟩
      have pending := (coherent jobId).handover handover waits
      cases scheduled with
      | true => exact .quiet rfl fun _ => rfl
      | false =>
          cases handover with
          | created setupCode =>
              have idle : table.removal (.worker jobId) = none := removal_of_task pending
              -- dropping a job ends its coroutine, and neither a mark nor a watchdog
              let untouched : CommissionJobs :=
                { drop jobId setupCode table with tasks := table.tasks }
              have ended : RemovalMove ⟨table, handovers⟩ (.handedOver jobId false)
                  ⟨untouched.endTask jobId, handovers.delete jobId⟩ :=
                quiet_endTask idle rfl fun _ => rfl
              exact ended
          | claimed priors =>
              rcases pending with ⟨node, claimed, -⟩
              have idle : table.removal (.worker jobId) = none := removal_of_task claimed
              exact quiet_endTask idle (removing_modify _)
                fun remover => removal_modify table jobId remover _
  | job event =>
      rw [step, Option.ite_none_right_eq_some] at taken
      rcases taken with ⟨enabled_, moved⟩
      rcases Option.map_eq_some_iff.mp moved with ⟨moved, taken, rfl⟩
      cases event with
      | createJob | nodeAdded => cases enabled_
      | clock now =>
          obtain rfl := Option.some.inj taken
          exact .quiet rfl fun _ => rfl
      | getJob =>
          obtain rfl := Option.some.inj taken
          have forgets := forgets_reap table
          exact .quiet forgets.removing (removal_congr forgets.tasks forgets.watchdogs)
      | begin jobId => exact removalMove_begin taken
      | commissioned jobId node => exact removalMove_commissioned taken
      | descriptorsRead jobId => exact removalMove_descriptorsRead taken
      | devicesCreated jobId => exact removalMove_devicesCreated taken
      | failed jobId failure armed =>
          exact removalMove_failed (fun waits => unwatched jobId (.inr waits)) taken
      | nodeRemoved jobId =>
          rcases settles_nodeRemoved taken with ⟨node, settles⟩
          exact .settles settles rfl
      | cancelled jobId => exact removalMove_cancelled taken
      | lateAnswer jobId answer =>
          obtain rfl := Option.some.inj taken
          unfold CommissionJobs.noteLateResponse
          split
          · exact .quiet (removing_modify _) fun remover => removal_modify table jobId remover _
          · exact .quiet rfl fun _ => rfl
          · exact .quiet (removing_modify _) fun remover => removal_modify table jobId remover _
      | windowClosed jobId known => exact removalMove_windowClosed taken
      | orphanSettled jobId => exact removalMove_watchEnded rfl taken
      | watchCancelled jobId => exact removalMove_watchEnded rfl taken

/-! ## Who comes to hold a node -/

variable {state next : JobHistory} {event : HistoryEvent} {events : List HistoryEvent}

/-- Who holds a node has held it before, or has got it by a commission answer or by a
claim. -/
theorem holder_of_move {view after : View} (move : JobMove state jobId event view after)
    (coherent : Coherent view) {changed : Job} (stored : after.job = some changed) {node : NodeId}
    (holds : changed.nodeId = some node) (running : changed.status ≠ .failed) :
    (∃ job, view.job = some job ∧ job.nodeId = some node ∧ job.status ≠ .failed) ∨
      event = .job (.commissioned jobId (some node)) ∨
      ∃ job, event = .nodeAdded node ∧
        state.table.claimable node state.table.cutoff = some (jobId, job) := by
  cases move with
  | same | taken | reconciles | removes | cancelled | watchEnds =>
      exact .inl ⟨changed, stored, holds, running⟩
  | watchRemoves => exact .inl ⟨changed, stored, holds, running⟩
  | reaped | dropped => cases stored
  | entered =>
      obtain rfl := Option.some.inj stored
      cases holds
  | restored =>
      rcases Option.map_eq_some_iff.mp stored with ⟨job, -, rfl⟩
      exact absurd rfl running
  | landed =>
      rcases Option.map_eq_some_iff.mp stored with ⟨job, -, rfl⟩
      exact absurd rfl running
  | began | read | succeeded =>
      rcases coherent.task _ rfl with ⟨job, found, -⟩
      cases found
      obtain rfl := Option.some.inj stored
      refine .inl ⟨job, rfl, holds, fun failed => ?_⟩
      have awaited := coherent.not_terminal rfl rfl
      rw [failed] at awaited
      cases awaited
  | commissioned =>
      rcases Option.map_eq_some_iff.mp stored with ⟨job, -, rfl⟩
      obtain rfl := Option.some.inj holds
      exact .inr (.inl rfl)
  | claimed claims =>
      obtain rfl := Option.some.inj stored
      obtain rfl := Option.some.inj holds
      exact .inr (.inr ⟨_, rfl, claims⟩)
  | lateError failed timedOut =>
      obtain rfl := Option.some.inj stored
      exact absurd failed running
  | lateSuccess unknown sent unawaited =>
      obtain rfl := Option.some.inj stored
      exact absurd (failed_of_unknown coherent unknown sent unawaited) running

/-! ## The law, step by step -/

/-- Nodes with a mark are not claimed. -/
theorem claimable_of_marked {node : NodeId} (marked : node ∈ table.removing) (cutoff : Nat) :
    table.claimable node cutoff = none := by
  cases claims : table.claimable node cutoff with
  | none => rfl
  | some entry => exact absurd marked (CommissionJobs.claimable_spec claims).1

theorem removesSafely_of_marked
    (owner : ∀ remover node, state.table.removal remover = some node → ∀ jobId job,
      state.table.jobs.get? jobId = some job → job.nodeId = some node → job.status ≠ .failed →
        remover = .worker jobId)
    (marked : ∀ node, node ∈ state.table.removing ↔
      ∃ remover, state.table.removal remover = some node) : state.RemovesSafely :=
  ⟨owner, fun remover node flies => claimable_of_marked ((marked node).mpr ⟨remover, flies⟩),
    marked⟩

theorem no_removal_of_undisturbed {node : NodeId}
    (undisturbed : state.undisturbed (.job (.commissioned jobId (some node))) = true)
    (remover : Remover) : state.table.removal remover ≠ some node := by
  intro flies
  have other := List.all_eq_true.mp undisturbed (remover, node) (CommissionJobs.mem_removals.mpr flies)
  exact of_decide_eq_true other rfl

/-- A removal that was in flight before goes on without another owner. -/
theorem owner_step (coherent : ∀ jobId, Coherent (state.view jobId)) (holds : state.RemovesSafely)
    (undisturbed : state.undisturbed event = true) (taken : step state event = some next)
    {remover : Remover} {node : NodeId} (flies : state.table.removal remover = some node)
    {jobId : JobId} {job : Job} (stored : next.table.jobs.get? jobId = some job)
    (named : job.nodeId = some node) (running : job.status ≠ .failed) :
    remover = .worker jobId := by
  have move := moves_of_step taken jobId
  rcases holder_of_move move (coherent jobId) stored named running with
    ⟨before, found, held, active⟩ | rfl | ⟨claimed, rfl, claims⟩
  · exact holds.owner remover node flies jobId before found held active
  · exact absurd flies (no_removal_of_undisturbed undisturbed remover)
  · rw [holds.unclaimed remover node flies] at claims
    cases claims

theorem only_removal {remover other : Remover} {node : NodeId}
    (alone : table.settlesAlone remover = true) (flies : table.removal remover = some node)
    (beside : table.removal other = some node) : other = remover := by
  have own := List.all_eq_true.mp alone (remover, node) (CommissionJobs.mem_removals.mpr flies)
  have rival := List.all_eq_true.mp own (other, node) (CommissionJobs.mem_removals.mpr beside)
  exact of_decide_eq_true rival rfl rfl

theorem no_removal_of_cleansUp {node : NodeId} (cleans : state.table.cleansUp jobId node = true)
    (undisturbed : state.undisturbed (.job (.windowClosed jobId true)) = true)
    (remover : Remover) : state.table.removal remover ≠ some node := by
  intro flies
  have other := List.all_eq_true.mp undisturbed (remover, node) (CommissionJobs.mem_removals.mpr flies)
  simp [cleans] at other

theorem removesSafely_step (coherent : ∀ jobId, Coherent (state.view jobId))
    (unwatched : ∀ jobId, Unwatched (state.view jobId)) (holds : state.RemovesSafely)
    (undisturbed : state.undisturbed event = true) (taken : step state event = some next) :
    next.RemovesSafely := by
  have owned {remover : Remover} {node : NodeId} :=
    @owner_step state next event coherent holds undisturbed taken remover node
  cases removalMove_of_step coherent unwatched taken with
  | quiet marks removals =>
      apply removesSafely_of_marked
      · intro remover node flies jobId job
        exact owned ((removals remover).symm.trans flies)
      · intro node
        rw [marks, holds.marked]
        simp only [removals]
  | starts jobId remover node free own jobs marks removals idle =>
      apply removesSafely_of_marked
      · intro other named flies holder job stored
        rw [removals] at flies
        split at flies
        · rename_i same
          obtain rfl := Option.some.inj flies
          intro held running
          rw [jobs] at stored
          obtain rfl := only_holder free stored held running
          rcases own with own | ⟨failed, found, status⟩
          · exact same.trans own
          · obtain rfl := Option.some.inj (stored.symm.trans found)
            exact absurd status running
        · exact owned flies stored
      · intro named
        rw [marks, List.mem_insert_iff, holds.marked]
        constructor
        · rintro (rfl | ⟨other, flies⟩)
          · exact ⟨remover, by rw [removals, if_pos rfl]⟩
          · refine ⟨other, ?_⟩
            rw [removals, if_neg, flies]
            rintro rfl
            rw [idle] at flies
            cases flies
        · rintro ⟨other, flies⟩
          rw [removals] at flies
          split at flies
          · exact .inl (Option.some.inj flies).symm
          · exact .inr ⟨other, flies⟩
  | settles settles alone =>
      rename_i settled remover node
      rw [undisturbed] at alone
      apply removesSafely_of_marked
      · intro other named flies jobId job
        rw [settles.removals] at flies
        split at flies
        · cases flies
        · exact owned flies
      · intro named
        rw [settles.marks, List.mem_filter, holds.marked, decide_eq_true_eq]
        constructor
        · rintro ⟨⟨other, flies⟩, different⟩
          refine ⟨other, ?_⟩
          rw [settles.removals, if_neg, flies]
          rintro rfl
          exact different (Option.some.inj (flies.symm.trans settles.flies))
        · rintro ⟨other, flies⟩
          rw [settles.removals] at flies
          split at flies
          · cases flies
          · rename_i different
            refine ⟨⟨other, flies⟩, ?_⟩
            rintro rfl
            exact different (only_removal alone.symm settles.flies flies)
  | spares jobId node cleans marks removals =>
      have unmarked := no_removal_of_cleansUp cleans undisturbed
      apply removesSafely_of_marked
      · intro remover named flies holder job
        exact owned ((removals remover).symm.trans flies)
      · intro named
        rw [marks, List.mem_filter, holds.marked, decide_eq_true_eq]
        simp only [removals]
        constructor
        · exact And.left
        · rintro ⟨remover, flies⟩
          refine ⟨⟨remover, flies⟩, ?_⟩
          rintro rfl
          exact unmarked remover flies

/-! ## What keeps it -/

/-- A commission answer that names a node whose removal is in flight makes its job the
owner of it. -/
theorem undisturbed_of_commissioned (coherent : ∀ jobId, Coherent (state.view jobId))
    {node : NodeId} (taken : step state (.job (.commissioned jobId (some node))) = some next)
    (holds : next.RemovesSafely) :
    state.undisturbed (.job (.commissioned jobId (some node))) = true := by
  rcases state with ⟨table, handovers⟩
  rw [step, Option.ite_none_right_eq_some] at taken
  rcases Option.map_eq_some_iff.mp taken.2 with ⟨moved, answered, rfl⟩
  simp only [CommissionJobs.step, CommissionJobs.commissioned] at answered
  split at answered
  · contradiction
  · rename_i named waits same
    obtain rfl : node = named := Option.some.inj same
    obtain rfl := Option.some.inj answered
    rcases (coherent jobId).task _ waits with ⟨job, stored, -⟩
    apply List.all_eq_true.mpr
    rintro ⟨remover, other⟩ flies
    apply decide_eq_true
    rintro rfl
    have flies := CommissionJobs.mem_removals.mp flies
    have different : remover ≠ .worker jobId := by
      rintro rfl
      cases flies.symm.trans (removal_of_task waits)
    apply different
    apply holds.owner remover other
    · rw [removal_await, if_neg different, removal_modify]
      exact flies
    · exact (CommissionJobs.get?_modify table jobId _ jobId).trans
        (by rw [if_pos rfl, show table.jobs.get? jobId = some job from stored, Option.map_some])
    · rfl
    · simp [Job.advance]
  · contradiction

/-- A removal that settles beside another one of its node leaves that one without its
mark. -/
theorem settlesAlone_of_settles {remover : Remover} {node : NodeId}
    (settles : Settles state.table next.table remover node) (holds : next.RemovesSafely) :
    state.table.settlesAlone remover = true := by
  apply List.all_eq_true.mpr
  rintro ⟨own, named⟩ ownFlies
  apply List.all_eq_true.mpr
  rintro ⟨other, beside⟩ flies
  apply decide_eq_true
  rintro rfl rfl
  by_contra different
  have ownFlies := CommissionJobs.mem_removals.mp ownFlies
  obtain rfl := Option.some.inj (ownFlies.symm.trans settles.flies)
  have flies := CommissionJobs.mem_removals.mp flies
  have marked := (holds.marked beside).mpr
    ⟨other, by rw [settles.removals, if_neg different, flies]⟩
  rw [settles.marks, List.mem_filter] at marked
  simp at marked

/-- A clean-up that spares a node whose removal is in flight takes its mark away. -/
theorem undisturbed_of_windowClosed
    (taken : step state (.job (.windowClosed jobId true)) = some next)
    (holds : next.RemovesSafely) :
    state.undisturbed (.job (.windowClosed jobId true)) = true := by
  rcases state with ⟨table, handovers⟩
  rw [step, Option.ite_none_right_eq_some] at taken
  rcases Option.map_eq_some_iff.mp taken.2 with ⟨moved, closed, rfl⟩
  change table.windowClosed jobId true = some moved at closed
  have sleeps : table.watchdogs.get? jobId = some .sleeping := by
    unfold CommissionJobs.windowClosed at closed
    split at closed
    · assumption
    · cases closed
  apply List.all_eq_true.mpr
  rintro ⟨remover, node⟩ flies
  have flies := CommissionJobs.mem_removals.mp flies
  cases cleans : table.cleansUp jobId node with
  | false => simp
  | true =>
      obtain rfl := spares_windowClosed cleans closed
      have different : remover ≠ .watchdog jobId := by
        rintro rfl
        cases flies.symm.trans (removal_of_watch sleeps)
      have marked := (holds.marked node).mpr
        ⟨remover, by rw [removal_endWatch, if_neg different]; exact flies⟩
      simp [CommissionJobs.discardRemoving, CommissionJobs.endWatch] at marked

theorem undisturbed_of_removesSafely (coherent : ∀ jobId, Coherent (state.view jobId))
    (taken : step state event = some next) (holds : next.RemovesSafely) :
    state.undisturbed event = true := by
  have own (remover : Remover)
      (settles : ∀ node, state.table.removal remover = some node →
        Settles state.table next.table remover node) :
      state.table.settlesAlone remover = true := by
    cases flies : state.table.removal remover with
    | none => exact settlesAlone_of_idle flies
    | some node => exact settlesAlone_of_settles (settles node flies) holds
  cases event with
  | createJob | nodeAdded | handedOver => rfl
  | job event =>
      have taken' := taken
      rw [step, Option.ite_none_right_eq_some] at taken'
      rcases Option.map_eq_some_iff.mp taken'.2 with ⟨moved, happened, rfl⟩
      cases event with
      | commissioned jobId node =>
          cases node with
          | none => rfl
          | some node => exact undisturbed_of_commissioned coherent taken holds
      | windowClosed jobId known =>
          cases known with
          | false => rfl
          | true => exact undisturbed_of_windowClosed taken holds
      | nodeRemoved jobId =>
          apply own
          intro node flies
          rcases settles_nodeRemoved happened with ⟨other, settles⟩
          obtain rfl := Option.some.inj (flies.symm.trans settles.flies)
          exact settles
      | cancelled jobId => exact own _ fun node flies => settles_cancelled flies happened
      | orphanSettled jobId | watchCancelled jobId =>
          exact own _ fun node flies => settles_watchEnded flies happened
      | clock | createJob | getJob | begin | descriptorsRead | devicesCreated | failed | nodeAdded
      | lateAnswer => rfl

/-! ## Runs -/

/-- What holds in all runs in which nothing disturbs a removal. -/
def RemovalLaw (state : JobHistory) : Prop :=
  (∀ jobId, Coherent (state.view jobId) ∧ Unwatched (state.view jobId)) ∧ state.RemovesSafely

theorem removalLaw_fresh : fresh.RemovalLaw := by
  constructor
  · exact fun jobId => ⟨coherent_fresh jobId, fun _ => rfl⟩
  · have idle (remover : Remover) : fresh.table.removal remover = none := by cases remover <;> rfl
    apply removesSafely_of_marked
    · intro remover node flies
      cases (idle remover).symm.trans flies
    · intro node
      constructor
      · intro marked
        cases marked
      · rintro ⟨remover, flies⟩
        cases (idle remover).symm.trans flies

theorem removalLaw_of_run
    (run : RunWhere step (fun state event => state.undisturbed event = true) fresh events state) :
    state.RemovalLaw := by
  apply run.invariant removalLaw_fresh
  intro state event next holds undisturbed taken
  have moves := moves_of_step taken
  constructor
  · exact fun jobId => ⟨coherent_move (moves jobId) (holds.1 jobId).1,
      unwatched_move (moves jobId) (holds.1 jobId).1 (holds.1 jobId).2⟩
  · exact removesSafely_step (fun jobId => (holds.1 jobId).1) (fun jobId => (holds.1 jobId).2)
      holds.2 undisturbed taken

/-- In every run in which no commission answer names a node whose removal is in flight,
no clean-up spares such a node, and no removal settles beside another one of its node,
a node that is being removed has no other owner and is not claimed, and it is marked;
and the next event keeps this exactly when it is none of the three. -/
theorem removesSafely_of_undisturbed_run
    (run : RunWhere step (fun state event => state.undisturbed event = true) fresh events state) :
    state.RemovesSafely ∧
      ∀ event next, step state event = some next →
        (next.RemovesSafely ↔ state.undisturbed event = true) := by
  have law := removalLaw_of_run run
  refine ⟨law.2, fun event next taken => ?_⟩
  constructor
  · exact undisturbed_of_removesSafely (fun jobId => (law.1 jobId).1) taken
  · exact fun undisturbed => (removalLaw_of_run (run.snoc undisturbed taken)).2

/-- A job times out, the server names its node late, and the window closes before the
node has joined. -/
def removesOrphan : List HistoryEvent :=
  timesOut 1 "MT:A" ++
    [.job (.lateAnswer 1 (.success (some 5))), .job (.windowClosed 1 false)]

theorem removesSafely_of_orphan : (play removesOrphan).RemovesSafely := by
  have run : RunWhere step (fun state event => state.undisturbed event = true) fresh
      removesOrphan (play removesOrphan) := runWhere_of_follow (by rfl)
  exact (removesSafely_of_undisturbed_run run).1

/-- The node of an orphan is being removed when the server gives it to another job. -/
def namedWhileRemoved : List HistoryEvent :=
  removesOrphan ++
    [.createJob 2 ⟨"MT:B", "Lamp", none⟩ true, .handedOver 2 true, .job (.begin 2),
      .job (.commissioned 2 (some 5))]

theorem named_while_removed :
    ¬ ∀ (events : List HistoryEvent) (state : JobHistory), Run step fresh events state →
      state.RemovesSafely := by
  intro always
  have run : Run step fresh namedWhileRemoved (play namedWhileRemoved) :=
    runWhere_of_follow (by rfl)
  have owner := (always _ _ run).owner (.watchdog 1) 5 rfl 2 _ rfl rfl (by decide)
  cases owner

end JobHistory

end IndigoMatter.Plugin
