import IndigoMatter.Plugin.JobGraph

/-!
# One commissioning per setup code

`create_job` looks a setup code up in an index that holds the latest job of each
code, and refuses a code whose latest job is still running.  A claim does not look
there: it reopens a timed-out job although a retry of the code may be running, or the
index may have lost the code.  While it only reopens the job that the index names,
the running jobs are those the index names, one for each code.
-/

namespace IndigoMatter.Plugin

open IndigoMatter.Library

namespace JobHistory

/-! ## The index -/

/-- A job that is running. -/
def Active (state : JobHistory) (jobId : JobId) (job : Job) : Prop :=
  state.table.jobs.get? jobId = some job ∧ job.status.terminal = false

/-- At most one job of a setup code is running, and as long as one is, a valid request
for its code is a duplicate of it. -/
structure OneActive (state : JobHistory) : Prop where
  unique : ∀ first second job other, state.Active first job → state.Active second other →
    job.setupCode = other.setupCode → first = second
  answered : ∀ jobId job, state.Active jobId job → ∀ fresh (request : CommissionRequest),
    request.setupCode = job.setupCode →
      (state.table.createJob fresh request true true).1 = .duplicate jobId

/-- The index names every running job. -/
def Indexed (state : JobHistory) : Prop :=
  ∀ jobId job, state.Active jobId job → state.table.byCode.get? job.setupCode = some jobId

/-- A claim reopens the job that the index names for its code. -/
def reopensIndexed (state : JobHistory) : HistoryEvent → Bool
  | .nodeAdded node =>
      (state.table.claimable node state.table.cutoff).all fun entry =>
        decide (state.table.byCode.get? entry.2.setupCode = some entry.1)
  | _ => true

variable {state next : JobHistory} {event : HistoryEvent} {events : List HistoryEvent}

/-- A running job that the index names is what a request for its code gets. -/
theorem duplicate_of_indexed {jobId : JobId} {job : Job} (coherent : ∀ jobId, Coherent (state.view jobId))
    (active : state.Active jobId job)
    (named : state.table.byCode.get? job.setupCode = some jobId) (fresh : JobId)
    {request : CommissionRequest} (code : request.setupCode = job.setupCode) :
    (state.table.createJob fresh request true true).1 = .duplicate jobId := by
  have running : job.terminalAt = none :=
    ((coherent jobId).sound job active.1).not_stamped active.2
  have forgets := forgets_reap state.table
  have stays : ¬ ∃ gone, state.table.jobs.get? jobId = some gone ∧ gone.terminalAt.isSome := by
    rintro ⟨gone, stored, terminal⟩
    obtain rfl := Option.some.inj (active.1.symm.trans stored)
    simp [running] at terminal
  have stored : state.table.reap.jobs.get? jobId = some job := by
    rcases forgets.jobs jobId with kept | ⟨-, gone⟩
    · exact kept.trans active.1
    · exact absurd gone stays
  have indexed : state.table.reap.byCode.get? request.setupCode = some jobId := by
    rw [code]
    rcases forgets.byCode job.setupCode with kept | ⟨-, gone, held, removed⟩
    · exact kept.trans named
    · obtain rfl := Option.some.inj (named.symm.trans held)
      exact absurd removed stays
  have latest : ((state.table.reap.byCode.get? request.setupCode).filter fun existing =>
      (state.table.reap.jobs.get? existing).any fun job => !job.status.terminal) =
        some jobId := by
    rw [indexed]
    simp [Option.filter, stored, active.2]
  simp only [CommissionJobs.createJob, Bool.not_true, Bool.false_eq_true, if_false, latest]

theorem oneActive_of_indexed (coherent : ∀ jobId, Coherent (state.view jobId))
    (indexed : state.Indexed) : state.OneActive := by
  constructor
  · intro first second job other active otherActive same
    have named := indexed first job active
    rw [same, indexed second other otherActive] at named
    exact (Option.some.inj named).symm
  · intro jobId job active fresh request code
    exact duplicate_of_indexed coherent active (indexed jobId job active) fresh code

/-! ## What becomes of the index -/

section Frame

variable {table moved : CommissionJobs} {jobId : JobId}

@[simp]
theorem byCode_modify (table : CommissionJobs) (jobId : JobId) (f : Job → Job) :
    (table.modify jobId f).byCode = table.byCode := by
  rw [CommissionJobs.modify_eq]

@[simp]
theorem byCode_land (table : CommissionJobs) (jobId : JobId) (error : JobError) :
    (table.land jobId error).byCode = table.byCode := byCode_modify ..

@[simp]
theorem byCode_fail (table : CommissionJobs) (jobId : JobId) (error : JobError)
    (node : Option NodeId) : (table.fail jobId error node).byCode = table.byCode := by
  unfold CommissionJobs.fail
  split
  · exact byCode_land ..
  · split
    · exact byCode_land ..
    · rfl

@[simp]
theorem byCode_handle (table : CommissionJobs) (jobId : JobId) (failure : Failure) (armed : Bool)
    (node : Option NodeId) : (table.handle jobId failure armed node).byCode = table.byCode := by
  unfold CommissionJobs.handle
  split
  · exact byCode_land ..
  · dsimp only
    split
    · exact byCode_land ..
    · exact byCode_land ..
  · exact byCode_fail ..
  · exact byCode_fail ..

@[simp]
theorem byCode_apply (table : CommissionJobs) (jobId : JobId) (node : NodeId) :
    (table.apply jobId node).byCode = table.byCode := by
  unfold CommissionJobs.apply
  split <;> rfl

/-- What the loop does by itself leaves the index alone, or reaps. -/
theorem byCode_of_jobStep {event : JobEvent} {handovers : InsertionMap JobId Handover}
    (enabled_ : (⟨table, handovers⟩ : JobHistory).enabled event = true)
    (taken : table.step event = some moved) :
    moved.byCode = table.byCode ∨ moved = table.reap := by
  cases event with
  | getJob => exact .inr (Option.some.inj taken).symm
  | createJob | nodeAdded => cases enabled_
  | clock now =>
      obtain rfl := Option.some.inj taken
      exact .inl rfl
  | begin jobId =>
      left
      simp only [CommissionJobs.step, CommissionJobs.begin] at taken
      split at taken
      · obtain rfl := Option.some.inj taken
        exact byCode_modify ..
      · obtain rfl := Option.some.inj taken
        exact byCode_apply ..
      · cases taken
  | commissioned jobId node =>
      left
      simp only [CommissionJobs.step, CommissionJobs.commissioned] at taken
      split at taken
      · obtain rfl := Option.some.inj taken
        exact byCode_fail ..
      · obtain rfl := Option.some.inj taken
        exact byCode_modify ..
      · cases taken
  | descriptorsRead jobId =>
      left
      simp only [CommissionJobs.step, CommissionJobs.descriptorsRead] at taken
      split at taken
      · obtain rfl := Option.some.inj taken
        exact (byCode_apply ..).trans (byCode_modify ..)
      · cases taken
  | devicesCreated jobId =>
      left
      simp only [CommissionJobs.step, CommissionJobs.devicesCreated] at taken
      split at taken
      · obtain rfl := Option.some.inj taken
        exact byCode_modify ..
      · obtain rfl := Option.some.inj taken
        exact byCode_modify ..
      · cases taken
  | failed jobId failure armed =>
      left
      simp only [CommissionJobs.step, CommissionJobs.failed] at taken
      split at taken
      · obtain rfl := Option.some.inj taken
        exact byCode_handle ..
      · obtain rfl := Option.some.inj taken
        exact byCode_handle ..
      · obtain rfl := Option.some.inj taken
        exact byCode_handle ..
      · obtain rfl := Option.some.inj taken
        exact byCode_land ..
      · cases taken
  | nodeRemoved jobId =>
      left
      simp only [CommissionJobs.step, CommissionJobs.nodeRemoved] at taken
      split at taken
      · obtain rfl := Option.some.inj taken
        exact byCode_land ..
      · cases taken
  | cancelled jobId =>
      left
      simp only [CommissionJobs.step, CommissionJobs.cancelled] at taken
      split at taken
      · cases taken
      all_goals obtain rfl := Option.some.inj taken
      · rfl
      · rfl
      · rfl
      · rfl
      · exact byCode_land ..
      · exact byCode_land ..
      · exact byCode_land ..
  | lateAnswer jobId answer =>
      obtain rfl := Option.some.inj taken
      left
      unfold CommissionJobs.noteLateResponse
      split
      · exact byCode_modify ..
      · rfl
      · exact byCode_modify ..
  | windowClosed jobId known =>
      left
      simp only [CommissionJobs.step, CommissionJobs.windowClosed] at taken
      repeat' split at taken
      all_goals cases taken
      all_goals rfl
  | orphanSettled jobId | watchCancelled jobId =>
      left
      simp only [CommissionJobs.step, CommissionJobs.watchEnded] at taken
      repeat' split at taken
      all_goals cases taken
      all_goals rfl

end Frame

/-! ## Running jobs -/

/-- A job that is running after a move was running before, under the same code; or it
is new; or it has been claimed. -/
theorem active_of_move {jobId : JobId} {view after : View}
    (move : JobMove state jobId event view after) (holds : Coherent view) {changed : Job}
    (stored : after.job = some changed) (running : changed.status.terminal = false) :
    (∃ job, view.job = some job ∧ job.status.terminal = false ∧
        changed.setupCode = job.setupCode) ∨
      (∃ request, event = .createJob jobId request true ∧
        changed.setupCode = request.setupCode) ∨
      (∃ node job, event = .nodeAdded node ∧
        state.table.claimable node state.table.cutoff = some (jobId, job) ∧
        changed.setupCode = job.setupCode) := by
  cases move with
  | same => exact .inl ⟨changed, stored, running, rfl⟩
  | reaped | dropped => cases stored
  | entered =>
      obtain rfl := Option.some.inj stored
      exact .inr (.inl ⟨_, rfl, rfl⟩)
  | restored =>
      rename_i job task watch priors
      rcases holds.handover _ rfl with ⟨node, -, claimed, failed, -⟩
      obtain rfl : job = some (priors.claim node) := claimed
      rw [Option.map_some, restore_claim failed] at stored
      obtain rfl := Option.some.inj stored
      rw [failed] at running
      cases running
  | began | commissioned | read =>
      rcases holds.task _ rfl with ⟨job, found, -⟩
      cases found
      obtain rfl := Option.some.inj stored
      exact .inl ⟨job, rfl, holds.not_terminal rfl rfl, rfl⟩
  | succeeded | landed =>
      rcases holds.task _ rfl with ⟨job, found, -⟩
      cases found
      obtain rfl := Option.some.inj stored
      cases running
  | claimed claims =>
      obtain rfl := Option.some.inj stored
      exact .inr (.inr ⟨_, _, rfl, claims, rfl⟩)
  | lateError failed timedOut =>
      obtain rfl := Option.some.inj stored
      exact .inl ⟨_, rfl, running, rfl⟩
  | lateSuccess unknown sent unawaited =>
      obtain rfl := Option.some.inj stored
      exact .inl ⟨_, rfl, running, rfl⟩
  | taken | reconciles | removes | cancelled | watchEnds => exact .inl ⟨changed, stored, running, rfl⟩
  | watchRemoves => exact .inl ⟨changed, stored, running, rfl⟩

theorem byCode_reap_of_active (coherent : ∀ jobId, Coherent (state.view jobId)) {jobId : JobId}
    {job : Job} (active : state.Active jobId job)
    (named : state.table.byCode.get? job.setupCode = some jobId) :
    state.table.reap.byCode.get? job.setupCode = some jobId := by
  have running := ((coherent jobId).sound job active.1).not_stamped active.2
  rcases (forgets_reap state.table).byCode job.setupCode with kept | ⟨-, gone, held, reaped, stored, terminal⟩
  · exact kept.trans named
  · obtain rfl := Option.some.inj (named.symm.trans held)
    obtain rfl := Option.some.inj (active.1.symm.trans stored)
    simp [running] at terminal

/-- The index goes on naming a job as long as it runs. -/
theorem named_of_step (coherent : ∀ jobId, Coherent (state.view jobId)) {jobId : JobId}
    {job : Job} (active : state.Active jobId job)
    (named : state.table.byCode.get? job.setupCode = some jobId)
    (taken : step state event = some next) (remains : next.table.jobs.get? jobId ≠ none) :
    next.table.byCode.get? job.setupCode = some jobId := by
  have reaped := byCode_reap_of_active coherent active named
  rcases state with ⟨table, handovers⟩
  cases event with
  | job event =>
      rw [step, Option.ite_none_right_eq_some] at taken
      rcases taken with ⟨enabled_, moved⟩
      rcases Option.map_eq_some_iff.mp moved with ⟨moved, taken, rfl⟩
      rcases byCode_of_jobStep enabled_ taken with same | rfl
      · exact (congrArg (fun index => index.get? job.setupCode) same).trans named
      · exact reaped
  | nodeAdded node =>
      obtain rfl := Option.some.inj taken
      unfold nodeAdded
      split
      · exact named
      · rename_i claimed _ claims
        simpa [CommissionJobs.reconcileNodeAdded, claims] using named
  | createJob other request connected =>
      rw [step, Option.ite_none_right_eq_some, Bool.and_eq_true] at taken
      obtain rfl := Option.some.inj taken.2
      cases connected with
      | false => exact named
      | true =>
          rcases createJob_cases table handovers other request with ⟨-, same⟩ | ⟨accepted, same⟩
          · rw [same]
            exact reaped
          · rw [same]
            change (table.reap.byCode.set request.setupCode other).get? job.setupCode = some jobId
            rw [InsertionMap.get?_set]
            split
            · -- the request would have been a duplicate
              rename_i code
              have duplicate := duplicate_of_indexed coherent active named other code.symm
              rw [accepted] at duplicate
              cases duplicate
            · exact reaped
  | handedOver other scheduled =>
      rcases Option.map_eq_some_iff.mp taken with ⟨handover, waits, rfl⟩
      cases scheduled with
      | true => exact named
      | false =>
          cases handover with
          | claimed priors =>
              change (table.modify other (Job.restore priors)).byCode.get? job.setupCode = _
              rw [byCode_modify]
              exact named
          | created setupCode =>
              change (if table.byCode.get? setupCode = some other then
                table.byCode.delete setupCode else table.byCode).get? job.setupCode = some jobId
              split
              · rename_i held
                rw [InsertionMap.get?_delete]
                split
                · -- the job that is dropped is this one
                  rename_i code
                  rw [← code, named] at held
                  obtain rfl := Option.some.inj held
                  simp [drop] at remains
                · exact named
              · exact named

theorem indexed_step (coherent : ∀ jobId, Coherent (state.view jobId)) (holds : state.Indexed)
    (reopens : state.reopensIndexed event = true) (taken : step state event = some next) :
    next.Indexed := by
  intro jobId changed active
  have move := moves_of_step taken jobId
  have remains : next.table.jobs.get? jobId ≠ none := by
    rw [active.1]
    simp
  rcases active_of_move move (coherent jobId) active.1 active.2 with
    ⟨job, stored, running, code⟩ | ⟨request, rfl, code⟩ | ⟨node, job, rfl, claims, code⟩
  · rw [code]
    exact named_of_step coherent ⟨stored, running⟩ (holds jobId job ⟨stored, running⟩) taken remains
  · rw [step, Option.ite_none_right_eq_some, Bool.and_eq_true] at taken
    obtain rfl := Option.some.inj taken.2
    rcases state with ⟨table, handovers⟩
    rcases createJob_cases table handovers jobId request with ⟨-, same⟩ | ⟨-, same⟩
    · -- a duplicate enters no job
      rw [same] at active
      have absent := (absent_of_unused taken.1.1).1
      rcases (forgets_reap table).jobs jobId with kept | gone
      · cases active.1.symm.trans (kept.trans absent)
      · cases active.1.symm.trans gone.1
    · rw [same, code]
      exact InsertionMap.get?_set_self ..
  · rw [code]
    have named : state.table.byCode.get? job.setupCode = some jobId := by
      simpa [reopensIndexed, claims] using reopens
    obtain rfl := Option.some.inj taken
    simpa [nodeAdded, claims, CommissionJobs.reconcileNodeAdded] using named

/-! ## Runs -/

/-- A claim that reopens a job the index does not name leaves two jobs of one code
running, or a running job that a request for its code is no duplicate of. -/
theorem not_oneActive_of_unindexed {node : NodeId} {jobId : JobId} {job : Job}
    (claims : state.table.claimable node state.table.cutoff = some (jobId, job))
    (unindexed : state.table.byCode.get? job.setupCode ≠ some jobId) :
    ¬ (state.nodeAdded node).OneActive := by
  intro holds
  have active : (state.nodeAdded node).Active jobId (job.claim node) := by
    refine ⟨?_, rfl⟩
    simp [nodeAdded, claims, CommissionJobs.reconcileNodeAdded]
  have answered := holds.answered jobId (job.claim node) active 0
    ⟨job.setupCode, job.suggestedName, none⟩ rfl
  simp only [CommissionJobs.createJob, Bool.not_true, Bool.false_eq_true, if_false] at answered
  split at answered
  · rename_i existing latest
    obtain rfl : existing = jobId := by simpa using answered
    have held := (Option.filter_eq_some_iff.mp latest).1
    apply unindexed
    have index : (state.nodeAdded node).table.byCode = state.table.byCode := by
      simp [nodeAdded, claims, CommissionJobs.reconcileNodeAdded]
    rcases (forgets_reap (state.nodeAdded node).table).byCode job.setupCode with kept | ⟨gone, -⟩
    · rw [← index, ← kept]
      exact held
    · cases gone.symm.trans held
  · cases answered

/-- Both halves of the law are invariants of the runs in which every claim reopens the
job the index names. -/
def Lawful (state : JobHistory) : Prop :=
  (∀ jobId, Coherent (state.view jobId)) ∧ state.Indexed

theorem lawful_of_run
    (run : RunWhere step (fun state event => state.reopensIndexed event = true) fresh events state) :
    state.Lawful := by
  apply run.invariant
  · refine ⟨coherent_fresh, ?_⟩
    rintro jobId job ⟨stored, -⟩
    cases stored
  · intro state event next holds reopens taken
    have moves := moves_of_step taken
    exact ⟨fun jobId => coherent_move (moves jobId) (holds.1 jobId),
      indexed_step holds.1 holds.2 reopens taken⟩

/-- In every run in which each claim reopens the job that the index names, at most one
job of each setup code is running and a request for its code is answered as a duplicate
of it; and the next event keeps this exactly when it is no claim of another job. -/
theorem oneActive_of_indexed_run
    (run : RunWhere step (fun state event => state.reopensIndexed event = true) fresh events state) :
    state.OneActive ∧
      ∀ event next, step state event = some next →
        (next.OneActive ↔ state.reopensIndexed event = true) := by
  have lawful := lawful_of_run run
  refine ⟨oneActive_of_indexed lawful.1 lawful.2, fun event next taken => ?_⟩
  constructor
  · intro holds
    by_contra reopens
    cases event with
    | nodeAdded node =>
        obtain rfl := Option.some.inj taken
        cases claims : state.table.claimable node state.table.cutoff with
        | none => simp [reopensIndexed, claims] at reopens
        | some entry =>
            apply not_oneActive_of_unindexed claims _ holds
            simpa [reopensIndexed, claims] using reopens
    | job | createJob | handedOver => exact reopens rfl
  · intro reopens
    have next_ := lawful_of_run (run.snoc reopens taken)
    exact oneActive_of_indexed next_.1 next_.2

/-- A timed-out job is claimed; a retry of its code that comes in meanwhile is a
duplicate. -/
theorem oneActive_of_claimed_latest : (play (timesOut 1 "MT:A" ++ [.nodeAdded 5])).OneActive := by
  have run : RunWhere step (fun state event => state.reopensIndexed event = true) fresh
      (timesOut 1 "MT:A" ++ [.nodeAdded 5]) (play (timesOut 1 "MT:A" ++ [.nodeAdded 5])) :=
    runWhere_of_follow (by rfl)
  exact (oneActive_of_indexed_run run).1

/-- A job times out, a retry of the code is created, and the node of the first attempt
joins. -/
def claimedBesideRetry : List HistoryEvent :=
  timesOut 1 "MT:A" ++
    [.createJob 2 ⟨"MT:A", "Lamp", none⟩ true, .handedOver 2 true, .nodeAdded 5]

theorem two_active_beside_retry :
    ¬ ∀ (events : List HistoryEvent) (state : JobHistory), Run step fresh events state →
      state.OneActive := by
  intro always
  have run : Run step fresh claimedBesideRetry (play claimedBesideRetry) :=
    runWhere_of_follow (by rfl)
  have same := (always _ _ run).unique 1 2 _ _ ⟨rfl, rfl⟩ ⟨rfl, rfl⟩ rfl
  exact absurd same (by decide)

end JobHistory

end IndigoMatter.Plugin
