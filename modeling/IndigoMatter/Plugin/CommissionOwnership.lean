import IndigoMatter.Plugin.CommissionJobs

/-!
# A job and the node of its own setup code

The job table beside a fabric that remembers which setup code each node was
commissioned with.  The server answers a request with a node of its own code, and
emits `node_added` for the nodes there are.

A timed-out job that does not know its node claims one by elimination, and only
other timed-out jobs count.  It goes wrong when the node belongs to none of them.
-/

namespace IndigoMatter.Plugin

open IndigoMatter.Library

/-- The job table and the fabric. -/
structure Commissioning where
  table : CommissionJobs
  producedBy : InsertionMap NodeId String

/-- A commissioning produces a node, or something happens to the job table. -/
inductive CommissioningEvent
  | joined (node : NodeId) (setupCode : String)
  | job (event : JobEvent)
deriving DecidableEq

namespace Commissioning

/-- Whether a node was produced with the setup code of a job. -/
def isOwn (state : Commissioning) (jobId : JobId) (node : NodeId) : Bool :=
  (state.table.jobs.get? jobId).all fun job =>
    decide (state.producedBy.get? node = some job.setupCode)

/-- What the server says is true. -/
def truthful (state : Commissioning) : JobEvent → Bool
  | .commissioned jobId (some node) => state.isOwn jobId node
  | .lateAnswer jobId (.success (some node)) => state.isOwn jobId node
  | .nodeAdded node _ => state.producedBy.has node
  | _ => true

/-- One event. -/
def step : LabelledStep Commissioning CommissioningEvent
  | state, .joined node setupCode =>
      if state.producedBy.has node then none
      else some { state with producedBy := state.producedBy.set node setupCode }
  | state, .job event =>
      if state.truthful event then
        (state.table.step event).map fun table => { state with table := table }
      else none

/-- No jobs, and no nodes. -/
def fresh : Commissioning := ⟨.fresh, ∅⟩

/-- The jobs a node may claim. -/
def waiting (table : CommissionJobs) : List Job :=
  (table.jobs.entries.map Prod.snd).filter (CommissionJobs.isCandidate table.cutoff)

/-- A node of another setup code joins while the timed-out jobs that do not know their
node are all of one code, and none waits for this node. -/
def strangerJoins (state : Commissioning) : CommissioningEvent → Bool
  | .job (.nodeAdded node _) =>
      decide (node ∉ state.table.removing) &&
        !(waiting state.table).any (fun job => decide (job.nodeId = some node)) &&
        (waiting state.table).any fun job =>
          decide (job.nodeId = none) &&
            ((waiting state.table).all fun other =>
              decide (other.nodeId = none → other.setupCode = job.setupCode)) &&
            decide (state.producedBy.get? node ≠ some job.setupCode)
  | _ => false

/-- Every successful job has the node of its own setup code, no two with different codes
have the same one, and names and rooms were applied to own nodes only. -/
structure OwnSuccess (state : Commissioning) : Prop where
  success : ∀ jobId job, state.table.jobs.get? jobId = some job → job.status = .success →
    ∃ node, job.result = some node ∧ state.producedBy.get? node = some job.setupCode
  distinct : ∀ first second job other, state.table.jobs.get? first = some job →
    state.table.jobs.get? second = some other → job.status = .success →
    other.status = .success → job.result = other.result → job.setupCode = other.setupCode
  applied : ∀ application ∈ state.table.applied,
    state.producedBy.get? application.node = some application.setupCode

end Commissioning

/-! ## The invariant -/

/-- What a job says about its node is true of the fabric. -/
structure Job.Own (produced : NodeId → Option String) (job : Job) : Prop where
  nodeId : ∀ node, job.nodeId = some node → produced node = some job.setupCode
  result : ∀ node, job.result = some node → produced node = some job.setupCode
  success : job.status = .success → job.result ≠ none

/-- The node whose devices a coroutine is to create. -/
def Stage.node : Stage → Option NodeId
  | .reading node | .creating node | .claimed node | .reconciling node => some node
  | .scheduled | .commissioning | .removing _ _ => none

namespace CommissionJobs

variable {produced : NodeId → Option String} {table next : CommissionJobs}

/-- Jobs, coroutines and device creations have to do with own nodes only. -/
structure Own (produced : NodeId → Option String) (table : CommissionJobs) : Prop where
  jobs : ∀ jobId job, table.jobs.get? jobId = some job → job.Own produced
  tasks : ∀ jobId stage node job, table.tasks.get? jobId = some stage →
    stage.node = some node → table.jobs.get? jobId = some job →
    produced node = some job.setupCode
  applied : ∀ application ∈ table.applied,
    produced application.node = some application.setupCode

theorem own_fresh : fresh.Own produced := by
  constructor
  · intro jobId job stored
    cases stored
  · intro jobId stage node job none
    cases none
  · intro application none
    cases none

theorem Own.mono {produced' : NodeId → Option String} (holds : table.Own produced)
    (extends_ : ∀ node setupCode, produced node = some setupCode →
      produced' node = some setupCode) : table.Own produced' := by
  constructor
  · intro jobId job stored
    have own := holds.jobs jobId job stored
    constructor
    · intro node known
      exact extends_ node _ (own.nodeId node known)
    · intro node known
      exact extends_ node _ (own.result node known)
    · exact own.success
  · intro jobId stage node job waits has stored
    exact extends_ node _ (holds.tasks jobId stage node job waits has stored)
  · intro application mem
    exact extends_ _ _ (holds.applied application mem)

/-- Nothing is lost by forgetting jobs and coroutines. -/
theorem Own.forget (holds : table.Own produced)
    (jobs : ∀ jobId job, next.jobs.get? jobId = some job → table.jobs.get? jobId = some job)
    (tasks : ∀ jobId stage, next.tasks.get? jobId = some stage →
      table.tasks.get? jobId = some stage)
    (applied : next.applied = table.applied) : next.Own produced := by
  constructor
  · intro jobId job stored
    exact holds.jobs jobId job (jobs jobId job stored)
  · intro jobId stage node job waits has stored
    exact holds.tasks jobId stage node job (tasks jobId stage waits) has (jobs jobId job stored)
  · rw [applied]
    exact holds.applied

theorem Own.same (holds : table.Own produced) (jobs : next.jobs = table.jobs)
    (tasks : next.tasks = table.tasks) (applied : next.applied = table.applied) :
    next.Own produced :=
  holds.forget (fun _ _ stored => jobs ▸ stored) (fun _ _ waits => tasks ▸ waits) applied

theorem get?_delete_some {κ ν : Type} [DecidableEq κ] {map : InsertionMap κ ν} {key other : κ}
    {value : ν} (stored : (map.delete key).get? other = some value) :
    map.get? other = some value := by
  rw [InsertionMap.get?_delete] at stored
  split at stored
  · cases stored
  · exact stored

theorem Own.endTask (holds : table.Own produced) (jobId : JobId) :
    (table.endTask jobId).Own produced :=
  holds.forget (fun _ _ stored => stored) (fun _ _ waits => get?_delete_some waits) rfl

theorem Own.await (holds : table.Own produced) (jobId : JobId) (stage : Stage)
    (own : ∀ node job, stage.node = some node → table.jobs.get? jobId = some job →
      produced node = some job.setupCode) : (table.await jobId stage).Own produced := by
  constructor
  · exact holds.jobs
  · intro other waited node job waits has stored
    change (table.tasks.set jobId stage).get? other = some waited at waits
    rw [InsertionMap.get?_set] at waits
    split at waits
    · rename_i same
      obtain rfl := Option.some.inj waits
      exact own node job has (same ▸ stored)
    · exact holds.tasks other waited node job waits has stored
  · exact holds.applied

/-- A job may be changed so that what it says stays true. -/
theorem Own.modify (holds : table.Own produced) (jobId : JobId) {f : Job → Job}
    (code : ∀ job, (f job).setupCode = job.setupCode)
    (own : ∀ job, table.jobs.get? jobId = some job → job.Own produced → (f job).Own produced) :
    (table.modify jobId f).Own produced := by
  unfold CommissionJobs.modify
  split
  · exact holds
  · rename_i job stored
    have get_next (other : JobId) : (table.jobs.set jobId (f job)).get? other =
        if other = jobId then some (f job) else table.jobs.get? other :=
      InsertionMap.get?_set ..
    constructor
    · intro other changed storedOther
      change (table.jobs.set jobId (f job)).get? other = some changed at storedOther
      rw [get_next] at storedOther
      split at storedOther
      · obtain rfl := Option.some.inj storedOther
        exact own job stored (holds.jobs jobId job stored)
      · exact holds.jobs other changed storedOther
    · intro other stage node changed waits has storedOther
      change (table.jobs.set jobId (f job)).get? other = some changed at storedOther
      rw [get_next] at storedOther
      split at storedOther
      · rename_i same
        obtain rfl := Option.some.inj storedOther
        rw [code]
        exact holds.tasks jobId stage node job (same ▸ waits) has stored
      · exact holds.tasks other stage node changed waits has storedOther
    · exact holds.applied

theorem own_advance {now : Nat} {status : JobStatus} {progress : Rat} {message : String}
    {job : Job} (own : job.Own produced) (running : status ≠ .success) :
    (job.advance now status progress message).Own produced :=
  ⟨own.nodeId, own.result, fun success => absurd success running⟩

theorem own_fail {now : Nat} {error : JobError} {job : Job} (own : job.Own produced) :
    (job.fail now error).Own produced :=
  ⟨own.nodeId, own.result, fun success => by cases success⟩

theorem Own.advance (holds : table.Own produced) (jobId : JobId) {status : JobStatus}
    {progress : Rat} {message : String} (running : status ≠ .success) :
    (table.modify jobId (Job.advance table.now status progress message)).Own produced :=
  holds.modify jobId (fun _ => rfl) fun _ _ own => own_advance own running

theorem Own.land (holds : table.Own produced) (jobId : JobId) (error : JobError) :
    (table.land jobId error).Own produced := by
  have failed : (table.modify jobId (Job.fail table.now error)).Own produced :=
    holds.modify jobId (fun _ => rfl) fun _ _ own => own_fail own
  exact failed.endTask jobId

theorem Own.fail (holds : table.Own produced) (jobId : JobId) (error : JobError)
    (node : Option NodeId) : (table.fail jobId error node).Own produced := by
  unfold CommissionJobs.fail
  split
  · exact holds.land jobId error
  · split
    · exact holds.land jobId error
    · rename_i node _
      have added : (table.addRemoving node).Own produced := holds.same rfl rfl rfl
      apply added.await
      intro other job none
      cases none

theorem Own.apply (holds : table.Own produced) (jobId : JobId) (node : NodeId)
    (own : ∀ job, table.jobs.get? jobId = some job → produced node = some job.setupCode) :
    (table.apply jobId node).Own produced := by
  unfold CommissionJobs.apply
  split
  · exact holds
  · rename_i job stored
    constructor
    · exact holds.jobs
    · exact holds.tasks
    · intro application mem
      rcases List.mem_append.mp mem with old | new
      · exact holds.applied application old
      · rw [List.mem_singleton.mp new]
        exact own job stored

theorem Own.reap (holds : table.Own produced) : table.reap.Own produced := by
  have kept (expired : List (JobId × Job)) (table : CommissionJobs) (holds : table.Own produced) :
      (expired.foldl (fun table entry =>
        { table with
          jobs := table.jobs.delete entry.1
          byCode := if table.byCode.get? entry.2.setupCode = some entry.1
            then table.byCode.delete entry.2.setupCode else table.byCode }) table).Own produced := by
    induction expired generalizing table with
    | nil => exact holds
    | cons entry rest ih =>
        apply ih
        exact holds.forget (fun _ _ stored => get?_delete_some stored) (fun _ _ waits => waits) rfl
  exact kept _ table holds

theorem Own.createJob (holds : table.Own produced) (jobId : JobId)
    (request : CommissionRequest) (connected scheduled : Bool) :
    (table.createJob jobId request connected scheduled).2.Own produced := by
  unfold CommissionJobs.createJob
  split
  · exact holds
  · have reaped := holds.reap
    dsimp only
    split
    · exact reaped
    · split
      · constructor
        · intro other job stored
          change (table.reap.jobs.set jobId _).get? other = some job at stored
          rw [InsertionMap.get?_set] at stored
          split at stored
          · obtain rfl := Option.some.inj stored
            constructor
            · intro node none
              cases none
            · intro node none
              cases none
            · intro success
              cases success
          · exact reaped.jobs other job stored
        · intro other stage node job waits has stored
          change (table.reap.tasks.set jobId .scheduled).get? other = some stage at waits
          change (table.reap.jobs.set jobId _).get? other = some job at stored
          rw [InsertionMap.get?_set] at waits stored
          split at waits
          · obtain rfl := Option.some.inj waits
            cases has
          · rename_i elsewhere
            rw [if_neg elsewhere] at stored
            exact reaped.tasks other stage node job waits has stored
        · exact reaped.applied
      · exact reaped.forget (fun _ _ stored => get?_delete_some stored)
          (fun _ _ waits => waits) rfl

/-! ## The worker -/

theorem Own.begin (holds : table.Own produced) {jobId : JobId}
    (taken : table.begin jobId = some next) : next.Own produced := by
  unfold CommissionJobs.begin at taken
  split at taken
  · obtain rfl := Option.some.inj taken
    apply (holds.advance jobId (by decide)).await
    intro node job none
    cases none
  · rename_i node waits
    obtain rfl := Option.some.inj taken
    have own (job : Job) (stored : table.jobs.get? jobId = some job) :
        produced node = some job.setupCode :=
      holds.tasks jobId _ node job waits rfl stored
    apply (holds.apply jobId node own).await
    intro other job has stored
    obtain rfl := Option.some.inj has
    exact own job (jobs_apply table jobId node ▸ stored)
  · cases taken

theorem get?_modify_self {jobId : JobId} {f : Job → Job} {job : Job}
    (stored : (table.modify jobId f).jobs.get? jobId = some job) :
    ∃ before, table.jobs.get? jobId = some before ∧ job = f before := by
  rw [get?_modify, if_pos rfl] at stored
  rcases Option.map_eq_some_iff.mp stored with ⟨before, present, same⟩
  exact ⟨before, present, same.symm⟩

theorem Own.commissioned (holds : table.Own produced) {jobId : JobId} {node : Option NodeId}
    (own : ∀ value job, node = some value → table.jobs.get? jobId = some job →
      produced value = some job.setupCode)
    (taken : table.commissioned jobId node = some next) : next.Own produced := by
  unfold CommissionJobs.commissioned at taken
  split at taken
  · obtain rfl := Option.some.inj taken
    exact holds.fail jobId _ _
  · rename_i node _
    obtain rfl := Option.some.inj taken
    apply Own.await
    · apply holds.modify jobId
      · intro job
        rfl
      · intro job stored before
        constructor
        · intro other same
          obtain rfl := Option.some.inj same
          exact own node job rfl stored
        · exact before.result
        · intro success
          cases success
    · intro other job has stored
      obtain rfl := Option.some.inj has
      rcases get?_modify_self stored with ⟨before, present, rfl⟩
      exact own node before rfl present
  · cases taken

theorem Own.descriptorsRead (holds : table.Own produced) {jobId : JobId}
    (taken : table.descriptorsRead jobId = some next) : next.Own produced := by
  unfold CommissionJobs.descriptorsRead at taken
  split at taken
  · rename_i node waits
    obtain rfl := Option.some.inj taken
    have own (now : Nat) (progress : Rat) (message : String) (job : Job)
        (stored : (table.modify jobId
          (Job.advance now .creatingDevices progress message)).jobs.get? jobId = some job) :
        produced node = some job.setupCode := by
      rcases get?_modify_self stored with ⟨before, present, rfl⟩
      exact holds.tasks jobId _ node before waits rfl present
    apply ((holds.advance jobId (by decide)).apply jobId node (own _ _ _)).await
    intro other job has stored
    obtain rfl := Option.some.inj has
    rw [jobs_apply] at stored
    exact own _ _ _ job stored
  · cases taken

theorem Own.devicesCreated (holds : table.Own produced) {jobId : JobId}
    (taken : table.devicesCreated jobId = some next) : next.Own produced := by
  have succeeds (stage : Stage) (node : NodeId) (message : String)
      (waits : table.tasks.get? jobId = some stage) (has : stage.node = some node) :
      (table.succeed jobId node message).Own produced := by
    apply Own.endTask
    apply holds.modify jobId
    · intro job
      rfl
    · intro job stored before
      constructor
      · exact before.nodeId
      · intro other same
        obtain rfl := Option.some.inj same
        exact holds.tasks jobId stage node job waits has stored
      · intro _ none
        cases none
  unfold CommissionJobs.devicesCreated at taken
  split at taken
  · rename_i node waits
    obtain rfl := Option.some.inj taken
    exact succeeds _ node _ waits rfl
  · rename_i node waits
    obtain rfl := Option.some.inj taken
    exact succeeds _ node _ waits rfl
  · cases taken

theorem Own.handle (holds : table.Own produced) (jobId : JobId) (failure : Failure)
    (armed : Bool) (node : Option NodeId) :
    (table.handle jobId failure armed node).Own produced := by
  unfold CommissionJobs.handle
  split
  · exact holds.land jobId _
  · dsimp only
    split
    · exact (holds.land jobId _).same rfl rfl rfl
    · exact holds.land jobId _
  · exact holds.fail jobId _ _
  · exact holds.fail jobId _ _

theorem Own.failed (holds : table.Own produced) {jobId : JobId} {failure : Failure}
    {armed : Bool} (taken : table.failed jobId failure armed = some next) : next.Own produced := by
  unfold CommissionJobs.failed at taken
  split at taken
  · obtain rfl := Option.some.inj taken
    exact holds.handle jobId failure armed _
  · obtain rfl := Option.some.inj taken
    exact holds.handle jobId failure armed _
  · obtain rfl := Option.some.inj taken
    exact holds.handle jobId failure armed _
  · obtain rfl := Option.some.inj taken
    exact holds.land jobId _
  · cases taken

theorem Own.discardRemoving (holds : table.Own produced) (node : NodeId) :
    (table.discardRemoving node).Own produced :=
  holds.same rfl rfl rfl

theorem Own.nodeRemoved (holds : table.Own produced) {jobId : JobId}
    (taken : table.nodeRemoved jobId = some next) : next.Own produced := by
  unfold CommissionJobs.nodeRemoved at taken
  split at taken
  · obtain rfl := Option.some.inj taken
    exact (holds.discardRemoving _).land jobId _
  · cases taken

theorem Own.cancelled (holds : table.Own produced) {jobId : JobId}
    (taken : table.cancelled jobId = some next) : next.Own produced := by
  unfold CommissionJobs.cancelled at taken
  split at taken
  · cases taken
  · obtain rfl := Option.some.inj taken
    exact holds.endTask jobId
  · obtain rfl := Option.some.inj taken
    exact holds.endTask jobId
  · obtain rfl := Option.some.inj taken
    exact holds.endTask jobId
  · obtain rfl := Option.some.inj taken
    exact (holds.discardRemoving _).endTask jobId
  · obtain rfl := Option.some.inj taken
    exact holds.land jobId _
  · obtain rfl := Option.some.inj taken
    exact holds.land jobId _
  · obtain rfl := Option.some.inj taken
    exact holds.land jobId _

/-! ## Late answers and watchdogs -/

theorem Own.noteLateResponse (holds : table.Own produced) {jobId : JobId} {answer : LateAnswer}
    (own : ∀ node job, answer = .success (some node) → table.jobs.get? jobId = some job →
      produced node = some job.setupCode) :
    (table.noteLateResponse jobId answer).Own produced := by
  unfold CommissionJobs.noteLateResponse
  split
  · apply holds.modify jobId
    · intro job
      split <;> rfl
    · intro job stored before
      split
      · exact ⟨before.nodeId, before.result, before.success⟩
      · exact before
  · exact holds
  · rename_i node
    apply holds.modify jobId
    · intro job
      split <;> rfl
    · intro job stored before
      split
      · constructor
        · intro other same
          obtain rfl := Option.some.inj same
          exact own node job rfl stored
        · exact before.result
        · exact before.success
      · exact before

theorem Own.endWatch (holds : table.Own produced) (jobId : JobId) :
    (table.endWatch jobId).Own produced :=
  holds.same rfl rfl rfl

theorem Own.windowClosed (holds : table.Own produced) {jobId : JobId} {known : Bool}
    (taken : table.windowClosed jobId known = some next) : next.Own produced := by
  unfold CommissionJobs.windowClosed at taken
  split at taken
  · split at taken
    · obtain rfl := Option.some.inj taken
      exact holds.endWatch jobId
    · split at taken
      · obtain rfl := Option.some.inj taken
        exact holds.endWatch jobId
      · split at taken
        · obtain rfl := Option.some.inj taken
          exact holds.endWatch jobId
        · split at taken
          · obtain rfl := Option.some.inj taken
            exact holds.endWatch jobId
          · split at taken
            · obtain rfl := Option.some.inj taken
              exact (holds.discardRemoving _).endWatch jobId
            · obtain rfl := Option.some.inj taken
              exact holds.same rfl rfl rfl
  · cases taken

theorem Own.watchEnded (holds : table.Own produced) {jobId : JobId} {settled : Bool}
    (taken : table.watchEnded jobId settled = some next) : next.Own produced := by
  unfold CommissionJobs.watchEnded at taken
  split at taken
  · split at taken
    · cases taken
    · obtain rfl := Option.some.inj taken
      exact holds.endWatch jobId
  · obtain rfl := Option.some.inj taken
    exact (holds.discardRemoving _).endWatch jobId
  · cases taken

/-! ## Claims -/

/-- A job that claims a node of its own code says the truth from then on. -/
theorem Own.reconcileNodeAdded (holds : table.Own produced) {node : NodeId} {scheduled : Bool}
    (own : ∀ jobId job, table.claimable node table.cutoff = some (jobId, job) →
      produced node = some job.setupCode) :
    (table.reconcileNodeAdded node scheduled).2.Own produced := by
  unfold CommissionJobs.reconcileNodeAdded
  split
  · exact holds
  · rename_i jobId job claims
    split
    · rcases claimable_spec claims with ⟨-, stored, -, -⟩
      have produces := own jobId job claims
      constructor
      · intro other changed storedOther
        change (table.jobs.set jobId _).get? other = some changed at storedOther
        rw [InsertionMap.get?_set] at storedOther
        split at storedOther
        · obtain rfl := Option.some.inj storedOther
          constructor
          · intro named same
            obtain rfl := Option.some.inj same
            exact produces
          · exact (holds.jobs jobId job stored).result
          · intro success
            cases success
        · exact holds.jobs other changed storedOther
      · intro other stage named changed waits has storedOther
        change (table.tasks.set jobId (.claimed node)).get? other = some stage at waits
        change (table.jobs.set jobId _).get? other = some changed at storedOther
        rw [InsertionMap.get?_set] at waits storedOther
        split at waits
        · rename_i same
          rw [if_pos same] at storedOther
          obtain rfl := Option.some.inj waits
          obtain rfl := Option.some.inj storedOther
          obtain rfl := Option.some.inj has
          exact produces
        · rename_i elsewhere
          rw [if_neg elsewhere] at storedOther
          exact holds.tasks other stage named changed waits has storedOther
      · exact holds.applied
    · exact holds

end CommissionJobs

/-! ## Runs -/

namespace Commissioning

variable {state next : Commissioning}

theorem mem_waiting {table : CommissionJobs} {job : Job} :
    job ∈ waiting table ↔
      (∃ jobId, table.jobs.get? jobId = some job) ∧
        CommissionJobs.isCandidate table.cutoff job = true := by
  unfold waiting
  rw [List.mem_filter, List.mem_map]
  constructor
  · rintro ⟨⟨⟨jobId, candidate⟩, mem, rfl⟩, waits⟩
    exact ⟨⟨jobId, InsertionMap.mem_entries_iff.mp mem⟩, waits⟩
  · rintro ⟨⟨jobId, stored⟩, waits⟩
    exact ⟨⟨(jobId, job), InsertionMap.mem_entries_iff.mpr stored, rfl⟩, waits⟩

theorem produced_of_isOwn {jobId : JobId} {node : NodeId} {job : Job}
    (own : state.isOwn jobId node = true) (stored : state.table.jobs.get? jobId = some job) :
    state.producedBy.get? node = some job.setupCode := by
  rw [isOwn, stored] at own
  exact of_decide_eq_true own

/-- Unless a stranger joins, the job that claims a node has its setup code. -/
theorem produced_of_claimable (holds : state.table.Own state.producedBy.get?) {node : NodeId}
    {scheduled : Bool} (steady : state.strangerJoins (.job (.nodeAdded node scheduled)) = false)
    {jobId : JobId} {job : Job}
    (claims : state.table.claimable node state.table.cutoff = some (jobId, job)) :
    state.producedBy.get? node = some job.setupCode := by
  rcases CommissionJobs.claimable_spec claims with ⟨stays, stored, waits, knows | ⟨none_, only⟩⟩
  · exact (holds.jobs jobId job stored).nodeId node knows
  · by_contra stranger
    have joins : state.strangerJoins (.job (.nodeAdded node scheduled)) = true := by
      simp only [strangerJoins, Bool.and_eq_true, Bool.not_eq_true', List.any_eq_false,
        List.any_eq_true, List.all_eq_true, decide_eq_true_eq]
      refine ⟨⟨stays, ?_⟩, job, mem_waiting.mpr ⟨⟨jobId, stored⟩, waits⟩, ⟨none_, ?_⟩, stranger⟩
      · intro rival mem
        rcases mem_waiting.mp mem with ⟨⟨other, storedRival⟩, waitsRival⟩
        exact (only other rival storedRival waitsRival).1
      · intro rival mem
        rcases mem_waiting.mp mem with ⟨⟨other, storedRival⟩, waitsRival⟩
        exact (only other rival storedRival waitsRival).2
    rw [steady] at joins
    cases joins

theorem own_job {event : JobEvent} {table : CommissionJobs}
    (holds : state.table.Own state.producedBy.get?) (truth : state.truthful event = true)
    (steady : state.strangerJoins (.job event) = false)
    (taken : state.table.step event = some table) : table.Own state.producedBy.get? := by
  cases event with
  | clock now =>
      obtain rfl := Option.some.inj taken
      exact holds.same rfl rfl rfl
  | createJob jobId request connected scheduled =>
      rw [CommissionJobs.step, Option.ite_none_right_eq_some] at taken
      obtain rfl := Option.some.inj taken.2
      exact holds.createJob jobId request connected scheduled
  | getJob =>
      obtain rfl := Option.some.inj taken
      exact holds.reap
  | begin jobId => exact holds.begin taken
  | commissioned jobId node =>
      apply holds.commissioned _ taken
      rintro value job rfl stored
      exact produced_of_isOwn truth stored
  | descriptorsRead jobId => exact holds.descriptorsRead taken
  | devicesCreated jobId => exact holds.devicesCreated taken
  | failed jobId failure armed => exact holds.failed taken
  | nodeRemoved jobId => exact holds.nodeRemoved taken
  | cancelled jobId => exact holds.cancelled taken
  | nodeAdded node scheduled =>
      obtain rfl := Option.some.inj taken
      exact holds.reconcileNodeAdded fun jobId job claims =>
        produced_of_claimable holds steady claims
  | lateAnswer jobId answer =>
      obtain rfl := Option.some.inj taken
      apply holds.noteLateResponse
      rintro node job rfl stored
      exact produced_of_isOwn truth stored
  | windowClosed jobId known => exact holds.windowClosed taken
  | orphanSettled jobId => exact holds.watchEnded taken
  | watchCancelled jobId => exact holds.watchEnded taken

/-- The invariant of the composition. -/
def OwnsNodes (state : Commissioning) : Prop := state.table.Own state.producedBy.get?

theorem ownsNodes_step {event : CommissioningEvent} (holds : state.OwnsNodes)
    (steady : state.strangerJoins event = false) (taken : step state event = some next) :
    next.OwnsNodes := by
  cases event with
  | joined node setupCode =>
      rw [step] at taken
      split at taken
      · cases taken
      · rename_i new
        obtain rfl := Option.some.inj taken
        apply CommissionJobs.Own.mono holds
        intro other code known
        rw [InsertionMap.get?_set, if_neg]
        · exact known
        · rintro rfl
          apply new
          rw [InsertionMap.has, known]
          rfl
  | job event =>
      rw [step] at taken
      split at taken
      · rename_i truth
        rcases Option.map_eq_some_iff.mp taken with ⟨table, moved, rfl⟩
        have own : table.Own state.producedBy.get? := own_job holds truth steady moved
        exact own
      · cases taken

theorem ownSuccess_of_ownsNodes (holds : state.OwnsNodes) : state.OwnSuccess := by
  have success (jobId : JobId) (job : Job) (stored : state.table.jobs.get? jobId = some job)
      (succeeded : job.status = .success) :
      ∃ node, job.result = some node ∧ state.producedBy.get? node = some job.setupCode := by
    have own := holds.jobs jobId job stored
    rcases Option.ne_none_iff_exists'.mp (own.success succeeded) with ⟨node, result⟩
    exact ⟨node, result, own.result node result⟩
  constructor
  · exact success
  · intro first second job other storedJob storedOther succeeded succeededToo same
    rcases success first job storedJob succeeded with ⟨node, result, produced⟩
    rcases success second other storedOther succeededToo with ⟨node', result', produced'⟩
    obtain rfl : node = node' := Option.some.inj (result.symm.trans (same.trans result'))
    exact Option.some.inj (produced.symm.trans produced')
  · exact holds.applied

theorem ownsNodes_fresh : fresh.OwnsNodes := CommissionJobs.own_fresh

/-- In every run in which no stranger joins, a job succeeds only with the node of its
own setup code, and names and rooms are applied to own nodes only. -/
theorem own_success_of_steady_run {events : List CommissioningEvent}
    (run : RunWhere step (fun state event => state.strangerJoins event = false) fresh events
      state) : state.OwnSuccess := by
  have holds : state.OwnsNodes := run.invariant ownsNodes_fresh
    fun _ _ _ holds steady taken => ownsNodes_step holds steady taken
  exact ownSuccess_of_ownsNodes holds

/-! ## A stranger joins -/

/-- A job that is created, begins, and times out. -/
def timedOut (jobId : JobId) (setupCode : String) : List CommissioningEvent :=
  [.job (.createJob jobId ⟨setupCode, setupCode, none⟩ true true), .job (.begin jobId),
    .job (.failed jobId .timeout true)]

/-- The state after a list of events that can all happen. -/
def play (events : List CommissioningEvent) : Commissioning :=
  (follow step (fun _ _ => True) fresh events).getD fresh

/-- A job times out, and its own node joins late. -/
def joinsLate : List CommissioningEvent :=
  timedOut 1 "MT:A" ++ [.joined 5 "MT:A", .job (.nodeAdded 5 true), .job (.begin 1),
    .job (.devicesCreated 1)]

theorem own_success_of_late_join : (play joinsLate).OwnSuccess := by
  have run : RunWhere step (fun state event => state.strangerJoins event = false) fresh
      joinsLate (play joinsLate) := runWhere_of_follow (by rfl)
  exact own_success_of_steady_run run

/-- A second job is still commissioning when its node joins, and both succeed with it. -/
def claimedByStranger : List CommissioningEvent :=
  timedOut 1 "MT:A" ++
    [.job (.createJob 2 ⟨"MT:B", "MT:B", none⟩ true true), .job (.begin 2), .joined 5 "MT:B",
      .job (.nodeAdded 5 true), .job (.begin 1), .job (.devicesCreated 1),
      .job (.commissioned 2 (some 5)), .job (.descriptorsRead 2), .job (.devicesCreated 2)]

theorem both_succeed_with_one_node :
    ¬ ∀ (events : List CommissioningEvent) (state : Commissioning),
      Run step fresh events state → state.OwnSuccess := by
  intro claimed
  have run : Run step fresh claimedByStranger (play claimedByStranger) :=
    runWhere_of_follow (by rfl)
  have distinct := (claimed _ _ run).distinct 1 2 _ _ rfl rfl rfl rfl rfl
  exact absurd distinct (by decide)

end Commissioning

end IndigoMatter.Plugin
