import IndigoMatter.Plugin.JobHistory

/-!
# The status graph of a commission job

What a coroutine waits for says what its job looks like, a job that waits to be
handed over looks as its caller left it, and so every move of a job follows the
graph: a success is final, a timeout is taken back by a claim inside the window and
by nothing else, and a node that is known stays the one that is known.
-/

namespace IndigoMatter.Plugin

open IndigoMatter.Library

namespace JobHistory

/-! ## What a job looks like -/

/-- The job of a coroutine at a stage. -/
def Fits : Stage → Job → Prop
  | .scheduled, job => job.status = .pending
  | .commissioning, job => job.status = .commissioning
  | .reading node, job => job.status = .readingDescriptors ∧ job.nodeId = some node
  | .removing node _, job =>
      (job.status = .readingDescriptors ∨ job.status = .creatingDevices) ∧ job.nodeId = some node
  | .creating node, job | .claimed node, job | .reconciling node, job =>
      job.status = .creatingDevices ∧ job.nodeId = some node

/-- The terminal time goes with the terminal statuses, and a node is known from the
answer of the server on. -/
structure Sound (job : Job) : Prop where
  terminal : job.terminalAt.isSome = job.status.terminal
  unknown : job.status = .pending ∨ job.status = .commissioning → job.nodeId = none
  known : job.status = .readingDescriptors ∨ job.status = .creatingDevices ∨
    job.status = .success → job.nodeId ≠ none

/-- What the coroutine that is still to be handed over goes with. -/
def Waits (view : View) : Handover → Prop
  | .created _ => view.task = some .scheduled
  | .claimed priors => ∃ node, view.task = some (.claimed node) ∧
      view.job = some (priors.claim node) ∧ priors.status = .failed ∧ Sound priors ∧
      (priors.nodeId = none ∨ priors.nodeId = some node)

/-- A job, its coroutine and its hand-over agree. -/
structure Coherent (view : View) : Prop where
  task : ∀ stage, view.task = some stage → ∃ job, view.job = some job ∧ Fits stage job
  sound : ∀ job, view.job = some job → Sound job
  awaited : ∀ job, view.job = some job → job.status = .commissioning →
    view.task = some .commissioning
  handover : ∀ handover, view.handover = some handover → Waits view handover

theorem coherent_fresh (jobId : JobId) : Coherent (fresh.view jobId) := by
  constructor
  · intro stage waits
    cases waits
  · intro job stored
    cases stored
  · intro job stored
    cases stored
  · intro handover waits
    cases waits

/-- A running job is in the table as long as its coroutine is. -/
theorem Coherent.not_terminal {view : View} (holds : Coherent view) {stage : Stage} {job : Job}
    (waits : view.task = some stage) (stored : view.job = some job) :
    job.status.terminal = false := by
  rcases holds.task stage waits with ⟨other, same, fits⟩
  obtain rfl : job = other := Option.some.inj (stored.symm.trans same)
  cases stage with
  | scheduled => rw [show job.status = .pending from fits]; rfl
  | commissioning => rw [show job.status = .commissioning from fits]; rfl
  | reading node => rw [fits.1]; rfl
  | removing node error => rcases fits.1 with reading | creating <;> simp [*, JobStatus.terminal]
  | creating node | claimed node | reconciling node => rw [fits.1]; rfl

/-- A coroutine that can fail has been handed over. -/
theorem Coherent.idle {view : View} (holds : Coherent view) {stage : Stage}
    (waits : view.task = some stage) (begun : ∀ node, stage ≠ .scheduled ∧ stage ≠ .claimed node) :
    view.handover = none := by
  cases handed : view.handover with
  | none => rfl
  | some handover =>
      have pending := holds.handover handover handed
      cases handover with
      | created setupCode =>
          obtain rfl := Option.some.inj (waits.symm.trans pending)
          exact absurd rfl (begun 0).1
      | claimed priors =>
          rcases pending with ⟨node, claimed, -⟩
          obtain rfl := Option.some.inj (waits.symm.trans claimed)
          exact absurd rfl (begun node).2

/-! ## Sound jobs -/

section Sound

variable {job : Job} {now : Nat}

theorem sound_new (request : CommissionRequest) : Sound (request.job now) :=
  ⟨rfl, fun _ => rfl, by simp [CommissionRequest.job]⟩

theorem sound_fail (error : JobError) : Sound (job.fail now error) :=
  ⟨rfl, by simp [Job.fail, Job.advance], by simp [Job.fail, Job.advance]⟩

theorem sound_begin {progress : Rat} {message : String} (holds : Sound job)
    (pending : job.status = .pending) :
    Sound (job.advance now .commissioning progress message) := by
  constructor
  · simpa [Job.advance, pending, JobStatus.terminal] using holds.terminal
  · exact fun _ => holds.unknown (.inl pending)
  · simp [Job.advance]

theorem sound_named (job : Job) {status : JobStatus} {progress : Rat} {message : String} {node : NodeId}
    (named : job.nodeId = some node) (running : job.terminalAt = none ∨ status = .success)
    (next : status = .readingDescriptors ∨ status = .creatingDevices ∨ status = .success) :
    Sound (job.advance now status progress message) := by
  constructor
  · rcases next with rfl | rfl | rfl
    · simpa [Job.advance, JobStatus.terminal] using running
    · simpa [Job.advance, JobStatus.terminal] using running
    · rfl
  · rcases next with rfl | rfl | rfl <;> simp [Job.advance]
  · simp [Job.advance, named]

theorem sound_claim (node : NodeId) : Sound (job.claim node) :=
  ⟨rfl, by simp [Job.claim], by simp [Job.claim]⟩

theorem Sound.not_stamped (holds : Sound job) (running : job.status.terminal = false) :
    job.terminalAt = none := by
  simpa [running] using holds.terminal

theorem restore_claim {node : NodeId} {priors : Job} (failed : priors.status = .failed) :
    priors.restore (priors.claim node) = priors := by
  rcases priors with ⟨⟩
  simp_all [Job.claim, Job.restore]

end Sound

/-! ## Every move keeps it -/

section Failed

variable {job : Job} {task : Option Stage} {watch : Option WatchStage}
  {handover : Option Handover}

/-- A failed job has no coroutine. -/
theorem noTask_of_failed (holds : Coherent ⟨some job, task, watch, handover⟩)
    (failed : job.status = .failed) : task = none := by
  cases task with
  | none => rfl
  | some stage =>
      have running := holds.not_terminal rfl rfl
      rw [failed] at running
      cases running

/-- Nothing of a failed job waits to be handed over. -/
theorem idle_of_failed (holds : Coherent ⟨some job, task, watch, handover⟩)
    (failed : job.status = .failed) : handover = none := by
  have noTask := noTask_of_failed holds failed
  cases handover with
  | none => rfl
  | some pending =>
      have waits := holds.handover pending rfl
      cases pending with
      | created setupCode => cases noTask.symm.trans waits
      | claimed priors =>
          rcases waits with ⟨node, claimed, -⟩
          cases noTask.symm.trans claimed

/-- A job whose request has been given up, and that does not know its node, has failed. -/
theorem failed_of_unknown (holds : Coherent ⟨some job, task, watch, handover⟩)
    (unknown : job.nodeId = none) (sent : job.status ≠ .pending)
    (unawaited : task ≠ some .commissioning) : job.status = .failed := by
  have sound := holds.sound job rfl
  cases status : job.status with
  | failed => rfl
  | pending => exact absurd status sent
  | commissioning => exact absurd (holds.awaited job rfl status) unawaited
  | readingDescriptors => exact absurd unknown (sound.known (.inl status))
  | creatingDevices => exact absurd unknown (sound.known (.inr (.inl status)))
  | success => exact absurd unknown (sound.known (.inr (.inr status)))

end Failed

theorem coherent_move {state : JobHistory} {jobId : JobId} {event : HistoryEvent}
    {view next : View} (move : JobMove state jobId event view next) (holds : Coherent view) :
    Coherent next := by
  cases move with
  | same => exact holds
  | reaped terminal =>
      rename_i job task watch handover
      have ended : job.status.terminal = true := (holds.sound job rfl).terminal ▸ terminal
      have noTask : task = none := by
        cases task with
        | none => rfl
        | some stage => simp [holds.not_terminal rfl rfl] at ended
      subst noTask
      refine ⟨by simp, by simp, by simp, fun pending handed => ?_⟩
      have waits := holds.handover pending handed
      cases pending with
      | created setupCode => cases waits
      | claimed priors => rcases waits with ⟨node, none, -⟩; cases none
  | entered =>
      rename_i request
      constructor
      · rintro stage ⟨⟩
        exact ⟨_, rfl, rfl⟩
      · rintro job ⟨⟩
        exact sound_new request
      · rintro job ⟨⟩ commissioning
        cases commissioning
      · rintro handover ⟨⟩
        rfl
  | dropped => exact ⟨by simp, by simp, by simp, by simp⟩
  | taken => exact ⟨holds.task, holds.sound, holds.awaited, by simp⟩
  | restored =>
      rename_i job task watch priors
      rcases holds.handover _ rfl with ⟨node, -, stored, failed, sound, -⟩
      obtain rfl : job = some (priors.claim node) := stored
      rw [Option.map_some, restore_claim failed]
      exact ⟨by simp, by rintro job ⟨⟩; exact sound, by rintro job ⟨⟩; simp [failed], by simp⟩
  | began =>
      rename_i job watch
      rcases holds.task _ rfl with ⟨job, rfl, pending⟩
      constructor
      · rintro stage ⟨⟩
        exact ⟨_, rfl, rfl⟩
      · rintro changed ⟨⟩
        exact sound_begin (holds.sound job rfl) pending
      · exact fun _ _ _ => rfl
      · simp
  | reconciles =>
      rename_i job watch node
      rcases holds.task _ rfl with ⟨job, rfl, fits⟩
      constructor
      · rintro stage ⟨⟩
        exact ⟨job, rfl, fits⟩
      · exact holds.sound
      · rintro changed ⟨⟩ commissioning
        rw [fits.1] at commissioning
        cases commissioning
      · simp
  | commissioned =>
      rename_i job watch handover node
      rcases holds.task _ rfl with ⟨job, rfl, fits⟩
      have idle : handover = none := holds.idle rfl (by simp)
      subst idle
      have running := (holds.sound job rfl).not_stamped (holds.not_terminal rfl rfl)
      constructor
      · rintro stage ⟨⟩
        exact ⟨_, rfl, rfl, rfl⟩
      · rintro changed ⟨⟩
        exact sound_named { job with nodeId := some node } rfl (.inl running) (.inl rfl)
      · rintro changed ⟨⟩ commissioning
        cases commissioning
      · simp
  | read =>
      rename_i job watch handover node
      rcases holds.task _ rfl with ⟨job, rfl, fits⟩
      have idle : handover = none := holds.idle rfl (by simp)
      subst idle
      have running := (holds.sound job rfl).not_stamped (holds.not_terminal rfl rfl)
      constructor
      · rintro stage ⟨⟩
        exact ⟨_, rfl, rfl, fits.2⟩
      · rintro changed ⟨⟩
        exact sound_named job fits.2 (.inl running) (.inr (.inl rfl))
      · rintro changed ⟨⟩ commissioning
        cases commissioning
      · simp
  | succeeded creates =>
      rename_i job watch handover stage node message
      rcases holds.task _ rfl with ⟨job, rfl, fits⟩
      have idle : handover = none := by
        apply holds.idle rfl
        rcases creates with rfl | rfl <;> simp
      subst idle
      have named : job.nodeId = some node := by
        rcases creates with rfl | rfl
        · exact fits.2
        · exact fits.2
      constructor
      · simp
      · rintro changed ⟨⟩
        exact sound_named { job with result := some node } named (.inr rfl) (.inr (.inr rfl))
      · rintro changed ⟨⟩ commissioning
        cases commissioning
      · simp
  | landed worker fails watched =>
      rename_i job watch watch' handover stage error
      rcases holds.task _ rfl with ⟨job, rfl, fits⟩
      have idle : handover = none := by
        apply holds.idle rfl
        cases stage <;> simp_all [Fails]
      subst idle
      constructor
      · simp
      · rintro changed ⟨⟩
        exact sound_fail error
      · rintro changed ⟨⟩ commissioning
        cases commissioning
      · simp
  | removes stages free =>
      rename_i job watch handover stage node error
      rcases holds.task _ rfl with ⟨job, rfl, fits⟩
      have idle : handover = none := by
        apply holds.idle rfl
        rcases stages with rfl | rfl <;> simp
      subst idle
      have removing : Fits (.removing node error) job := by
        rcases stages with rfl | rfl
        · exact ⟨.inl fits.1, fits.2⟩
        · exact ⟨.inr fits.1, fits.2⟩
      constructor
      · rintro stage ⟨⟩
        exact ⟨job, rfl, removing⟩
      · exact holds.sound
      · rintro changed ⟨⟩ commissioning
        rcases removing.1 with other | other <;> simp [other] at commissioning
      · simp
  | cancelled stays =>
      rename_i job watch stage
      rcases holds.task _ rfl with ⟨job, rfl, fits⟩
      refine ⟨by simp, holds.sound, ?_, by simp⟩
      rintro changed ⟨⟩ commissioning
      exact absurd (Option.some.inj (holds.awaited job rfl commissioning)) stays
  | claimed claims =>
      rename_i job task watch handover node
      rcases CommissionJobs.claimable_spec claims with ⟨-, -, candidate, named⟩
      have failed : job.status = .failed := by
        simp only [CommissionJobs.isCandidate, Bool.and_eq_true, decide_eq_true_eq] at candidate
        exact candidate.1.1
      constructor
      · rintro stage ⟨⟩
        exact ⟨_, rfl, rfl, rfl⟩
      · rintro changed ⟨⟩
        exact sound_claim node
      · rintro changed ⟨⟩ commissioning
        cases commissioning
      · rintro pending ⟨⟩
        refine ⟨node, rfl, rfl, failed, holds.sound job rfl, ?_⟩
        rcases named with known | unknown
        · exact .inr known
        · exact .inl unknown.1
  | lateError failed timedOut =>
      rename_i job task watch handover matterErrorCode details error
      have noTask : task = none := noTask_of_failed holds failed
      subst noTask
      have idle : handover = none := idle_of_failed holds failed
      subst idle
      refine ⟨by simp, ?_, ?_, by simp⟩
      · rintro changed ⟨⟩
        have sound := holds.sound job rfl
        exact ⟨sound.terminal, sound.unknown, sound.known⟩
      · rintro changed ⟨⟩ commissioning
        rw [show job.status = .commissioning from commissioning] at failed
        cases failed
  | lateSuccess unknown sent unawaited =>
      rename_i job task watch handover node
      have failed : job.status = .failed := failed_of_unknown holds unknown sent unawaited
      have noTask : task = none := noTask_of_failed holds failed
      subst noTask
      have idle : handover = none := idle_of_failed holds failed
      subst idle
      refine ⟨by simp, ?_, ?_, by simp⟩
      · rintro changed ⟨⟩
        exact ⟨(holds.sound job rfl).terminal, by simp [failed], by simp⟩
      · rintro changed ⟨⟩ commissioning
        rw [show job.status = .commissioning from commissioning] at failed
        cases failed
  | watchEnds => exact ⟨holds.task, holds.sound, holds.awaited, holds.handover⟩
  | watchRemoves failed timedOut known free =>
      exact ⟨holds.task, holds.sound, holds.awaited, holds.handover⟩

/-! ## Runs -/

variable {state next : JobHistory} {event : HistoryEvent} {events : List HistoryEvent}

theorem coherent_of_run (run : Run step fresh events state) (jobId : JobId) :
    Coherent (state.view jobId) := by
  have holds : ∀ jobId, Coherent (state.view jobId) := by
    apply run.invariant
    · exact coherent_fresh
    · intro state event next holds _ taken jobId
      exact coherent_move (moves_of_step taken jobId) (holds jobId)
  exact holds jobId

/-- What an event may do to a job that stays in the table: a success is kept; a
failure is left for a claim of a timed-out job inside the window; a node that is
known is kept, or forgotten again with a claim the loop did not take; and a late
answer re-codes a timeout or names an unknown node. -/
structure FollowsGraph (state : JobHistory) (event : HistoryEvent) (jobId : JobId)
    (job next : Job) : Prop where
  success : job.status = .success → next.status = .success
  failed : job.status = .failed → next.status ≠ .failed →
    ∃ node, event = .nodeAdded node ∧ job.reportsTimeout = true ∧
      ∃ terminalAt, job.terminalAt = some terminalAt ∧ state.table.cutoff ≤ terminalAt
  nodeId : ∀ node, job.nodeId = some node →
    next.nodeId = some node ∨ event = .handedOver jobId false ∧ next.nodeId = none
  late : ∀ other answer, event = .job (.lateAnswer other answer) →
    next = job ∨
      (job.status = .failed ∧ job.reportsTimeout = true ∧
        ∃ error, next = { job with error := some error }) ∨
      (job.nodeId = none ∧ ∃ node, next = { job with nodeId := some node })

theorem FollowsGraph.same {jobId : JobId} {job : Job} : FollowsGraph state event jobId job job :=
  ⟨id, fun failed left => absurd failed left, fun _ known => .inl known, fun _ _ _ => .inl rfl⟩

/-- A step of the coroutine of a job that knows its node, or learns it. -/
theorem FollowsGraph.worker {jobId : JobId} {job after : Job} (running : job.status.terminal = false)
    (kept : ∀ node, job.nodeId = some node → after.nodeId = some node)
    (notLate : ∀ other answer, event ≠ .job (.lateAnswer other answer)) :
    FollowsGraph state event jobId job after := by
  constructor
  · intro success
    rw [success] at running
    cases running
  · intro failed
    rw [failed] at running
    cases running
  · exact fun node known => .inl (kept node known)
  · exact fun other answer same => absurd same (notLate other answer)

/-- A job waits to be claimed when it has timed out inside the window. -/
theorem candidate_iff {cutoff : Nat} {job : Job} :
    CommissionJobs.isCandidate cutoff job = true ↔
      job.status = .failed ∧ job.reportsTimeout = true ∧
        ∃ terminalAt, job.terminalAt = some terminalAt ∧ cutoff ≤ terminalAt := by
  simp [CommissionJobs.isCandidate, and_assoc, Option.any_eq_true]

theorem followsGraph_of_move {jobId : JobId} {view after : View}
    (move : JobMove state jobId event view after) (holds : Coherent view) {job changed : Job}
    (stored : view.job = some job) (remains : after.job = some changed) :
    FollowsGraph state event jobId job changed := by
  cases move with
  | same =>
      obtain rfl := Option.some.inj (stored.symm.trans remains)
      exact .same
  | reaped terminal => cases remains
  | entered => cases stored
  | dropped => cases remains
  | taken | reconciles | removes | cancelled | watchEnds =>
      obtain rfl := Option.some.inj (stored.symm.trans remains)
      exact .same
  | watchRemoves =>
      obtain rfl := Option.some.inj (stored.symm.trans remains)
      exact .same
  | restored =>
      rename_i job' task watch priors
      rcases holds.handover _ rfl with ⟨node, -, claimed, failed, -, named⟩
      obtain rfl : priors.claim node = job := Option.some.inj (claimed.symm.trans stored)
      cases claimed
      rw [Option.map_some, restore_claim failed] at remains
      obtain rfl := Option.some.inj remains
      constructor
      · rintro ⟨⟩
      · rintro ⟨⟩
      · rintro other ⟨⟩
        rcases named with unknown | known
        · exact .inr ⟨rfl, unknown⟩
        · exact .inl known
      · rintro other answer ⟨⟩
  | began =>
      cases stored
      obtain rfl := Option.some.inj remains
      exact .worker (holds.not_terminal rfl rfl) (fun _ known => known) (by simp)
  | commissioned =>
      cases stored
      obtain rfl := Option.some.inj remains
      rcases holds.task _ rfl with ⟨same, found, fits⟩
      obtain rfl := Option.some.inj found
      apply FollowsGraph.worker (holds.not_terminal rfl rfl)
      · intro known named
        rw [(holds.sound _ rfl).unknown (.inr fits)] at named
        cases named
      · simp
  | read =>
      cases stored
      obtain rfl := Option.some.inj remains
      exact .worker (holds.not_terminal rfl rfl) (fun _ known => known) (by simp)
  | succeeded creates =>
      cases stored
      obtain rfl := Option.some.inj remains
      exact .worker (holds.not_terminal rfl rfl) (fun _ known => known) (by simp)
  | landed worker fails watched =>
      cases stored
      obtain rfl := Option.some.inj remains
      refine .worker (holds.not_terminal rfl rfl) (fun _ known => known) ?_
      intro other answer same
      exact worker other answer (HistoryEvent.job.inj same)
  | claimed claims =>
      obtain rfl := Option.some.inj stored
      obtain rfl := Option.some.inj remains
      rename_i task watch handover node
      rcases CommissionJobs.claimable_spec claims with ⟨-, -, candidate, named⟩
      rcases candidate_iff.mp candidate with ⟨failed, timedOut, inside⟩
      constructor
      · intro success
        rw [failed] at success
        cases success
      · exact fun _ _ => ⟨node, rfl, timedOut, inside⟩
      · intro other known
        rcases named with same | unknown
        · rw [known] at same
          exact .inl same.symm
        · rw [unknown.1] at known
          cases known
      · rintro other answer ⟨⟩
  | lateError failed timedOut =>
      obtain rfl := Option.some.inj stored
      obtain rfl := Option.some.inj remains
      exact ⟨id, fun _ left => absurd failed left, fun _ known => .inl known,
        fun _ _ _ => .inr (.inl ⟨failed, timedOut, _, rfl⟩)⟩
  | lateSuccess unknown sent unawaited =>
      obtain rfl := Option.some.inj stored
      obtain rfl := Option.some.inj remains
      constructor
      · exact id
      · exact fun failed left => absurd failed left
      · intro node known
        rw [unknown] at known
        cases known
      · exact fun _ _ _ => .inr (.inr ⟨unknown, _, rfl⟩)

/-- Until the loop has taken or refused it, a claimed job waits with its priors. -/
theorem handover_kept {jobId : JobId} {view after : View}
    (move : JobMove state jobId event view after) (holds : Coherent view) {priors : Job}
    (waits : view.handover = some (.claimed priors))
    (pending : ∀ scheduled, event ≠ .handedOver jobId scheduled) :
    after.handover = some (.claimed priors) := by
  cases move with
  | dropped | taken | restored => exact absurd rfl (pending _)
  | entered | began | reconciles | cancelled => cases waits
  | claimed claims =>
      rename_i job task watch handover node
      rcases CommissionJobs.claimable_spec claims with ⟨-, -, candidate, -⟩
      have idle : handover = none := idle_of_failed holds (candidate_iff.mp candidate).1
      rw [idle] at waits
      cases waits
  | same | reaped | commissioned | read | succeeded | landed | removes | lateError | lateSuccess
  | watchEnds | watchRemoves => exact waits

/-- A claimed job waits to be handed over, and every job is coherent. -/
def ClaimPending (jobId : JobId) (priors : Job) (state : JobHistory) : Prop :=
  (∀ other, Coherent (state.view other)) ∧
    (state.view jobId).handover = some (.claimed priors)

/-- A claim the loop does not take leaves no trace, whatever has happened since. -/
theorem claim_undone {node : NodeId} {jobId : JobId} {job : Job} {middle last : JobHistory}
    (coherent : ∀ jobId, Coherent (state.view jobId))
    (claims : state.table.claimable node state.table.cutoff = some (jobId, job))
    (later : RunWhere step (fun _ event => ∀ scheduled, event ≠ .handedOver jobId scheduled)
      (state.nodeAdded node) events middle)
    (refused : step middle (.handedOver jobId false) = some last) :
    last.table.jobs.get? jobId = some job := by
  have joins : step state (.nodeAdded node) = some (state.nodeAdded node) := rfl
  have claimed : ∀ other, Coherent ((state.nodeAdded node).view other) := fun other =>
    coherent_move (moves_of_step joins other) (coherent other)
  have waits : ((state.nodeAdded node).view jobId).handover = some (.claimed job) := by
    simp [nodeAdded, claims, view]
  have kept : ClaimPending jobId job middle := by
    apply later.invariant
    · exact ⟨claimed, waits⟩
    · intro state event next holds pending taken
      have moves := moves_of_step taken
      exact ⟨fun other => coherent_move (moves other) (holds.1 other),
        handover_kept (moves jobId) (holds.1 jobId) holds.2 pending⟩
  rcases (kept.1 jobId).handover _ kept.2 with ⟨other, -, stored, failed, -⟩
  have stored : middle.table.jobs.get? jobId = some (job.claim other) := stored
  have handed : middle.handovers.get? jobId = some (.claimed job) := kept.2
  simp only [step, handedOver, handed, Option.map_some, Option.some.injEq] at refused
  rw [← refused]
  change (middle.table.modify jobId (Job.restore job)).jobs.get? jobId = some job
  rw [CommissionJobs.get?_modify, if_pos rfl, stored, Option.map_some, restore_claim failed]

/-- In every state a history reaches, every event takes every job along the graph, a
claim whose coroutine the loop does not take puts the job back exactly as it was, and
a job has a terminal time exactly when its status is terminal. -/
theorem status_graph_of_run (run : Run step fresh events state) :
    (∀ event next, step state event = some next → ∀ jobId job after,
      state.table.jobs.get? jobId = some job → next.table.jobs.get? jobId = some after →
        FollowsGraph state event jobId job after) ∧
    (∀ node jobId job later middle last,
      state.table.claimable node state.table.cutoff = some (jobId, job) →
      RunWhere step (fun _ event => ∀ scheduled, event ≠ .handedOver jobId scheduled)
        (state.nodeAdded node) later middle →
      step middle (.handedOver jobId false) = some last →
        last.table.jobs.get? jobId = some job) ∧
    (∀ jobId job, state.table.jobs.get? jobId = some job →
      (job.terminalAt.isSome ↔ job.status.terminal = true)) := by
  have coherent := coherent_of_run run
  refine ⟨?_, ?_, ?_⟩
  · intro event next taken jobId job after stored remains
    exact followsGraph_of_move (moves_of_step taken jobId) (coherent jobId) stored remains
  · exact fun node jobId job later middle last claims run refused =>
      claim_undone coherent claims run refused
  · intro jobId job stored
    rw [((coherent jobId).sound job stored).terminal]

/-- The state after a list of events that can all happen. -/
def play (events : List HistoryEvent) : JobHistory :=
  (follow step (fun _ _ => True) fresh events).getD fresh

/-- A job whose commission request times out. -/
def timesOut (jobId : JobId) (setupCode : String) : List HistoryEvent :=
  [.createJob jobId ⟨setupCode, setupCode, none⟩ true, .handedOver jobId true,
    .job (.begin jobId), .job (.failed jobId .timeout true)]

/-- A node joins, the timed-out job claims it, and the loop is down. -/
theorem timeout_restored_of_refused_claim :
    (play (timesOut 1 "MT:A" ++ [.nodeAdded 5, .handedOver 1 false])).table.jobs.get? 1 =
      (play (timesOut 1 "MT:A")).table.jobs.get? 1 := by
  have run : Run step fresh (timesOut 1 "MT:A") (play (timesOut 1 "MT:A")) :=
    runWhere_of_follow (by rfl)
  exact (status_graph_of_run run).2.1 5 1 _ [] _ _ rfl .nil rfl

end JobHistory

end IndigoMatter.Plugin
