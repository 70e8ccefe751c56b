import IndigoMatter.Library.Transition
import Mathlib.Logic.Function.Basic
import Mathlib.Order.MinMax

/-!
# Verification after a start

A start of the process arms a verification: a deadline in an attribute of the agent.
Once the deadline has passed, the watchdog takes it as a token, looks at the process,
and where that ends in a verdict clears the attribute if it still equals the token.  A
rebuilt agent takes over a deadline that its predecessor still has.

Several threads do this at once, and every read and write of the attribute is a step of
its own.  A clear that compares before a new start and writes after it wipes the new
deadline, and so does a rebuilt agent that takes over after it was started itself.
A start by the legacy load arms nothing.
-/

namespace IndigoMatter.Plugin

open IndigoMatter.Library

namespace BootVerification

/-! ## Agents and threads -/

def STARTUP_GRACE_SECONDS : Int := 120

/-- The clock counts nanoseconds. -/
def NANOSECONDS : Int := 1000000000

/-- An armed deadline, and the number of the write that armed it. -/
structure Arming where
  deadline : Int
  id : Nat

/-- How a probe ends: the port report raises, it names a conflict, or it is quiet and
`post_bootstrap_verdict` tells a dead process, a healthy one and one too young to judge. -/
inductive Finding
  | raised
  | conflict
  | dead
  | conflictFree
  | pending

/-- Only a conflict, a dead process and a healthy one are verdicts. -/
def Finding.isVerdict : Finding → Bool
  | .conflict | .dead | .conflictFree => true
  | .raised | .pending => false

/-- The verdict on the token of a number, from a probe begun at a time. -/
structure Verdict where
  token : Nat
  since : Nat
  renderedAt : Nat
  finding : Finding

/-- Where a thread is: a start that has still to arm, the reads of a due check, the probe
and the clear that follow it, or a rebuilt agent that takes over.  A token to be cleared
comes with the verdict on it; where its verification is abandoned there is none. -/
inductive Stage
  | idle
  | arming (agent startedAt : Nat)
  | found (agent : Nat)
  | due (agent : Nat)
  | observed (agent : Nat) (token : Arming)
  | probing (agent : Nat) (token : Arming) (since : Nat)
  | judged (agent : Nat) (token : Arming) (verdict : Option Verdict)
  | clearing (agent : Nat) (token : Arming) (verdict : Option Verdict) (issuedAt : Nat)
  | adopting (agent previous : Nat)
  | copying (agent : Nat) (value : Option Arming)

/-- A clear that took effect: its token, the arming it wiped, when it was issued, and the
verdict it was issued on. -/
structure Clear where
  agent : Nat
  token : Nat
  cleared : Nat
  issuedAt : Nat
  verdict : Option Verdict

/-- `armed` is the attribute of each agent.  The rest records what has happened: the time,
the number of armings, for every arming when its process was started and when it was
armed, for every agent the latest start it answers for, the starts that ended without
arming, and the clears that took effect. -/
structure State where
  armed : Nat → Option Arming
  stages : Nat → Stage
  now : Nat
  armings : Nat
  startOf : Nat → Nat
  armedAt : Nat → Nat
  latest : Nat → Nat
  unarmed : List Nat
  clears : List Clear

/-- No agent is armed and no thread is at work. -/
def idle : State :=
  ⟨fun _ => none, fun _ => .idle, 1, 0, fun _ => 0, fun _ => 0, fun _ => 0, [], []⟩

namespace State

/-- A thread comes to a stage. -/
def goes (state : State) (thread : Nat) (stage : Stage) : State :=
  { state with stages := Function.update state.stages thread stage, now := state.now + 1 }

/-- The attribute of an agent is written. -/
def writes (state : State) (agent : Nat) (value : Option Arming) : State :=
  { state with armed := Function.update state.armed agent value }

/-- The latest start an agent answers for once it has taken over an arming. -/
def handedOver (state : State) (agent : Nat) (value : Option Arming) : Nat :=
  match value with
  | some arming => max (state.latest agent) (state.startOf arming.id)
  | none => state.latest agent

end State

/-! ## Steps -/

inductive Event
  | bootstrap (thread agent : Nat)
  | arm (thread : Nat) (monotonic : Int)
  | legacyLoad (thread agent : Nat)
  | check (thread agent : Nat)
  | compare (thread : Nat) (monotonic : Int)
  | observe (thread : Nat)
  | probe (thread : Nat)
  | judge (thread : Nat) (finding : Finding)
  | abandon (thread : Nat)
  | clear (thread : Nat)
  | disarm (thread : Nat)
  | adopt (thread agent previous : Nat)
  | read (thread : Nat)
  | copy (thread : Nat)

/-- One step of one thread.  A successful start is `bootstrap` and then `arm`, or
`legacyLoad`; a due check is `check`, `compare` and `observe`; a clear compares and then
writes, as `clear` and `disarm`; taking over is `adopt`, `read` and `copy`. -/
def step (state : State) : Event → Option State
  | .bootstrap thread agent =>
      match state.stages thread with
      | .idle => some (state.goes thread (.arming agent state.now))
      | _ => none
  | .arm thread monotonic =>
      match state.stages thread with
      | .arming agent startedAt =>
          some { (state.writes agent
              (some ⟨monotonic + STARTUP_GRACE_SECONDS * NANOSECONDS, state.armings⟩)).goes thread .idle with
            armings := state.armings + 1
            startOf := Function.update state.startOf state.armings startedAt
            armedAt := Function.update state.armedAt state.armings state.now
            latest := Function.update state.latest agent (max (state.latest agent) startedAt) }
      | _ => none
  | .legacyLoad thread _ =>
      match state.stages thread with
      | .idle => some { state.goes thread .idle with unarmed := state.unarmed ++ [state.now] }
      | _ => none
  | .check thread agent =>
      match state.stages thread with
      | .idle => some (state.goes thread (if (state.armed agent).isSome then .found agent else .idle))
      | _ => none
  | .compare thread monotonic =>
      match state.stages thread with
      | .found agent =>
          match state.armed agent with
          | some arming =>
              some (state.goes thread (if monotonic < arming.deadline then .idle else .due agent))
          | none => some (state.goes thread .idle)
      | _ => none
  | .observe thread =>
      match state.stages thread with
      | .due agent =>
          match state.armed agent with
          | some arming => some (state.goes thread (.observed agent arming))
          | none => some (state.goes thread .idle)
      | _ => none
  | .probe thread =>
      match state.stages thread with
      | .observed agent token => some (state.goes thread (.probing agent token state.now))
      | _ => none
  | .judge thread finding =>
      match state.stages thread with
      | .probing agent token since =>
          some (state.goes thread
            (if finding.isVerdict then
              .judged agent token (some ⟨token.id, since, state.now, finding⟩)
            else .idle))
      | _ => none
  | .abandon thread =>
      match state.stages thread with
      | .observed agent token => some (state.goes thread (.judged agent token none))
      | _ => none
  | .clear thread =>
      match state.stages thread with
      | .judged agent token verdict =>
          match state.armed agent with
          | some arming =>
              some (state.goes thread
                (if arming.deadline = token.deadline then .clearing agent token verdict state.now
                else .idle))
          | none => some (state.goes thread .idle)
      | _ => none
  | .disarm thread =>
      match state.stages thread with
      | .clearing agent token verdict issuedAt =>
          some { (state.writes agent none).goes thread .idle with
            clears := state.clears ++ (state.armed agent).toList.map fun arming =>
              ⟨agent, token.id, arming.id, issuedAt, verdict⟩ }
      | _ => none
  | .adopt thread agent previous =>
      match state.stages thread with
      | .idle =>
          some (state.goes thread
            (if (state.armed agent).isNone then .adopting agent previous else .idle))
      | _ => none
  | .read thread =>
      match state.stages thread with
      | .adopting agent previous => some (state.goes thread (.copying agent (state.armed previous)))
      | _ => none
  | .copy thread =>
      match state.stages thread with
      | .copying agent value =>
          some { (state.writes agent value).goes thread .idle with
            latest := Function.update state.latest agent (state.handedOver agent value) }
      | _ => none

/-! ## What is claimed -/

/-- A clear was issued after a verdict on its own token, computed after a start. -/
def Clear.Follows (clear : Clear) (start : Nat) : Prop :=
  ∃ verdict, clear.verdict = some verdict ∧ verdict.finding.isVerdict = true ∧
    verdict.token = clear.token ∧ start < verdict.since ∧ verdict.renderedAt < clear.issuedAt

/-- An agent answers for no start, or a clear has followed a verdict computed after its
latest start. -/
def Verified (state : State) (agent : Nat) : Prop :=
  state.latest agent = 0 ∨
    ∃ clear ∈ state.clears, clear.agent = agent ∧ clear.Follows (state.latest agent)

/-- A verification armed after the latest start is still to come. -/
def Pending (state : State) (agent : Nat) : Prop :=
  ∃ arming, state.armed agent = some arming ∧ state.latest agent < state.armedAt arming.id

/-- Every start has armed, every clear has cleared the arming of its token after a verdict
computed after the start of that arming, and the latest start of an agent is verified
unless its verification is still armed. -/
structure Guarded (state : State) : Prop where
  arms : state.unarmed = []
  own : ∀ clear ∈ state.clears, clear.cleared = clear.token
  judged : ∀ clear ∈ state.clears, clear.Follows (state.startOf clear.token)
  verified : ∀ agent, Verified state agent ∨ Pending state agent

/-- A step that no other thread has spoiled: a start arms, no verification is abandoned, a
deadline that equals a token is that of the token, a clear writes over its own token or
over nothing, and an agent that takes over has not been armed in between. -/
def Undisturbed (state : State) : Event → Prop
  | .legacyLoad _ _ | .abandon _ => False
  | .clear thread => ∀ agent token verdict, state.stages thread = .judged agent token verdict →
      ∀ arming, state.armed agent = some arming → arming.deadline = token.deadline →
        arming.id = token.id
  | .disarm thread => ∀ agent token verdict issuedAt,
      state.stages thread = .clearing agent token verdict issuedAt →
        ∀ arming, state.armed agent = some arming → arming.id = token.id
  | .copy thread => ∀ agent value, state.stages thread = .copying agent value →
      state.armed agent = none
  | _ => True

/-! ## What keeps it -/

/-- A verdict on a token, computed after its arming and rendered before a time. -/
def Judged (state : State) (token : Arming) (verdict : Option Verdict) (time : Nat) : Prop :=
  token.id < state.armings ∧ ∃ rendered, verdict = some rendered ∧
    rendered.finding.isVerdict = true ∧ rendered.token = token.id ∧
      state.armedAt token.id < rendered.since ∧ rendered.renderedAt < time

/-- What a thread at a stage can rely on. -/
def StageSound (state : State) : Stage → Prop
  | .arming _ startedAt => startedAt < state.now
  | .observed _ token => token.id < state.armings
  | .probing _ token since => token.id < state.armings ∧ state.armedAt token.id < since
  | .judged _ token verdict => Judged state token verdict state.now
  | .clearing _ token verdict issuedAt => Judged state token verdict issuedAt
  | .copying _ value => ∀ arming, value = some arming → arming.id < state.armings
  | _ => True

structure ClearSound (state : State) (clear : Clear) : Prop where
  old : clear.token < state.armings
  own : clear.cleared = clear.token
  judged : clear.Follows (state.startOf clear.token)

structure Tracked (state : State) : Prop where
  arms : state.unarmed = []
  clears : ∀ clear ∈ state.clears, ClearSound state clear
  verified : ∀ agent, Verified state agent ∨ Pending state agent
  clock : ∀ agent, state.latest agent < state.now
  armedIds : ∀ agent arming, state.armed agent = some arming → arming.id < state.armings
  started : ∀ id, id < state.armings → state.startOf id < state.armedAt id
  times : ∀ id, id < state.armings → state.armedAt id < state.now
  stages : ∀ thread, StageSound state (state.stages thread)

theorem Tracked.guarded {state : State} (tracked : Tracked state) : Guarded state where
  arms := tracked.arms
  own := fun clear listed => (tracked.clears clear listed).own
  judged := fun clear listed => (tracked.clears clear listed).judged
  verified := tracked.verified

theorem tracked_idle : Tracked idle where
  arms := rfl
  clears := fun _ listed => absurd listed List.not_mem_nil
  verified := fun _ => .inl (.inl rfl)
  clock := fun _ => Nat.zero_lt_one
  armedIds := fun _ _ armed => by cases armed
  started := fun _ old => absurd old (Nat.not_lt_zero _)
  times := fun _ old => absurd old (Nat.not_lt_zero _)
  stages := fun _ => trivial

variable {state next : State} {thread : Nat}

/-- Time passes, and what is recorded of an arming stays. -/
structure Extends (state next : State) : Prop where
  now : state.now ≤ next.now
  armings : state.armings ≤ next.armings
  startOf : ∀ id, id < state.armings → next.startOf id = state.startOf id
  armedAt : ∀ id, id < state.armings → next.armedAt id = state.armedAt id

theorem Judged.mono {token : Arming} {verdict : Option Verdict} {time later : Nat}
    (judged : Judged state token verdict time) (kept : Extends state next) (le : time ≤ later) :
    Judged next token verdict later := by
  obtain ⟨old, rendered, same, isVerdict, own, after, before⟩ := judged
  refine ⟨Nat.lt_of_lt_of_le old kept.armings, rendered, same, isVerdict, own, ?_,
    Nat.lt_of_lt_of_le before le⟩
  rw [kept.armedAt token.id old]
  exact after

theorem StageSound.mono (kept : Extends state next) {stage : Stage}
    (sound : StageSound state stage) : StageSound next stage := by
  cases stage with
  | idle | found _ | due _ | adopting _ _ => trivial
  | arming agent startedAt => exact Nat.lt_of_lt_of_le sound kept.now
  | observed agent token => exact Nat.lt_of_lt_of_le sound kept.armings
  | probing agent token since =>
      refine ⟨Nat.lt_of_lt_of_le sound.1 kept.armings, ?_⟩
      rw [kept.armedAt token.id sound.1]
      exact sound.2
  | judged agent token verdict => exact Judged.mono sound kept kept.now
  | clearing agent token verdict issuedAt => exact Judged.mono sound kept (le_refl _)
  | copying agent value =>
      exact fun arming same => Nat.lt_of_lt_of_le (sound arming same) kept.armings

theorem ClearSound.mono (kept : Extends state next) {clear : Clear}
    (sound : ClearSound state clear) : ClearSound next clear where
  old := Nat.lt_of_lt_of_le sound.old kept.armings
  own := sound.own
  judged := by
    rw [kept.startOf clear.token sound.old]
    exact sound.judged

/-- The stages of the threads stay sound where that of one thread changes. -/
theorem stages_of_change (stages : ∀ thread, StageSound state (state.stages thread))
    (kept : Extends state next) {stage : Stage}
    (changed : next.stages = Function.update state.stages thread stage)
    (own : StageSound next stage) : ∀ thread, StageSound next (next.stages thread) := by
  rw [changed]
  apply (Function.forall_update_iff state.stages fun _ stage => StageSound next stage).mpr
  exact ⟨own, fun other _ => (stages other).mono kept⟩

/-- A step that writes no attribute. -/
theorem Tracked.goes (tracked : Tracked state) {stage : Stage}
    (own : StageSound (state.goes thread stage) stage) : Tracked (state.goes thread stage) where
  arms := tracked.arms
  clears := fun clear listed =>
    ⟨(tracked.clears clear listed).old, (tracked.clears clear listed).own,
      (tracked.clears clear listed).judged⟩
  verified := tracked.verified
  clock := fun agent => Nat.lt_succ_of_lt (tracked.clock agent)
  armedIds := tracked.armedIds
  started := tracked.started
  times := fun id old => Nat.lt_succ_of_lt (tracked.times id old)
  stages := stages_of_change tracked.stages
    ⟨Nat.le_succ _, le_refl _, fun _ _ => rfl, fun _ _ => rfl⟩ rfl own

theorem Tracked.stageAt (tracked : Tracked state) {stage : Stage}
    (isAt : state.stages thread = stage) : StageSound state stage :=
  isAt ▸ tracked.stages thread

theorem Tracked.bootstrap (tracked : Tracked state) {agent : Nat}
    (taken : step state (.bootstrap thread agent) = some next) : Tracked next := by
  rw [step] at taken
  split at taken
  · cases taken
    exact tracked.goes (Nat.lt_succ_self _)
  · cases taken

theorem Verified.of_clears {agent : Nat} (latest : next.latest agent = state.latest agent)
    (clears : ∀ clear ∈ state.clears, clear ∈ next.clears) (holds : Verified state agent) :
    Verified next agent := by
  rw [Verified, latest]
  obtain none | ⟨clear, listed, ofAgent, follows⟩ := holds
  · exact .inl none
  · exact .inr ⟨clear, clears clear listed, ofAgent, follows⟩

/-- A step that writes the attribute of one agent, whose latest start is verified then or
still to be verified. -/
theorem Tracked.writes (tracked : Tracked state) (agent : Nat) (kept : Extends state next)
    (others : ∀ other, other ≠ agent →
      next.armed other = state.armed other ∧ next.latest other = state.latest other)
    (arms : next.unarmed = state.unarmed)
    (earlier : ∀ clear ∈ state.clears, clear ∈ next.clears)
    (clears : ∀ clear ∈ next.clears, clear ∈ state.clears ∨ ClearSound next clear)
    (verified : Verified next agent ∨ Pending next agent)
    (clock : next.latest agent < next.now)
    (armedId : ∀ arming, next.armed agent = some arming → arming.id < next.armings)
    (started : ∀ id, id < next.armings → next.startOf id < next.armedAt id)
    (times : ∀ id, id < next.armings → next.armedAt id < next.now)
    (changed : next.stages = Function.update state.stages thread .idle) : Tracked next where
  arms := arms.trans tracked.arms
  clears := by
    intro clear listed
    rcases clears clear listed with before | sound
    · exact (tracked.clears clear before).mono kept
    · exact sound
  verified := by
    intro other
    by_cases same : other = agent
    · subst same
      exact verified
    · obtain ⟨armed, latest⟩ := others other same
      rcases tracked.verified other with holds | ⟨arming, isArmed, after⟩
      · exact .inl (holds.of_clears latest earlier)
      · refine .inr ⟨arming, armed.trans isArmed, ?_⟩
        rw [latest, kept.armedAt arming.id (tracked.armedIds other arming isArmed)]
        exact after
  clock := by
    intro other
    by_cases same : other = agent
    · subst same
      exact clock
    · rw [(others other same).2]
      exact Nat.lt_of_lt_of_le (tracked.clock other) kept.now
  armedIds := by
    intro other arming armed
    by_cases same : other = agent
    · subst same
      exact armedId arming armed
    · have before := (others other same).1.symm.trans armed
      exact Nat.lt_of_lt_of_le (tracked.armedIds other arming before) kept.armings
  started := started
  times := times
  stages := stages_of_change tracked.stages kept changed trivial

/-- What is recorded of the arming that a start adds, and of those before it. -/
theorem update_armings (holds : Nat → Nat → Prop) {record : Nat → Nat} {armings added : Nat}
    (before : ∀ id, id < armings → holds id (record id)) (own : holds armings added) :
    ∀ id, id < armings + 1 → holds id (Function.update record armings added id) := by
  intro id old
  by_cases same : id = armings
  · subst same
    rw [Function.update_self]
    exact own
  · rw [Function.update_of_ne same]
    exact before id (by omega)

/-- A start arms its agent under a new number. -/
theorem Tracked.arm (tracked : Tracked state) {monotonic : Int}
    (taken : step state (.arm thread monotonic) = some next) : Tracked next := by
  rw [step] at taken
  split at taken
  · rename_i agent startedAt isAt
    have startedBefore : startedAt < state.now := tracked.stageAt isAt
    have latestBefore := tracked.clock agent
    cases taken
    have armedAt : Function.update state.armedAt state.armings state.now state.armings =
        state.now := Function.update_self _ _ _
    refine tracked.writes agent ⟨Nat.le_succ _, Nat.le_succ _, fun id old => ?_, fun id old => ?_⟩
      (fun other differs => ?_) rfl (fun _ listed => listed) (fun _ listed => .inl listed) ?_ ?_
      (fun arming armed => ?_) ?_ ?_ rfl
    · exact Function.update_of_ne (Nat.ne_of_lt old) _ _
    · exact Function.update_of_ne (Nat.ne_of_lt old) _ _
    · exact ⟨Function.update_of_ne differs _ _, Function.update_of_ne differs _ _⟩
    · refine .inr ⟨_, Function.update_self _ _ _, ?_⟩
      change Function.update state.latest agent _ agent <
        Function.update state.armedAt state.armings state.now state.armings
      rw [Function.update_self, armedAt]
      exact max_lt latestBefore startedBefore
    · change Function.update state.latest agent _ agent < state.now + 1
      rw [Function.update_self]
      exact Nat.lt_succ_of_lt (max_lt latestBefore startedBefore)
    · cases (Function.update_self agent _ state.armed).symm.trans armed
      exact Nat.lt_succ_self _
    · refine update_armings (fun id start =>
        start < Function.update state.armedAt state.armings state.now id) (fun id old => ?_) ?_
      · rw [Function.update_of_ne (Nat.ne_of_lt old)]
        exact tracked.started id old
      · rw [armedAt]
        exact startedBefore
    · exact update_armings (fun _ armedAt => armedAt < state.now + 1)
        (fun id old => Nat.lt_succ_of_lt (tracked.times id old)) (Nat.lt_succ_self _)
  · cases taken

/-- A clear disarms the arming of its token, on the verdict on it. -/
theorem Tracked.disarm (tracked : Tracked state)
    (undisturbed : Undisturbed state (.disarm thread))
    (taken : step state (.disarm thread) = some next) : Tracked next := by
  rw [step] at taken
  split at taken
  · rename_i agent token verdict issuedAt isAt
    have sameId := undisturbed agent token verdict issuedAt isAt
    obtain ⟨old, rendered, rfl, isVerdict, own, after, before⟩ := tracked.stageAt isAt
    cases taken
    have follows : ∀ start, start < state.armedAt token.id → ∀ cleared,
        (Clear.mk agent token.id cleared issuedAt (some rendered)).Follows start :=
      fun start started _ => ⟨rendered, rfl, isVerdict, own, lt_trans started after, before⟩
    refine tracked.writes agent ⟨Nat.le_succ _, le_refl _, fun _ _ => rfl, fun _ _ => rfl⟩
      (fun other differs => ⟨Function.update_of_ne differs _ _, rfl⟩) rfl
      (fun _ listed => List.mem_append_left _ listed) ?_ (.inl ?_)
      (Nat.lt_succ_of_lt (tracked.clock agent)) (fun arming armed => ?_) tracked.started
      (fun id old => Nat.lt_succ_of_lt (tracked.times id old)) rfl
    · intro clear listed
      rcases List.mem_append.mp listed with earlier | last
      · exact .inl earlier
      · obtain ⟨arming, armed, rfl⟩ := List.mem_map.mp last
        exact .inr ⟨old, sameId arming (Option.mem_toList.mp armed),
          follows _ (tracked.started token.id old) _⟩
    · rcases tracked.verified agent with holds | ⟨arming, armed, pending⟩
      · refine .of_clears ?_ ?_ holds
        · rfl
        · exact fun _ listed => List.mem_append_left _ listed
      · -- the verification that was pending is the one the verdict is on
        rw [sameId arming armed] at pending
        refine .inr ⟨_, List.mem_append_right _ ?_, rfl, follows _ pending arming.id⟩
        rw [armed]
        exact List.mem_singleton.mpr rfl
    · cases (Function.update_self agent _ state.armed).symm.trans armed
  · cases taken

/-- An agent that is still disarmed takes over an older arming, and answers for its start. -/
theorem Tracked.copy (tracked : Tracked state) (undisturbed : Undisturbed state (.copy thread))
    (taken : step state (.copy thread) = some next) : Tracked next := by
  rw [step] at taken
  split at taken
  · rename_i agent value isAt
    have unarmed := undisturbed agent value isAt
    have older := tracked.stageAt isAt
    have holds : Verified state agent := by
      rcases tracked.verified agent with verified | ⟨arming, armed, _⟩
      · exact verified
      · cases unarmed.symm.trans armed
    have clock : state.handedOver agent value < state.now := by
      cases value with
      | none => exact tracked.clock agent
      | some arming =>
          exact max_lt (tracked.clock agent) (lt_trans (tracked.started arming.id (older arming rfl))
            (tracked.times arming.id (older arming rfl)))
    cases taken
    refine tracked.writes agent ⟨Nat.le_succ _, le_refl _, fun _ _ => rfl, fun _ _ => rfl⟩
      (fun other differs => ⟨Function.update_of_ne differs _ _, Function.update_of_ne differs _ _⟩)
      rfl (fun _ listed => listed) (fun _ listed => .inl listed) ?_ ?_ (fun arming armed => ?_)
      tracked.started (fun id old => Nat.lt_succ_of_lt (tracked.times id old)) rfl
    · have latest : Function.update state.latest agent (state.handedOver agent value) agent =
          state.handedOver agent value := Function.update_self _ _ _
      cases value with
      | none => exact .inl (holds.of_clears latest fun _ listed => listed)
      | some arming =>
          have started := tracked.started arming.id (older arming rfl)
          rcases Nat.lt_or_ge (state.latest agent) (state.armedAt arming.id) with later | earlier
          · refine .inr ⟨arming, Function.update_self _ _ _, ?_⟩
            exact latest.trans_lt (max_lt later started)
          · -- the agent has been verified after a start later than the one it takes over
            have same : state.handedOver agent (some arming) = state.latest agent :=
              max_eq_left (Nat.le_of_lt (lt_of_lt_of_le started earlier))
            exact .inl (holds.of_clears (latest.trans same) fun _ listed => listed)
    · change Function.update state.latest agent _ agent < state.now + 1
      rw [Function.update_self]
      exact Nat.lt_succ_of_lt clock
    · exact older arming ((Function.update_self agent _ state.armed).symm.trans armed)
  · cases taken

/-- A thread that has nothing left to do. -/
theorem Tracked.rests (tracked : Tracked state) : Tracked (state.goes thread .idle) :=
  tracked.goes trivial

theorem Tracked.check (tracked : Tracked state) {agent : Nat}
    (taken : step state (.check thread agent) = some next) : Tracked next := by
  rw [step] at taken
  split at taken
  · cases taken
    split
    · exact tracked.goes trivial
    · exact tracked.rests
  · cases taken

theorem Tracked.compare (tracked : Tracked state) {monotonic : Int}
    (taken : step state (.compare thread monotonic) = some next) : Tracked next := by
  rw [step] at taken
  split at taken
  · split at taken
    · cases taken
      split
      · exact tracked.rests
      · exact tracked.goes trivial
    · cases taken
      exact tracked.rests
  · cases taken

theorem Tracked.observe (tracked : Tracked state)
    (taken : step state (.observe thread) = some next) : Tracked next := by
  rw [step] at taken
  split at taken
  · rename_i agent isAt
    split at taken
    · rename_i arming armed
      cases taken
      exact tracked.goes (tracked.armedIds agent arming armed)
    · cases taken
      exact tracked.rests
  · cases taken

/-- A probe begins after its token was armed. -/
theorem Tracked.probe (tracked : Tracked state)
    (taken : step state (.probe thread) = some next) : Tracked next := by
  rw [step] at taken
  split at taken
  · rename_i agent token isAt
    have old : token.id < state.armings := tracked.stageAt isAt
    cases taken
    exact tracked.goes ⟨old, tracked.times token.id old⟩
  · cases taken

/-- Only a probe that ends in a verdict goes on to a clear. -/
theorem Tracked.judge (tracked : Tracked state) {finding : Finding}
    (taken : step state (.judge thread finding) = some next) : Tracked next := by
  rw [step] at taken
  split at taken
  · rename_i agent token since isAt
    obtain ⟨old, after⟩ := tracked.stageAt isAt
    cases taken
    split
    · rename_i isVerdict
      exact tracked.goes ⟨old, _, rfl, isVerdict, rfl, after, Nat.lt_succ_self _⟩
    · exact tracked.rests
  · cases taken

theorem Tracked.clear (tracked : Tracked state)
    (taken : step state (.clear thread) = some next) : Tracked next := by
  rw [step] at taken
  split at taken
  · rename_i agent token verdict isAt
    have judged : Judged state token verdict state.now := tracked.stageAt isAt
    split at taken
    · cases taken
      split
      · exact tracked.goes judged
      · exact tracked.rests
    · cases taken
      exact tracked.rests
  · cases taken

theorem Tracked.adopt (tracked : Tracked state) {agent previous : Nat}
    (taken : step state (.adopt thread agent previous) = some next) : Tracked next := by
  rw [step] at taken
  split at taken
  · cases taken
    split
    · exact tracked.goes trivial
    · exact tracked.rests
  · cases taken

theorem Tracked.read (tracked : Tracked state)
    (taken : step state (.read thread) = some next) : Tracked next := by
  rw [step] at taken
  split at taken
  · rename_i agent previous isAt
    cases taken
    exact tracked.goes (tracked.armedIds previous)
  · cases taken

/-- Every undisturbed step keeps it. -/
theorem tracked_step (tracked : Tracked state) {event : Event}
    (undisturbed : Undisturbed state event) (taken : step state event = some next) :
    Tracked next := by
  cases event with
  | bootstrap thread agent => exact tracked.bootstrap taken
  | arm thread monotonic => exact tracked.arm taken
  | legacyLoad thread agent => exact undisturbed.elim
  | check thread agent => exact tracked.check taken
  | compare thread monotonic => exact tracked.compare taken
  | observe thread => exact tracked.observe taken
  | probe thread => exact tracked.probe taken
  | judge thread finding => exact tracked.judge taken
  | abandon thread => exact undisturbed.elim
  | clear thread => exact tracked.clear taken
  | disarm thread => exact tracked.disarm undisturbed taken
  | adopt thread agent previous => exact tracked.adopt taken
  | read thread => exact tracked.read taken
  | copy thread => exact tracked.copy undisturbed taken

/-- Where no step is disturbed, the latest start of every agent is verified or its
verification is still armed. -/
theorem guarded_of_undisturbed_run {events : List Event} {final : State}
    (run : RunWhere step Undisturbed idle events final) : Guarded final := by
  have tracked : Tracked final := by
    induction run with
    | nil => exact tracked_idle
    | snoc _ undisturbed taken tracked => exact tracked_step tracked undisturbed taken
  exact tracked.guarded

/-- A start, a check that finds it due, and the clear after the probe. -/
def checkedStart : List Event :=
  [.bootstrap 0 0, .arm 0 0, .check 1 0, .compare 1 130000000000, .observe 1, .probe 1,
    .judge 1 .conflictFree, .clear 1, .disarm 1]

theorem guarded_of_undisturbed_run_checkedStart :
    ∃ final, RunWhere step Undisturbed idle checkedStart final ∧ Guarded final := by
  have run : ∃ final, RunWhere step Undisturbed idle checkedStart final := by
    refine ⟨_, .snoc (.snoc (.snoc (.snoc (.snoc (.snoc (.snoc (.snoc (.snoc .nil trivial rfl)
      trivial rfl) trivial rfl) trivial rfl) trivial rfl) trivial rfl) trivial rfl) ?_ rfl) ?_ rfl⟩
    · intro agent token verdict isAt arming armed _
      cases (isAt : Stage.judged _ _ _ = _)
      cases (armed : some _ = _)
      rfl
    · intro agent token verdict issuedAt isAt arming armed
      cases (isAt : Stage.clearing _ _ _ _ = _)
      cases (armed : some _ = _)
      rfl
  obtain ⟨final, reached⟩ := run
  exact ⟨final, reached, guarded_of_undisturbed_run reached⟩

/-- A check that has found the first start due compares before the second start arms, and
writes after it. -/
def overtakenClear : List Event :=
  [.bootstrap 0 0, .arm 0 0, .check 1 0, .compare 1 130000000000, .observe 1, .probe 1,
    .judge 1 .conflictFree, .clear 1, .bootstrap 0 0, .arm 0 131000000000, .disarm 1]

theorem second_start_unverified :
    ¬∀ (events : List Event) (final : State), Run step idle events final → Guarded final := by
  intro guarded
  have run : ∃ final, Run step idle overtakenClear final ∧
      ∃ clear ∈ final.clears, clear.token = 0 ∧ clear.cleared = 1 := by
    refine ⟨_, .snoc (.snoc (.snoc (.snoc (.snoc (.snoc (.snoc (.snoc (.snoc (.snoc (.snoc .nil
      trivial rfl) trivial rfl) trivial rfl) trivial rfl) trivial rfl) trivial rfl) trivial rfl)
        trivial rfl) trivial rfl) trivial rfl) trivial rfl, _, List.mem_singleton.mpr rfl, rfl, rfl⟩
  obtain ⟨final, reached, clear, listed, token, cleared⟩ := run
  have own := (guarded overtakenClear final reached).own clear listed
  rw [token, cleared] at own
  cases own

end BootVerification

end IndigoMatter.Plugin
