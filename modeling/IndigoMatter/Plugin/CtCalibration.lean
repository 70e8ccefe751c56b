import IndigoMatter.Plugin.CtLearner

/-!
# The colour-temperature sweep

A sweep asks each lamp for its two extremes, reads back what the lamp reports, hands
what it has measured to the learner, and puts the lamp back.  A request sets a flag,
reads the requested ids and starts a thread for the sweep; the thread clears the flag
when it ends, in whatever way.

Requests come on any threads, every step of a sweep can fail, and other writers change
the store in between.  Nothing clears the flag where the thread is never started.
-/

namespace IndigoMatter.Plugin

open IndigoMatter.Library

namespace CtCalibration

/-! ## A sweep -/

/-- `_EXTREMES`, in the order asked. -/
def extremeMireds : Side → Int
  | .min => GENERIC_MIN_MIREDS
  | .max => GENERIC_MAX_MIREDS

/-- A target: a requested id that is not exported, or the entry as the store had it. -/
inductive Target
  | notExported (deviceId : Int)
  | entry (entry : ExportEntry)

/-- The lamp a sweep is at: its number among the visited, its entry, and the temperature it had. -/
structure Lamp where
  visit : Nat
  entry : ExportEntry
  original : Option Int

inductive SideResult
  | measured (mireds : Int)
  | unreadable

inductive SkipReason
  | notCtRole
  | gone
  | noHandler
  | lit
  | refused (reason : String)
  | vanished
  | interrupted (error : String)

inductive Stage
  | listing
  | resolving (pending : List Int)
  | between
  | asking (lamp : Lamp) (side : Side)
  | settling (lamp : Lamp) (side : Side)
  | adopting (lamp : Lamp) (side : Side) (mireds : Int) (onlyIfUnclaimed : Bool)
  | writing (lamp : Lamp) (candidate : Candidate) (updated : ExportEntry)
  | restoring (lamp : Lamp) (skipped : Option SkipReason)

/-- The lamp whose temperature a sweep still owes. -/
def Stage.lamp? : Stage → Option Lamp
  | .listing | .resolving _ | .between => none
  | .asking lamp _ | .settling lamp _ | .adopting lamp _ _ _ | .writing lamp _ _
  | .restoring lamp _ => some lamp

structure Sweep where
  skipLit : Bool
  stage : Stage
  rest : List Target
  results : List (Side × SideResult)
  calibrated : Nat
  skipped : Nat

/-- A dispatch to a lamp. -/
inductive Touch
  | extreme (lamp : Lamp) (side : Side)
  | restore (lamp : Lamp) (mireds : Int)

def Touch.lamp : Touch → Lamp
  | .extreme lamp _ | .restore lamp _ => lamp

inductive LogLine
  | alreadyRunning
  | finished (calibrated skipped : Nat)
  | notExported (deviceId : Int)
  | skipped (deviceId : Int) (reason : SkipReason)
  | couldNotCalibrate (deviceId : Int) (error : String)
  | failedPartway (deviceId : Int) (error : String)
  | couldNotRestore (deviceId mireds : Int) (error : String)
  | calibrated (deviceId : Int) (results : List (Side × SideResult))

/-- What is found before a lamp is asked for anything. -/
inductive Intake
  | raises (error : String)
  | gone
  | noHandler
  | found (lit : Bool) (original : Option Int)

/-- How the dispatch of an extreme ends. -/
inductive Reply
  | raises (error : String)
  | refused (reason : String)
  | sent

/-- What the read after the settling time gives. -/
inductive Echo
  | raises (error : String)
  | gone
  | read (mireds : Option Int)

/-- One step of a sweep, with what it meets. -/
inductive SweepEvent
  | resolve
  | resolveFails
  | take (intake : Intake)
  | ask (reply : Reply)
  | settle (echo : Echo)
  | adoptGet (raises : Option String)
  | adoptUpsert (flush : Flush) (raises : Option String)
  | restore (fails : Option String)

/-- What a step does: the sweep after it, if it goes on, the store, what was dispatched and
logged, the number of lamps visited so far, and a candidate that was written with the
entry it was written over. -/
structure Turn where
  next : Option Sweep
  store : ExportStore
  visits : Nat
  touch : Option Touch := none
  log : List LogLine := []
  replaced : Option (Candidate × Option ExportEntry) := none

/-- A step after which the sweep goes on. -/
def Turn.goesOn (next : Sweep) (store : ExportStore) (visits : Nat) : Turn :=
  { next := some next, store, visits }

namespace Sweep

/-- The next extreme, or the end of the lamp. -/
def nextSide (sweep : Sweep) (lamp : Lamp) : Side → Sweep
  | .min => { sweep with stage := .asking lamp .max }
  | .max => { sweep with stage := .restoring lamp none }

/-- An exception while a lamp is swept. -/
def interrupt (sweep : Sweep) (lamp : Lamp) (error : String) : Sweep :=
  { sweep with stage := .restoring lamp (some (.interrupted error)) }

/-- The target of a requested id. -/
def target (store : ExportStore) (deviceId : Int) : Target :=
  match store.get deviceId with
  | some entry => .entry entry
  | none => .notExported deviceId

/-- `_resolve_targets`, one read of the store. -/
def resolve (store : ExportStore) (sweep : Sweep) : Option Sweep :=
  match sweep.stage with
  | .listing =>
      some { sweep with
        stage := .between
        rest := (store.all.filter fun entry => entry.role ∈ CT_ROLES).map .entry }
  | .resolving [] => some { sweep with stage := .between }
  | .resolving (deviceId :: pending) =>
      some { sweep with
        stage := .resolving pending
        rest := sweep.rest ++ [target store deviceId] }
  | _ => none

/-- The start of `_process_target` and `_calibrate_one`, up to the original temperature. -/
def take (store : ExportStore) (visits : Nat) (intake : Intake) (sweep : Sweep) : Option Turn :=
  match sweep.stage, sweep.rest with
  | .between, [] =>
      some { next := none, store, visits, log := [.finished sweep.calibrated sweep.skipped] }
  | .between, target :: rest =>
      let skip (line : LogLine) : Turn :=
        { Turn.goesOn { sweep with rest, skipped := sweep.skipped + 1 } store visits with
          log := [line] }
      match target with
      | .notExported deviceId => some (skip (.notExported deviceId))
      | .entry entry =>
          if entry.role ∉ CT_ROLES then some (skip (.skipped entry.indigoDeviceId .notCtRole))
          else
            match intake with
            | .raises error => some (skip (.couldNotCalibrate entry.indigoDeviceId error))
            | .gone => some (skip (.skipped entry.indigoDeviceId .gone))
            | .noHandler => some (skip (.skipped entry.indigoDeviceId .noHandler))
            | .found lit original =>
                if sweep.skipLit && lit then some (skip (.skipped entry.indigoDeviceId .lit))
                else
                  let lamp : Lamp := ⟨visits, entry, original⟩
                  some (.goesOn { sweep with stage := .asking lamp .min, rest, results := [] }
                    store (visits + 1))
  | _, _ => none

/-- The dispatch of an extreme. -/
def ask (store : ExportStore) (visits : Nat) (reply : Reply) (sweep : Sweep) : Option Turn :=
  match sweep.stage with
  | .asking lamp side =>
      let asked (next : Sweep) : Turn :=
        { Turn.goesOn next store visits with touch := some (.extreme lamp side) }
      match reply with
      | .raises error =>
          some { asked (sweep.interrupt lamp error) with
            log := [.failedPartway lamp.entry.indigoDeviceId error] }
      | .refused reason =>
          some (asked { sweep with stage := .restoring lamp (some (.refused reason)) })
      | .sent => some (asked { sweep with stage := .settling lamp side })
  | _ => none

/-- The read after the settling time.  An echo that differs from the extreme is a limit;
otherwise the lamp has reached the extreme. -/
def settle (store : ExportStore) (visits : Nat) (echo : Echo) (sweep : Sweep) : Option Turn :=
  match sweep.stage with
  | .settling lamp side =>
      match echo with
      | .raises error =>
          some { Turn.goesOn (sweep.interrupt lamp error) store visits with
            log := [.failedPartway lamp.entry.indigoDeviceId error] }
      | .gone =>
          some (.goesOn { sweep with stage := .restoring lamp (some .vanished) } store visits)
      | .read none =>
          let read := { sweep with results := sweep.results ++ [(side, SideResult.unreadable)] }
          some (.goesOn (read.nextSide lamp side) store visits)
      | .read (some mireds) =>
          let clamps := decide
            (SHORTFALL_THRESHOLD_MIREDS ≤ (mireds - extremeMireds side).natAbs)
          let measured := if clamps then mireds else extremeMireds side
          let read := { sweep with results := sweep.results ++ [(side, SideResult.measured measured)] }
          some (.goesOn { read with stage := .adopting lamp side measured (!clamps) } store visits)
  | _ => none

/-- `adopt_measured` up to the learner's write. -/
def adoptGet (store : ExportStore) (visits : Nat) (raises : Option String) (sweep : Sweep) :
    Option Turn :=
  match sweep.stage with
  | .adopting lamp side mireds onlyIfUnclaimed =>
      match raises with
      | some error =>
          some { Turn.goesOn (sweep.interrupt lamp error) store visits with
            log := [.failedPartway lamp.entry.indigoDeviceId error] }
      | none =>
          let candidate : Candidate := ⟨lamp.entry.indigoDeviceId, side, mireds, onlyIfUnclaimed⟩
          match adopt candidate (store.get candidate.deviceId) with
          | .error _ => some (.goesOn (sweep.nextSide lamp side) store visits)
          | .ok updated =>
              some (.goesOn { sweep with stage := .writing lamp candidate updated } store visits)
  | _ => none

/-- The learner's write; one that fails is logged by the learner. -/
def adoptUpsert (store : ExportStore) (visits : Nat) (flush : Flush) (raises : Option String)
    (sweep : Sweep) : Option Turn :=
  match sweep.stage with
  | .writing lamp candidate updated =>
      let wrote (next : Sweep) : Turn :=
        { Turn.goesOn next (finalState (ExportStore.upsert flush updated store)) visits with
          replaced :=
            if ExportStore.lands flush updated then
              some (candidate, store.get candidate.deviceId)
            else none }
      match raises with
      | some error =>
          some { wrote (sweep.interrupt lamp error) with
            log := [.failedPartway lamp.entry.indigoDeviceId error] }
      | none => some (wrote (sweep.nextSide lamp candidate.side))
  | _ => none

/-- What the log says of a restore. -/
def restoreFailure (lamp : Lamp) (fails : Option String) : List LogLine :=
  match lamp.original, fails with
  | some mireds, some error => [.couldNotRestore lamp.entry.indigoDeviceId mireds error]
  | _, _ => []

/-- `_restore`, where there is a temperature to go back to, and the last line about a lamp. -/
def restore (store : ExportStore) (visits : Nat) (fails : Option String) (sweep : Sweep) :
    Option Turn :=
  match sweep.stage with
  | .restoring lamp skipped =>
      let left (next : Sweep) (line : LogLine) : Turn :=
        { Turn.goesOn { next with stage := .between } store visits with
          touch := lamp.original.map (Touch.restore lamp)
          log := restoreFailure lamp fails ++ [line] }
      match skipped with
      | some reason =>
          some (left { sweep with skipped := sweep.skipped + 1 }
            (.skipped lamp.entry.indigoDeviceId reason))
      | none =>
          some (left { sweep with calibrated := sweep.calibrated + 1 }
            (.calibrated lamp.entry.indigoDeviceId sweep.results))
  | _ => none

/-- One step of a sweep. -/
def turn (store : ExportStore) (visits : Nat) (sweep : Sweep) : SweepEvent → Option Turn
  | .resolve => (sweep.resolve store).map fun next => .goesOn next store visits
  | .resolveFails =>
      match sweep.stage with
      | .listing | .resolving _ => some { next := none, store, visits }
      | _ => none
  | .take intake => sweep.take store visits intake
  | .ask reply => sweep.ask store visits reply
  | .settle echo => sweep.settle store visits echo
  | .adoptGet raises => sweep.adoptGet store visits raises
  | .adoptUpsert flush raises => sweep.adoptUpsert store visits flush raises
  | .restore fails => sweep.restore store visits fails

end Sweep

/-! ## Requests -/

/-- What `int` makes of a requested id: a value, an error that drops the id, or another
exception. -/
inductive RequestedId
  | value (deviceId : Int)
  | unusable
  | raises

/-- The requested ids; `none` where reading them raises. -/
def resolveIds : List RequestedId → Option (List Int)
  | [] => some []
  | .value deviceId :: rest => (resolveIds rest).map fun ids => deviceId :: ids
  | .unusable :: rest => resolveIds rest
  | .raises :: _ => none

/-- A thread: at nothing, in `start` with the flag set, or running a sweep. -/
inductive Thread
  | idle
  | accepted (ids : Option (List RequestedId)) (skipLit : Bool)
  | ready (ids : Option (List Int)) (skipLit : Bool)
  | sweeping (sweep : Sweep)

/-- The engine, the store, and what has been dispatched, logged and replaced. -/
structure State where
  threads : Nat → Thread
  running : Bool
  store : ExportStore
  visits : Nat
  touches : List Touch
  log : List LogLine
  replaced : List (Candidate × Option ExportEntry)

/-- No sweep has been asked for. -/
def opened (store : ExportStore) : State := ⟨fun _ => .idle, false, store, 0, [], [], []⟩

/-- The sweep of a new thread. -/
def newSweep (ids : Option (List Int)) (skipLit : Bool) : Sweep :=
  { skipLit
    stage := match ids with
      | none => .listing
      | some ids => .resolving ids
    rest := []
    results := []
    calibrated := 0
    skipped := 0 }

namespace State

def becomes (state : State) (thread : Nat) (stage : Thread) : State :=
  { state with threads := Function.update state.threads thread stage }

/-- A step of the sweep of a thread; the flag is cleared when the sweep ends. -/
def takes (state : State) (thread : Nat) (turn : Turn) : State :=
  { state with
    threads := Function.update state.threads thread
      (match turn.next with
        | some sweep => .sweeping sweep
        | none => .idle)
    running := state.running && turn.next.isSome
    store := turn.store
    visits := turn.visits
    touches := state.touches ++ turn.touch.toList
    log := state.log ++ turn.log
    replaced := state.replaced ++ turn.replaced.toList }

end State

inductive Event
  | request (thread : Nat) (ids : Option (List RequestedId)) (skipLit : Bool)
  | prepare (thread : Nat)
  | spawn (thread worker : Nat) (fails : Bool)
  | work (thread : Nat) (event : SweepEvent)
  | commit (store : ExportStore)

/-- One step of a thread, or a commit of another writer.  `start` is `request`, `prepare`
and `spawn`. -/
def step (state : State) : Event → Option State
  | .request thread ids skipLit =>
      match state.threads thread with
      | .idle =>
          if state.running then some { state with log := state.log ++ [.alreadyRunning] }
          else some { state.becomes thread (.accepted ids skipLit) with running := true }
      | _ => none
  | .prepare thread =>
      match state.threads thread with
      | .accepted none skipLit => some (state.becomes thread (.ready none skipLit))
      | .accepted (some requested) skipLit =>
          match resolveIds requested with
          | some ids => some (state.becomes thread (.ready (some ids) skipLit))
          | none => some (state.becomes thread .idle)
      | _ => none
  | .spawn thread worker fails =>
      match state.threads thread with
      | .ready ids skipLit =>
          if fails then some (state.becomes thread .idle)
          else
            match (state.becomes thread .idle).threads worker with
            | .idle =>
                some ((state.becomes thread .idle).becomes worker
                  (.sweeping (newSweep ids skipLit)))
            | _ => none
      | _ => none
  | .work thread event =>
      match state.threads thread with
      | .sweeping sweep =>
          (sweep.turn state.store state.visits event).map (state.takes thread)
      | _ => none
  | .commit store => some { state with store }

/-! ## What is claimed -/

/-- Some sweep is at the lamp. -/
def Held (state : State) (lamp : Lamp) : Prop :=
  ∃ thread sweep, state.threads thread = .sweeping sweep ∧ sweep.stage.lamp? = some lamp

/-- After an extreme, the original temperature is dispatched before another lamp is touched;
until then the sweep is at the lamp. -/
def GivenBack (state : State) : Prop :=
  ∀ before lamp side after mireds, state.touches = before ++ .extreme lamp side :: after →
    lamp.original = some mireds →
      (∃ middle later, after = middle ++ .restore lamp mireds :: later ∧
        ∀ touch ∈ middle, touch.lamp = lamp) ∨
      Held state lamp ∧ ∀ touch ∈ after, touch.lamp = lamp

/-- Neither the user nor a measurement has claimed the side of the candidate. -/
def Unclaimed (candidate : Candidate) (entry : ExportEntry) : Prop :=
  ctBound? entry.options candidate.side.learnedKey = none ∧
    ctBound? entry.options candidate.side.seedKey = none

/-- At most one sweep runs, every lamp is given back, a sweep can be started where none is
running or being started, and a mere reach has replaced no claimed bound. -/
structure HandsBack (state : State) : Prop where
  single : ∀ thread other sweep another, state.threads thread = .sweeping sweep →
    state.threads other = .sweeping another → thread = other
  givenBack : GivenBack state
  startable : (∀ thread, state.threads thread = .idle) → state.running = false
  unclaimed : ∀ candidate entry, (candidate, some entry) ∈ state.replaced →
    candidate.onlyIfUnclaimed = true → Unclaimed candidate entry

/-- A start does not fail once the flag is set, and no other writer changes the entry of a
lamp between the learner's read and its write. -/
def Undisturbed (state : State) : Event → Prop
  | .prepare thread => ∀ requested skipLit,
      state.threads thread = .accepted (some requested) skipLit → resolveIds requested ≠ none
  | .spawn _ _ fails => fails = false
  | .commit store => ∀ thread sweep lamp candidate updated,
      state.threads thread = .sweeping sweep → sweep.stage = .writing lamp candidate updated →
        store.get candidate.deviceId = state.store.get candidate.deviceId
  | _ => True

/-! ## One step of a sweep -/

/-- What the learner is about to write over, where it writes a mere reach. -/
def Sweep.WritesSound (store : ExportStore) (sweep : Sweep) : Prop :=
  ∀ lamp candidate updated, sweep.stage = .writing lamp candidate updated →
    candidate.onlyIfUnclaimed = true → ∀ entry, store.get candidate.deviceId = some entry →
      Unclaimed candidate entry

/-- What a step of a sweep does to the lamp it is at. -/
structure Turn.Moves (sweep : Sweep) (turn : Turn) : Prop where
  extreme : ∀ lamp side, turn.touch = some (.extreme lamp side) →
    sweep.stage.lamp? = some lamp ∧
      ∃ next, turn.next = some next ∧ next.stage.lamp? = some lamp
  restore : ∀ lamp mireds, turn.touch = some (.restore lamp mireds) →
    sweep.stage.lamp? = some lamp ∧ lamp.original = some mireds
  keeps : ∀ lamp mireds, sweep.stage.lamp? = some lamp → lamp.original = some mireds →
    turn.touch = some (.restore lamp mireds) ∨
      ∃ next, turn.next = some next ∧ next.stage.lamp? = some lamp

variable {store : ExportStore} {visits : Nat} {sweep : Sweep} {turn : Turn} {lamp : Lamp}

theorem lamp?_nextSide (side : Side) : (sweep.nextSide lamp side).stage.lamp? = some lamp := by
  cases side <;> rfl

/-- A step that dispatches nothing and stays at the lamp. -/
theorem moves_of_stays {next : Sweep} (isAt : sweep.stage.lamp? = some lamp)
    (goes : turn.next = some next) (stays : next.stage.lamp? = some lamp)
    (quiet : turn.touch = none) : turn.Moves sweep where
  extreme := by
    intro _ _ same
    rw [quiet] at same
    cases same
  restore := by
    intro _ _ same
    rw [quiet] at same
    cases same
  keeps := by
    intro other mireds isAt' _
    obtain rfl : lamp = other := Option.some.inj (isAt.symm.trans isAt')
    exact .inr ⟨next, goes, stays⟩

/-- A step between the lamps. -/
theorem moves_of_free (free : sweep.stage.lamp? = none) (quiet : turn.touch = none) :
    turn.Moves sweep where
  extreme := by
    intro _ _ same
    rw [quiet] at same
    cases same
  restore := by
    intro _ _ same
    rw [quiet] at same
    cases same
  keeps := by
    intro _ _ same
    rw [free] at same
    cases same

theorem moves_of_asks {next : Sweep} {side : Side} (isAt : sweep.stage.lamp? = some lamp)
    (goes : turn.next = some next) (stays : next.stage.lamp? = some lamp)
    (asks : turn.touch = some (.extreme lamp side)) : turn.Moves sweep where
  extreme := by
    intro other _ same
    rw [asks] at same
    cases same
    exact ⟨isAt, next, goes, stays⟩
  restore := by
    intro _ _ same
    rw [asks] at same
    cases same
  keeps := by
    intro other mireds isAt' _
    obtain rfl : lamp = other := Option.some.inj (isAt.symm.trans isAt')
    exact .inr ⟨next, goes, stays⟩

theorem moves_of_restores (isAt : sweep.stage.lamp? = some lamp)
    (restores : turn.touch = lamp.original.map (Touch.restore lamp)) : turn.Moves sweep where
  extreme := by
    intro other side same
    rw [restores] at same
    cases original : lamp.original <;> simp [original] at same
  restore := by
    intro other mireds same
    rw [restores] at same
    rcases Option.map_eq_some_iff.mp same with ⟨original, readable, ⟨⟩⟩
    exact ⟨isAt, readable⟩
  keeps := by
    intro other mireds isAt' readable
    obtain rfl : lamp = other := Option.some.inj (isAt.symm.trans isAt')
    exact .inl (by rw [restores, readable]; rfl)

theorem adopt_unclaimed {candidate : Candidate} {fresh : Option ExportEntry}
    {updated entry : ExportEntry} (adopted : adopt candidate fresh = .ok updated)
    (only : candidate.onlyIfUnclaimed = true) (isFresh : fresh = some entry) :
    Unclaimed candidate entry := by
  subst isFresh
  simp only [adopt, only, true_and] at adopted
  split at adopted
  · cases adopted
  · rename_i free
    simpa [not_or, Unclaimed] using free

/-- What a step does to the lamp, and what it says of the learner's write. -/
structure Turn.Sound (store : ExportStore) (sweep : Sweep) (turn : Turn) : Prop where
  moves : turn.Moves sweep
  writes : ∀ next, turn.next = some next → next.WritesSound turn.store
  replaced : sweep.WritesSound store → ∀ candidate entry,
    turn.replaced = some (candidate, some entry) → candidate.onlyIfUnclaimed = true →
      Unclaimed candidate entry

/-- A step that comes to another stage than the learner's write and replaces nothing. -/
theorem sound_of_moves {next : Sweep} (moves : turn.Moves sweep) (goes : turn.next = some next)
    (elsewhere : ∀ lamp candidate updated, next.stage ≠ .writing lamp candidate updated)
    (nothing : turn.replaced = none) : turn.Sound store sweep where
  moves := moves
  writes := by
    intro other same lamp candidate updated isWriting
    rw [goes] at same
    cases same
    exact absurd isWriting (elsewhere lamp candidate updated)
  replaced := by
    intro _ _ _ same
    rw [nothing] at same
    cases same

/-- A step that ends the sweep between two lamps. -/
theorem sound_of_ends (free : sweep.stage.lamp? = none) (ends : turn.next = none)
    (quiet : turn.touch = none) (nothing : turn.replaced = none) : turn.Sound store sweep where
  moves := moves_of_free free quiet
  writes := by
    intro next goes
    rw [ends] at goes
    cases goes
  replaced := by
    intro _ _ _ same
    rw [nothing] at same
    cases same

theorem lamp?_of_writing {candidate : Candidate} {updated : ExportEntry} {stage : Stage}
    (isWriting : stage = .writing lamp candidate updated) : stage.lamp? = some lamp := by
  rw [isWriting]
  rfl

theorem stage_nextSide_ne (side : Side) (other : Lamp) (candidate : Candidate)
    (updated : ExportEntry) : (sweep.nextSide lamp side).stage ≠ .writing other candidate updated := by
  cases side <;> rintro ⟨⟩

/-- A step between the lamps that stays there. -/
theorem sound_of_free {next : Sweep} (free : sweep.stage.lamp? = none)
    (goes : turn.next = some next) (stays : next.stage.lamp? = none) (quiet : turn.touch = none)
    (nothing : turn.replaced = none) : turn.Sound store sweep := by
  refine sound_of_moves (moves_of_free free quiet) goes (fun lamp candidate updated writing => ?_)
    nothing
  rw [lamp?_of_writing writing] at stays
  cases stays

theorem sound_resolve {next : Sweep} (taken : sweep.resolve store = some next) :
    (Turn.goesOn next store visits).Sound store sweep := by
  have ends : sweep.stage.lamp? = none ∧ next.stage.lamp? = none := by
    unfold Sweep.resolve at taken
    split at taken
    · rename_i isAt
      rw [← Option.some.inj taken, isAt]
      exact ⟨rfl, rfl⟩
    · rename_i isAt
      rw [← Option.some.inj taken, isAt]
      exact ⟨rfl, rfl⟩
    · rename_i isAt
      rw [← Option.some.inj taken, isAt]
      exact ⟨rfl, rfl⟩
    · cases taken
  exact sound_of_free ends.1 rfl ends.2 rfl rfl

theorem sound_take {intake : Intake} (taken : sweep.take store visits intake = some turn) :
    turn.Sound store sweep := by
  unfold Sweep.take at taken
  split at taken
  · rename_i isAt _
    rw [← Option.some.inj taken]
    exact sound_of_ends (by rw [isAt]; rfl) rfl rfl rfl
  · rename_i target rest isAt _
    have free : sweep.stage.lamp? = none := by
      rw [isAt]
      rfl
    have skips (line : LogLine) : Turn.Sound store sweep
        { Turn.goesOn { sweep with rest, skipped := sweep.skipped + 1 } store visits with
          log := [line] } := sound_of_free free rfl free rfl rfl
    dsimp only at taken
    split at taken
    · rw [← Option.some.inj taken]
      exact skips _
    · split at taken
      · rw [← Option.some.inj taken]
        exact skips _
      · split at taken
        · rw [← Option.some.inj taken]
          exact skips _
        · rw [← Option.some.inj taken]
          exact skips _
        · rw [← Option.some.inj taken]
          exact skips _
        · split at taken
          · rw [← Option.some.inj taken]
            exact skips _
          · rw [← Option.some.inj taken]
            exact sound_of_moves (moves_of_free free rfl) rfl (by rintro _ _ _ ⟨⟩) rfl
  · cases taken

theorem sound_interrupt {error : String} {log : List LogLine} (isAt : sweep.stage.lamp? = some lamp) :
    Turn.Sound store sweep
      { Turn.goesOn (sweep.interrupt lamp error) store visits with log := log } :=
  sound_of_moves (moves_of_stays isAt rfl rfl rfl) rfl (by rintro _ _ _ ⟨⟩) rfl

theorem sound_ask {reply : Reply} (taken : sweep.ask store visits reply = some turn) :
    turn.Sound store sweep := by
  unfold Sweep.ask at taken
  split at taken
  · rename_i lamp side asking
    have isAt : sweep.stage.lamp? = some lamp := by
      rw [asking]
      rfl
    dsimp only at taken
    split at taken
    · rw [← Option.some.inj taken]
      exact sound_of_moves (moves_of_asks isAt rfl rfl rfl) rfl (by rintro _ _ _ ⟨⟩) rfl
    · rw [← Option.some.inj taken]
      exact sound_of_moves (moves_of_asks isAt rfl rfl rfl) rfl (by rintro _ _ _ ⟨⟩) rfl
    · rw [← Option.some.inj taken]
      exact sound_of_moves (moves_of_asks isAt rfl rfl rfl) rfl (by rintro _ _ _ ⟨⟩) rfl
  · cases taken

theorem sound_settle {echo : Echo} (taken : sweep.settle store visits echo = some turn) :
    turn.Sound store sweep := by
  unfold Sweep.settle at taken
  split at taken
  · rename_i lamp side settling
    have isAt : sweep.stage.lamp? = some lamp := by
      rw [settling]
      rfl
    split at taken
    · rw [← Option.some.inj taken]
      exact sound_interrupt isAt
    · rw [← Option.some.inj taken]
      exact sound_of_moves (moves_of_stays isAt rfl rfl rfl) rfl (by rintro _ _ _ ⟨⟩) rfl
    · rw [← Option.some.inj taken]
      exact sound_of_moves (moves_of_stays isAt rfl (lamp?_nextSide side) rfl) rfl
        (stage_nextSide_ne side) rfl
    · rw [← Option.some.inj taken]
      exact sound_of_moves (moves_of_stays isAt rfl rfl rfl) rfl (by rintro _ _ _ ⟨⟩) rfl
  · cases taken

theorem sound_adoptGet {raises : Option String}
    (taken : sweep.adoptGet store visits raises = some turn) : turn.Sound store sweep := by
  unfold Sweep.adoptGet at taken
  split at taken
  · rename_i lamp side mireds only adopting
    have isAt : sweep.stage.lamp? = some lamp := by
      rw [adopting]
      rfl
    split at taken
    · rw [← Option.some.inj taken]
      exact sound_interrupt isAt
    · dsimp only at taken
      split at taken
      · rw [← Option.some.inj taken]
        exact sound_of_moves (moves_of_stays isAt rfl (lamp?_nextSide side) rfl) rfl
          (stage_nextSide_ne side) rfl
      · rename_i updated adopted
        rw [← Option.some.inj taken]
        refine ⟨moves_of_stays isAt rfl rfl rfl, ?_, ?_⟩
        · rintro _ ⟨⟩ _ candidate _ ⟨⟩ mere entry stored
          exact adopt_unclaimed adopted mere stored
        · intro _ _ _ replaced
          cases replaced
  · cases taken

theorem sound_adoptUpsert {flush : Flush} {raises : Option String}
    (taken : sweep.adoptUpsert store visits flush raises = some turn) : turn.Sound store sweep := by
  unfold Sweep.adoptUpsert at taken
  split at taken
  · rename_i lamp candidate updated writing
    have isAt : sweep.stage.lamp? = some lamp := by
      rw [writing]
      rfl
    have replaces : sweep.WritesSound store → ∀ other entry,
        (if ExportStore.lands flush updated then some (candidate, store.get candidate.deviceId)
          else none) = some (other, some entry) → other.onlyIfUnclaimed = true →
        Unclaimed other entry := by
      intro sound other entry replaced mere
      split at replaced
      · cases Prod.mk.inj (Option.some.inj replaced) with
        | intro same stored =>
          subst same
          exact sound lamp candidate updated writing mere entry stored
      · cases replaced
    dsimp only at taken
    split at taken
    · rw [← Option.some.inj taken]
      refine ⟨moves_of_stays isAt rfl rfl rfl, ?_, replaces⟩
      rintro _ ⟨⟩ _ _ _ ⟨⟩
    · rw [← Option.some.inj taken]
      refine ⟨moves_of_stays isAt rfl (lamp?_nextSide candidate.side) rfl, ?_, replaces⟩
      intro next goes other _ _ isWriting
      cases goes
      exact absurd isWriting (stage_nextSide_ne candidate.side _ _ _)
  · cases taken

theorem sound_restore {fails : Option String}
    (taken : sweep.restore store visits fails = some turn) : turn.Sound store sweep := by
  unfold Sweep.restore at taken
  split at taken
  · rename_i lamp skipped restoring
    have isAt : sweep.stage.lamp? = some lamp := by
      rw [restoring]
      rfl
    dsimp only at taken
    split at taken
    · rw [← Option.some.inj taken]
      exact sound_of_moves (moves_of_restores isAt rfl) rfl (by rintro _ _ _ ⟨⟩) rfl
    · rw [← Option.some.inj taken]
      exact sound_of_moves (moves_of_restores isAt rfl) rfl (by rintro _ _ _ ⟨⟩) rfl
  · cases taken

/-- Every step of a sweep. -/
theorem sound_turn {event : SweepEvent} (taken : sweep.turn store visits event = some turn) :
    turn.Sound store sweep := by
  cases event with
  | resolve =>
      rcases Option.map_eq_some_iff.mp taken with ⟨next, resolved, rfl⟩
      exact sound_resolve resolved
  | resolveFails =>
      rw [Sweep.turn] at taken
      split at taken
      · rename_i isAt
        rw [← Option.some.inj taken]
        exact sound_of_ends (by rw [isAt]; rfl) rfl rfl rfl
      · rename_i isAt
        rw [← Option.some.inj taken]
        exact sound_of_ends (by rw [isAt]; rfl) rfl rfl rfl
      · cases taken
  | take intake => exact sound_take taken
  | ask reply => exact sound_ask taken
  | settle echo => exact sound_settle taken
  | adoptGet raises => exact sound_adoptGet taken
  | adoptUpsert flush raises => exact sound_adoptUpsert taken
  | restore fails => exact sound_restore taken

/-! ## What a run keeps -/

variable {state next : State} {thread : Nat}

/-- Where no sweep is at a lamp, every lamp has been given back. -/
theorem GivenBack.of_unheld (given : GivenBack state) (unheld : ∀ lamp, ¬Held state lamp)
    (same : next.touches = state.touches) : GivenBack next := by
  intro before lamp side after mireds split readable
  rcases given before lamp side after mireds (same ▸ split) readable with restored | ⟨held, _⟩
  · exact .inl restored
  · exact absurd held (unheld lamp)

theorem touch_lamp_of_moves {touch : Touch} (moves : turn.Moves sweep)
    (isAt : sweep.stage.lamp? = some lamp) (touched : turn.touch = some touch) :
    touch.lamp = lamp := by
  cases touch with
  | extreme other side =>
      exact Option.some.inj ((moves.extreme other side touched).1.symm.trans isAt)
  | restore other mireds =>
      exact Option.some.inj ((moves.restore other mireds touched).1.symm.trans isAt)

theorem held_takes {after : Sweep} (goes : turn.next = some after)
    (isAt : after.stage.lamp? = some lamp) : Held (state.takes thread turn) lamp :=
  ⟨thread, after, by simp [State.takes, goes], isAt⟩

/-- A step of the sweep that is at the lamp. -/
theorem GivenBack.takes (given : GivenBack state)
    (only : ∀ other, state.threads other ≠ .idle → other = thread)
    (isSweeping : state.threads thread = .sweeping sweep) (moves : turn.Moves sweep) :
    GivenBack (state.takes thread turn) := by
  have isHolder : ∀ lamp, Held state lamp → sweep.stage.lamp? = some lamp := by
    rintro lamp ⟨other, holder, holds, isAt⟩
    obtain rfl := only other (by rw [holds]; rintro ⟨⟩)
    cases isSweeping.symm.trans holds
    exact isAt
  intro before lamp side after mireds split readable
  have grown : state.touches ++ turn.touch.toList = before ++ .extreme lamp side :: after := split
  cases touched : turn.touch with
  | none =>
      rw [touched, Option.toList_none, List.append_nil] at grown
      rcases given before lamp side after mireds grown readable with restored | ⟨held, same⟩
      · exact .inl restored
      · rcases moves.keeps lamp mireds (isHolder lamp held) readable with restores | ⟨_, goes, isAt⟩
        · rw [touched] at restores
          cases restores
        · exact .inr ⟨held_takes goes isAt, same⟩
  | some new =>
      rw [touched, Option.toList_some] at grown
      rcases List.eq_nil_or_concat after with rfl | ⟨rest, last, rfl⟩
      · rcases List.append_inj' grown rfl with ⟨_, single⟩
        rw [(List.cons.inj single).1] at touched
        rcases moves.extreme lamp side touched with ⟨_, _, goes, isAt⟩
        exact .inr ⟨held_takes goes isAt, by simp⟩
      · rw [List.concat_eq_append] at grown ⊢
        rw [← List.cons_append, ← List.append_assoc] at grown
        rcases List.append_inj' grown rfl with ⟨earlier, single⟩
        obtain rfl : new = last := (List.cons.inj single).1
        rcases given before lamp side rest mireds earlier readable with
          ⟨middle, later, restored, same⟩ | ⟨held, same⟩
        · exact .inl ⟨middle, later ++ [new], by rw [restored]; simp, same⟩
        · rcases moves.keeps lamp mireds (isHolder lamp held) readable with
            restores | ⟨_, goes, isAt⟩
          · rw [touched] at restores
            cases restores
            exact .inl ⟨rest, [], rfl, same⟩
          · refine .inr ⟨held_takes goes isAt, fun touch mem => ?_⟩
            rcases List.mem_append.mp mem with old | isNew
            · exact same touch old
            · rw [List.mem_singleton.mp isNew]
              exact touch_lamp_of_moves moves (isHolder lamp held) touched

/-- At most one thread is at work, and the flag is set while one is. -/
structure Tracked (state : State) : Prop where
  single : ∀ thread other, state.threads thread ≠ .idle → state.threads other ≠ .idle →
    thread = other
  flagged : state.running = true ↔ ∃ thread, state.threads thread ≠ .idle
  givenBack : GivenBack state
  writes : ∀ thread sweep, state.threads thread = .sweeping sweep → sweep.WritesSound state.store
  replaced : ∀ candidate entry, (candidate, some entry) ∈ state.replaced →
    candidate.onlyIfUnclaimed = true → Unclaimed candidate entry

theorem tracked_opened (store : ExportStore) : Tracked (opened store) where
  single := fun _ _ busy _ => absurd rfl busy
  flagged := by simp [opened]
  givenBack := by
    intro before lamp side after mireds split
    simp [opened] at split
  writes := by
    rintro _ _ ⟨⟩
  replaced := by
    intro candidate entry mem
    simp [opened] at mem

theorem Tracked.handsBack (tracked : Tracked state) : HandsBack state where
  single := by
    intro thread other sweep another first second
    exact tracked.single thread other (by rw [first]; rintro ⟨⟩) (by rw [second]; rintro ⟨⟩)
  givenBack := tracked.givenBack
  startable := by
    intro idle
    refine Bool.eq_false_iff.mpr fun running => ?_
    rcases tracked.flagged.mp running with ⟨thread, busy⟩
    exact busy (idle thread)
  unclaimed := tracked.replaced

theorem Tracked.only (tracked : Tracked state) (busy : state.threads thread ≠ .idle) :
    ∀ other, state.threads other ≠ .idle → other = thread :=
  fun other also => tracked.single other thread also busy

theorem becomes_self (stage : Thread) : (state.becomes thread stage).threads thread = stage :=
  Function.update_self ..

theorem becomes_of_ne {other : Nat} (apart : other ≠ thread) (stage : Thread) :
    (state.becomes thread stage).threads other = state.threads other :=
  Function.update_of_ne apart ..

/-- All but one thread are idle. -/
theorem Tracked.othersIdle (tracked : Tracked state) (busy : state.threads thread ≠ .idle)
    (stage : Thread) (other : Nat) (apart : other ≠ thread) :
    (state.becomes thread stage).threads other = .idle := by
  by_contra also
  rw [becomes_of_ne apart] at also
  exact apart (tracked.only busy other also)

/-- A thread comes to a stage while no sweep runs and the other threads are idle. -/
theorem Tracked.moveTo (tracked : Tracked state) (thread : Nat)
    (quiet : ∀ thread sweep, state.threads thread ≠ .sweeping sweep)
    (others : ∀ other, other ≠ thread → next.threads other = .idle)
    (flag : next.running = true ↔ next.threads thread ≠ .idle)
    (sound : ∀ sweep, next.threads thread = .sweeping sweep → sweep.WritesSound next.store)
    (touches : next.touches = state.touches) (replaced : next.replaced = state.replaced) :
    Tracked next := by
  have only : ∀ other, next.threads other ≠ .idle → other = thread := by
    intro other busy
    by_contra apart
    exact busy (others other apart)
  refine ⟨fun first second busy also => ?_, ⟨fun running => ?_, ?_⟩, ?_, ?_, replaced ▸ tracked.replaced⟩
  · exact (only first busy).trans (only second also).symm
  · exact ⟨thread, flag.mp running⟩
  · rintro ⟨other, busy⟩
    obtain rfl := only other busy
    exact flag.mpr busy
  · refine tracked.givenBack.of_unheld ?_ touches
    rintro lamp ⟨other, sweep, isSweeping, _⟩
    exact quiet other sweep isSweeping
  · intro other sweep isSweeping
    obtain rfl := only other (by rw [isSweeping]; rintro ⟨⟩)
    exact sound sweep isSweeping

/-- While a thread is in `start`, no sweep runs. -/
theorem Tracked.quiet_of_starting (tracked : Tracked state) (busy : state.threads thread ≠ .idle)
    (starting : ∀ sweep, state.threads thread ≠ .sweeping sweep) (other : Nat) (sweep : Sweep) :
    state.threads other ≠ .sweeping sweep := by
  intro isSweeping
  obtain rfl := tracked.only busy other (by rw [isSweeping]; rintro ⟨⟩)
  exact starting sweep isSweeping

theorem Tracked.running (tracked : Tracked state) (busy : state.threads thread ≠ .idle) :
    state.running = true := tracked.flagged.mpr ⟨thread, busy⟩

/-- A thread goes on in `start`. -/
theorem Tracked.starts (tracked : Tracked state) (busy : state.threads thread ≠ .idle)
    (starting : ∀ sweep, state.threads thread ≠ .sweeping sweep) {stage : Thread}
    (goesOn : stage ≠ .idle) (stays : ∀ sweep, stage ≠ .sweeping sweep) :
    Tracked (state.becomes thread stage) := by
  refine tracked.moveTo thread (tracked.quiet_of_starting busy starting)
    (tracked.othersIdle busy stage) ?_ ?_ rfl rfl
  · rw [becomes_self]
    exact ⟨fun _ => goesOn, fun _ => tracked.running busy⟩
  · rw [becomes_self]
    exact fun sweep same => absurd same (stays sweep)

/-- A step of the sweep. -/
theorem Tracked.takes (tracked : Tracked state) (isSweeping : state.threads thread = .sweeping sweep)
    (sound : turn.Sound state.store sweep) : Tracked (state.takes thread turn) := by
  have busy : state.threads thread ≠ .idle := by
    rw [isSweeping]
    rintro ⟨⟩
  have only : ∀ other, (state.takes thread turn).threads other ≠ .idle → other = thread := by
    intro other also
    by_contra apart
    exact also (tracked.othersIdle busy _ other apart)
  have now : (state.takes thread turn).threads thread =
      (match turn.next with
        | some sweep => .sweeping sweep
        | none => .idle) := Function.update_self ..
  refine ⟨fun first second also other => ?_, ⟨fun running => ⟨thread, ?_⟩, ?_⟩,
    tracked.givenBack.takes (tracked.only busy) isSweeping sound.moves, ?_, ?_⟩
  · exact (only first also).trans (only second other).symm
  · have goes : turn.next.isSome = true := (Bool.and_eq_true_iff.mp running).2
    rcases Option.isSome_iff_exists.mp goes with ⟨after, same⟩
    rw [now, same]
    rintro ⟨⟩
  · rintro ⟨other, also⟩
    obtain rfl := only other also
    rw [now] at also
    refine Bool.and_eq_true_iff.mpr ⟨tracked.running busy, ?_⟩
    cases goes : turn.next with
    | none => simp [goes] at also
    | some after => rfl
  · intro other after isAfter
    obtain rfl := only other (by rw [isAfter]; rintro ⟨⟩)
    rw [now] at isAfter
    cases goes : turn.next with
    | none => simp [goes] at isAfter
    | some found =>
        rw [goes] at isAfter
        cases isAfter
        exact sound.writes _ goes
  · intro candidate entry mem
    rcases List.mem_append.mp mem with old | isNew
    · exact tracked.replaced candidate entry old
    · exact sound.replaced (tracked.writes thread sweep isSweeping) candidate entry
        (Option.mem_toList.mp isNew)

theorem Tracked.step {event : Event} (tracked : Tracked state) (meets : Undisturbed state event)
    (taken : step state event = some next) : Tracked next := by
  cases event with
  | request thread ids skipLit =>
      rw [CtCalibration.step] at taken
      split at taken
      · split at taken
        · rw [← Option.some.inj taken]
          exact ⟨tracked.single, tracked.flagged, tracked.givenBack, tracked.writes,
            tracked.replaced⟩
        · rename_i stopped
          rw [← Option.some.inj taken]
          have idle : ∀ other, state.threads other = .idle := by
            intro other
            by_contra busy
            exact stopped (tracked.running busy)
          refine tracked.moveTo thread (fun other sweep => by rw [idle other]; rintro ⟨⟩)
            (fun other apart => (becomes_of_ne apart _).trans (idle other)) ?_ ?_ rfl rfl
          · change true = true ↔ (state.becomes thread _).threads thread ≠ .idle
            rw [becomes_self]
            exact ⟨fun _ => by rintro ⟨⟩, fun _ => rfl⟩
          · change ∀ sweep, (state.becomes thread _).threads thread = _ → _
            rw [becomes_self]
            rintro _ ⟨⟩
      · cases taken
  | prepare thread =>
      rw [CtCalibration.step] at taken
      split at taken
      · rename_i skipLit accepted
        rw [← Option.some.inj taken]
        exact tracked.starts (by rw [accepted]; rintro ⟨⟩) (by rw [accepted]; rintro _ ⟨⟩)
          (by rintro ⟨⟩) (by rintro _ ⟨⟩)
      · rename_i requested skipLit accepted
        split at taken
        · rw [← Option.some.inj taken]
          exact tracked.starts (by rw [accepted]; rintro ⟨⟩) (by rw [accepted]; rintro _ ⟨⟩)
            (by rintro ⟨⟩) (by rintro _ ⟨⟩)
        · rename_i raises
          exact absurd raises (meets requested skipLit accepted)
      · cases taken
  | spawn thread worker fails =>
      rw [CtCalibration.step] at taken
      split at taken
      · rename_i ids skipLit ready
        have busy : state.threads thread ≠ .idle := by
          rw [ready]
          rintro ⟨⟩
        have idle (other : Nat) : (state.becomes thread .idle).threads other = .idle := by
          by_cases same : other = thread
          · rw [same, becomes_self]
          · exact tracked.othersIdle busy .idle other same
        split at taken
        · rename_i failed
          exact absurd failed (by rw [show fails = false from meets]; rintro ⟨⟩)
        · split at taken
          · rw [← Option.some.inj taken]
            refine tracked.moveTo worker
              (tracked.quiet_of_starting busy (by rw [ready]; rintro _ ⟨⟩))
              (fun other apart => (becomes_of_ne apart _).trans (idle other)) ?_ ?_ rfl rfl
            · rw [becomes_self]
              exact ⟨fun _ => by rintro ⟨⟩, fun _ => tracked.running busy⟩
            · rw [becomes_self]
              rintro _ ⟨⟩ lamp candidate updated writing
              cases ids <;> cases writing
          · cases taken
      · cases taken
  | work thread event =>
      rw [CtCalibration.step] at taken
      split at taken
      · rename_i sweep isSweeping
        rcases Option.map_eq_some_iff.mp taken with ⟨turn, turned, rfl⟩
        have sound := sound_turn turned
        have busy : state.threads thread ≠ .idle := by
          rw [isSweeping]
          rintro ⟨⟩
        exact tracked.takes isSweeping sound
      · cases taken
  | commit store =>
      rw [← Option.some.inj taken]
      refine ⟨tracked.single, tracked.flagged, tracked.givenBack, ?_, tracked.replaced⟩
      intro thread sweep isSweeping lamp candidate updated writing mere entry stored
      have same := meets thread sweep lamp candidate updated isSweeping writing
      exact tracked.writes thread sweep isSweeping lamp candidate updated writing mere entry
        (same.symm.trans stored)

/-- In every run whose starts do not fail once the flag is set, and in which no other writer
changes a lamp's entry in the middle of an adoption. -/
theorem handsBack_of_undisturbed_run {store : ExportStore} {events : List Event} {final : State}
    (run : RunWhere step Undisturbed (opened store) events final) : HandsBack final :=
  (run.invariant (tracked_opened store) fun _ _ _ tracked meets taken =>
    tracked.step meets taken).handsBack

/-! ## A thread that is not started -/

/-- A lamp that stops at 200 and reaches 500. -/
def sweptLamp : List Event :=
  [.request 0 (some [.value 7]) true, .prepare 0, .spawn 0 1 false, .work 1 .resolve,
    .work 1 .resolve, .work 1 (.take (.found false (some 300))), .work 1 (.ask .sent),
    .work 1 (.settle (.read (some 200))), .work 1 (.adoptGet none),
    .work 1 (.adoptUpsert .saved none), .work 1 (.ask .sent),
    .work 1 (.settle (.read (some 497))), .work 1 (.adoptGet none),
    .work 1 (.adoptUpsert .saved none), .work 1 (.restore none),
    .work 1 (.take .gone)]

def oneLight : ExportStore := (SharedStore.loaded [SharedStore.ctLight 7]).store

theorem handsBack_sweptLamp :
    ∃ final, RunWhere step Undisturbed (opened oneLight) sweptLamp final ∧ HandsBack final := by
  have run : ∃ final, RunWhere step Undisturbed (opened oneLight) sweptLamp final := by
    refine ⟨_, .snoc (.snoc (.snoc (.snoc (.snoc (.snoc (.snoc (.snoc (.snoc (.snoc (.snoc (.snoc
      (.snoc (.snoc (.snoc (.snoc .nil trivial rfl) ?_ rfl) ?_ rfl) trivial rfl) trivial rfl)
        trivial rfl) trivial rfl) trivial rfl) trivial rfl) trivial rfl) trivial rfl) trivial rfl)
          trivial rfl) trivial rfl) trivial rfl) trivial rfl⟩
    · intro requested skipLit accepted
      cases (accepted : Thread.accepted _ _ = _)
      exact Option.some_ne_none [7]
    · exact (rfl : false = false)
  rcases run with ⟨final, reached⟩
  exact ⟨final, reached, handsBack_of_undisturbed_run reached⟩

/-- No thread can be started: no sweep runs, and none can be started again. -/
def failedStart : List Event := [.request 0 none true, .prepare 0, .spawn 0 1 true]

theorem sweep_never_again :
    ¬∀ (store : ExportStore) (events : List Event) (final : State),
      Run step (opened store) events final → HandsBack final := by
  intro claimed
  have run : ∃ final, Run step (opened oneLight) failedStart final ∧
      (∀ thread, final.threads thread = .idle) ∧ final.running = true := by
    refine ⟨_, .snoc (.snoc (.snoc .nil trivial rfl) trivial rfl) trivial rfl, ?_, rfl⟩
    intro thread
    by_cases same : thread = 0
    · subst same
      rfl
    · simp [State.becomes, opened]
  rcases run with ⟨final, reached, idle, running⟩
  rw [(claimed oneLight failedStart final reached).startable idle] at running
  cases running

end CtCalibration

end IndigoMatter.Plugin
