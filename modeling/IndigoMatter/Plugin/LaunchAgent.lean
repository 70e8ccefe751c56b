import IndigoMatter.Library.Transition
import Mathlib.Data.Option.Basic

/-!
# The plist a launchd job runs

launchd runs a job with the plist it read when the job was loaded; a newer file takes
effect at the next load.  The agent keeps the digest of the plist it last loaded in a
marker file and leaves a loaded job alone while the marker is the digest of the plist
it has just written.

The marker is written on a best-effort basis after a load.  A write that fails can keep
the digest of an earlier plist, a restart that cannot read the file back writes none,
and the legacy load may report success for a job that is still loaded.  In each case
the marker and the job part, and a later call can take one for the other.
-/

namespace IndigoMatter.Plugin

open IndigoMatter.Library

namespace LaunchAgent

variable {Plist Digest : Type}

/-! ## launchd and the two files -/

/-- How `ensure_installed` ended: `None`, `True`, `False` on the path of a matching
digest, or `False` because the load failed. -/
inductive Report
  | absent
  | reloaded
  | leftAlone
  | failed
deriving DecidableEq

/-- The plist file, the plist the loaded job was loaded from, what reading the marker
gives, and how the last `ensure_installed` ended for the plist it wanted. -/
structure Agent (Plist Digest : Type) where
  disk : Option Plist
  loaded : Option Plist
  marker : Option Digest
  report : Option (Report × Plist)

/-- How a command that unloads the job ended; one that fails may have unloaded it. -/
inductive Stop
  | done
  | failed (gone : Bool)

/-- How a command that loads the job ended; one that fails may have loaded it. -/
inductive Load
  | done
  | failed (anyway : Bool)

/-- How the write of the marker ended: a failure leaves it as it was, or leaves nothing
that reads as a digest. -/
inductive MarkerWrite
  | written
  | kept
  | cut
deriving DecidableEq

/-- What `launchctl print` says of a loaded job. -/
inductive Pid
  | running
  | unreadable
  | absent

namespace Agent

/-- The job after a command that unloads it. -/
def unload (agent : Agent Plist Digest) : Stop → Agent Plist Digest
  | .done => { agent with loaded := none }
  | .failed gone => if gone then { agent with loaded := none } else agent

/-- The job after a load that takes effect where none is loaded. -/
def load (agent : Agent Plist Digest) : Agent Plist Digest :=
  { agent with loaded := agent.loaded <|> agent.disk }

/-- `_record_applied_digest`. -/
def record (agent : Agent Plist Digest) (digest : Digest) : MarkerWrite → Agent Plist Digest
  | .written => { agent with marker := some digest }
  | .kept => agent
  | .cut => { agent with marker := none }

section Fields

variable (agent : Agent Plist Digest)

@[simp] theorem unload_disk (stop : Stop) : (agent.unload stop).disk = agent.disk := by
  cases stop with
  | done => rfl
  | failed gone => cases gone <;> rfl

@[simp] theorem unload_report (stop : Stop) : (agent.unload stop).report = agent.report := by
  cases stop with
  | done => rfl
  | failed gone => cases gone <;> rfl

@[simp] theorem record_loaded (digest : Digest) (write : MarkerWrite) :
    (agent.record digest write).loaded = agent.loaded := by
  cases write <;> rfl

@[simp] theorem record_disk (digest : Digest) (write : MarkerWrite) :
    (agent.record digest write).disk = agent.disk := by
  cases write <;> rfl

@[simp] theorem record_report (digest : Digest) (write : MarkerWrite) :
    (agent.record digest write).report = agent.report := by
  cases write <;> rfl

end Fields

end Agent

/-! ## Loading -/

/-- The results of `_bootstrap_and_record`. -/
structure BootResults where
  bootstrap : Load
  readBack : Bool
  marker : MarkerWrite

section Calls

variable (digest : Plist → Digest)

/-- `_bootstrap_and_record`, with the plist the caller holds; it succeeds only for a job
that is not loaded. -/
def bootstrapAndRecord (given : Option Plist) (results : BootResults)
    (agent : Agent Plist Digest) : Option (Agent Plist Digest × Bool) :=
  match results.bootstrap with
  | .failed anyway => some (if anyway then agent.load else agent, false)
  | .done =>
      match agent.loaded, agent.disk with
      | none, some onDisk =>
          match given <|> (if results.readBack then some onDisk else none) with
          | some plist => some (agent.load.record (digest plist) results.marker, true)
          | none => some (agent.load, true)
      | _, _ => none

/-- The results of `_apply_plist`.  `print` is what launchd says of a job it finds. -/
structure ApplyResults where
  print : Option Pid
  readsMarker : Bool
  orphansReaped : Nat
  bootout : Stop
  boot : BootResults
  load : Load
  loadMarker : MarkerWrite

/-- The job is taken for one that runs the plist. -/
def leavesAlone [DecidableEq Digest] (desired : Plist) (results : ApplyResults)
    (agent : Agent Plist Digest) : Bool :=
  match results.print with
  | none => false
  | some pid =>
      decide ((if results.readsMarker then agent.marker else none) = some (digest desired)) &&
        match pid with
        | .running => results.orphansReaped = 0
        | .unreadable => true
        | .absent => false

/-- The job once it has been stopped for a load; one nobody finds is not stopped. -/
def stopped (results : ApplyResults) (agent : Agent Plist Digest) : Agent Plist Digest :=
  if results.print.isSome then agent.unload results.bootout else agent

/-- The legacy load, which may report success for a job that is loaded. -/
def legacyLoad (desired : Plist) (results : ApplyResults) (agent : Agent Plist Digest) :
    Agent Plist Digest :=
  match results.load with
  | .failed anyway =>
      { (if anyway then agent.load else agent) with report := some (.failed, desired) }
  | .done =>
      { agent.load.record (digest desired) results.loadMarker with
        report := some (.reloaded, desired) }

/-- `_apply_plist` once the plist is written. -/
def applyPlist [DecidableEq Digest] (desired : Plist) (results : ApplyResults)
    (agent : Agent Plist Digest) : Option (Agent Plist Digest) :=
  if results.print.isSome ∧ agent.loaded.isNone then none
  else if leavesAlone digest desired results agent then
    some { agent with report := some (.leftAlone, desired) }
  else
    match bootstrapAndRecord digest (some desired) results.boot (stopped results agent) with
    | none => none
    | some (booted, true) => some { booted with report := some (.reloaded, desired) }
    | some (booted, false) => some (legacyLoad digest desired results booted)

/-- The results of `uninstall`. -/
structure UninstallResults where
  bootout : Stop
  unload : Stop

/-- `uninstall`. -/
def uninstall (results : UninstallResults) (agent : Agent Plist Digest) : Agent Plist Digest :=
  match results.bootout with
  | .done => { agent.unload .done with disk := none }
  | .failed gone => { (agent.unload (.failed gone)).unload results.unload with disk := none }

/-- What `ensure_installed` meets: whether the preflight finds a problem, the plist the
preferences ask for, and the results of the commands. -/
structure InstallCall (Plist : Type) where
  problem : Bool
  desired : Plist
  teardown : UninstallResults
  apply : ApplyResults

/-- `ensure_installed`. -/
def ensureInstalled [DecidableEq Digest] (call : InstallCall Plist) (agent : Agent Plist Digest) :
    Option (Agent Plist Digest) :=
  if call.problem then
    let torn := if agent.disk.isSome then uninstall call.teardown agent else agent
    some { torn with report := some (.absent, call.desired) }
  else applyPlist digest call.desired call.apply { agent with disk := some call.desired }

/-! ## The calls -/

inductive Event (Plist : Type)
  | ensureInstalled (call : InstallCall Plist)
  | start (boot : BootResults) (call : InstallCall Plist)
  | restart (bootout : Stop) (boot : BootResults) (teardown : UninstallResults)
      (call : InstallCall Plist)
  | stop (bootout : Stop)
  | uninstall (results : UninstallResults)

/-- One call; `none` where launchd cannot answer so. -/
def step [DecidableEq Digest] (before : Agent Plist Digest) (event : Event Plist) :
    Option (Agent Plist Digest) :=
  let agent := { before with report := none }
  match event with
  | .ensureInstalled call => ensureInstalled digest call agent
  | .start boot call =>
      if agent.disk.isSome then
        (bootstrapAndRecord digest none boot agent).map Prod.fst
      else ensureInstalled digest call agent
  | .restart bootout boot teardown call =>
      if agent.disk.isNone then some agent
      else
        match bootstrapAndRecord digest none boot (agent.unload bootout) with
        | none => none
        | some (booted, true) => some booted
        | some (booted, false) => ensureInstalled digest call (uninstall teardown booted)
  | .stop bootout => some (agent.unload bootout)
  | .uninstall results => some (uninstall results agent)

end Calls

/-- What the agent starts from: any file and any job, and no marker yet. -/
def fresh (disk loaded : Option Plist) : Agent Plist Digest := ⟨disk, loaded, none, none⟩

/-- A job that was left alone or reloaded is loaded from the plist that was wanted. -/
def RunsWanted (agent : Agent Plist Digest) : Prop :=
  ∀ desired, agent.report = some (.leftAlone, desired) ∨ agent.report = some (.reloaded, desired) →
    agent.loaded = some desired

/-! ## Loads that are noted -/

section Noted

variable (digest : Plist → Digest)

/-- The marker holds the digest of a plist, or none. -/
def Trusts (agent : Agent Plist Digest) (plist : Plist) : Prop :=
  agent.marker = none ∨ agent.marker = some (digest plist)

/-- A bootstrap that takes effect is noted: its marker is written, or what the marker
holds already is right. -/
def BootNoted (given : Option Plist) (results : BootResults) (agent : Agent Plist Digest) :
    Prop :=
  agent.loaded = none → ∀ onDisk, agent.disk = some onDisk → Trusts digest agent onDisk ∨
    match results.bootstrap with
    | .done => results.marker ≠ .kept ∧ (given.isSome = true ∨ results.readBack = true)
    | .failed anyway => anyway = false

/-- The legacy load reports success for no job that runs another plist, and one that takes
effect is noted. -/
def LoadNoted (desired : Plist) (results : ApplyResults) (agent : Agent Plist Digest) : Prop :=
  match results.load with
  | .done => (∀ plist, agent.loaded = some plist → plist = desired) ∧
      (Trusts digest agent desired ∨ results.loadMarker ≠ .kept)
  | .failed anyway => agent.loaded = none → Trusts digest agent desired ∨ anyway = false

/-- The loads of `_apply_plist` are noted, and the digest of the plist is not that of another
one that is loaded. -/
structure ApplyNoted [DecidableEq Digest] (desired : Plist) (results : ApplyResults)
    (agent : Agent Plist Digest) : Prop where
  apart : ∀ plist, agent.loaded = some plist → digest plist = digest desired → plist = desired
  boot : leavesAlone digest desired results agent = false →
    BootNoted digest (some desired) results.boot (stopped results agent)
  load : leavesAlone digest desired results agent = false → ∀ booted,
    bootstrapAndRecord digest (some desired) results.boot (stopped results agent) =
      some (booted, false) → LoadNoted digest desired results booted

def InstallNoted [DecidableEq Digest] (call : InstallCall Plist) (agent : Agent Plist Digest) :
    Prop :=
  call.problem = false →
    ApplyNoted digest call.desired call.apply { agent with disk := some call.desired }

/-- Every load of a call is noted. -/
def Noted [DecidableEq Digest] (before : Agent Plist Digest) (event : Event Plist) : Prop :=
  let agent := { before with report := none }
  match event with
  | .ensureInstalled call => InstallNoted digest call agent
  | .start boot call =>
      if agent.disk.isSome then BootNoted digest none boot agent
      else InstallNoted digest call agent
  | .restart bootout boot teardown call =>
      agent.disk.isSome = true → BootNoted digest none boot (agent.unload bootout) ∧
        ∀ booted, bootstrapAndRecord digest none boot (agent.unload bootout) =
          some (booted, false) → InstallNoted digest call (uninstall teardown booted)
  | .stop _ | .uninstall _ => True

/-- The marker is right about a job that is loaded. -/
def Honest (agent : Agent Plist Digest) : Prop :=
  ∀ plist, agent.loaded = some plist → Trusts digest agent plist

end Noted

/-! ## What each command keeps -/

section Keeps

variable {digest : Plist → Digest} {agent : Agent Plist Digest}

theorem honest_fresh (disk loaded : Option Plist) :
    Honest digest (fresh disk loaded : Agent Plist Digest) :=
  fun _ _ => .inl rfl

theorem honest_of_unloaded (unloaded : agent.loaded = none) : Honest digest agent := by
  intro plist loaded
  rw [unloaded] at loaded
  cases loaded

theorem Honest.unload (honest : Honest digest agent) (stop : Stop) :
    Honest digest (agent.unload stop) := by
  cases stop with
  | done => exact honest_of_unloaded rfl
  | failed gone =>
      cases gone with
      | false => exact honest
      | true => exact honest_of_unloaded rfl

theorem Honest.uninstall (honest : Honest digest agent) (results : UninstallResults) :
    Honest digest (uninstall results agent) := by
  rw [LaunchAgent.uninstall]
  split
  · exact honest_of_unloaded rfl
  · exact (honest.unload _).unload _

theorem uninstall_report (results : UninstallResults) :
    (uninstall results agent).report = agent.report := by
  rw [LaunchAgent.uninstall]
  split
  · rfl
  · simp

/-- A load keeps the marker right where it is right about the file. -/
theorem Honest.load (honest : Honest digest agent)
    (noted : agent.loaded = none → ∀ onDisk, agent.disk = some onDisk →
      Trusts digest agent onDisk) : Honest digest agent.load := by
  intro plist loaded
  change (agent.loaded <|> agent.disk) = some plist at loaded
  cases running : agent.loaded with
  | none =>
      rw [running] at loaded
      exact noted running plist loaded
  | some other =>
      rw [running] at loaded
      exact honest plist (running.trans loaded)

/-- The marker is right about a plist where it was right or is written. -/
theorem trusts_record {plist : Plist} {write : MarkerWrite}
    (noted : Trusts digest agent plist ∨ write ≠ .kept) :
    Trusts digest (agent.record (digest plist) write) plist := by
  cases write with
  | written => exact .inr rfl
  | cut => exact .inl rfl
  | kept =>
      rcases noted with right | written
      · exact right
      · exact absurd rfl written

theorem noneGiven {disk : Option Plist} :
    ∀ plist, (none : Option Plist) = some plist → disk = some plist := by
  intro plist given
  cases given

theorem bootstrapAndRecord_spec (honest : Honest digest agent) {given : Option Plist}
    (same : ∀ plist, given = some plist → agent.disk = some plist) {results : BootResults}
    (noted : BootNoted digest given results agent) {booted : Agent Plist Digest} {ok : Bool}
    (taken : bootstrapAndRecord digest given results agent = some (booted, ok)) :
    Honest digest booted ∧ booted.disk = agent.disk ∧ booted.report = agent.report ∧
      (ok = true → booted.loaded = agent.disk) := by
  rw [bootstrapAndRecord] at taken
  split at taken
  · rename_i anyway failed
    cases taken
    cases anyway with
    | false => exact ⟨honest, rfl, rfl, nofun⟩
    | true =>
        refine ⟨honest.load fun unloaded onDisk present => ?_, rfl, rfl, nofun⟩
        have right := noted unloaded onDisk present
        rw [failed] at right
        exact right.resolve_right nofun
  · rename_i done
    split at taken
    · rename_i onDisk unloaded present
      have right := noted unloaded onDisk present
      rw [done] at right
      have loads : agent.load.loaded = some onDisk := by
        rw [Agent.load, unloaded, present]
        rfl
      split at taken
      · rename_i plist found
        cases taken
        have isDisk : plist = onDisk := by
          cases given with
          | some held =>
              cases found
              exact Option.some.inj ((same _ rfl).symm.trans present)
          | none =>
              cases reads : results.readBack with
              | true =>
                  rw [reads] at found
                  cases found
                  rfl
              | false =>
                  rw [reads] at found
                  cases found
        subst isDisk
        refine ⟨?_, by simp [Agent.load], by simp [Agent.load], fun _ => ?_⟩
        · intro loaded isLoaded
          rw [Agent.record_loaded, loads] at isLoaded
          cases isLoaded
          apply trusts_record
          rcases right with trusted | written
          · exact .inl trusted
          · exact .inr written.1
        · rw [Agent.record_loaded, loads, present]
      · rename_i found
        cases taken
        refine ⟨honest.load fun _ other otherPresent => ?_, rfl, rfl, fun _ => ?_⟩
        · cases otherPresent.symm.trans present
          rcases right with trusted | ⟨_, held | reads⟩
          · exact trusted
          · cases given with
            | none => cases held
            | some plist => cases found
          · rw [reads] at found
            cases given with
            | none => cases found
            | some plist => cases found
        · rw [loads, present]
    · cases taken

theorem stopped_honest (honest : Honest digest agent) (results : ApplyResults) :
    Honest digest (stopped results agent) := by
  rw [stopped]
  split
  · exact honest.unload _
  · exact honest

theorem stopped_disk (results : ApplyResults) : (stopped results agent).disk = agent.disk := by
  rw [stopped]
  split
  · exact agent.unload_disk _
  · rfl

/-- The legacy load keeps the marker right, and a success means the plist that was wanted. -/
theorem legacyLoad_spec (honest : Honest digest agent) {desired : Plist}
    (present : agent.disk = some desired) {results : ApplyResults}
    (noted : LoadNoted digest desired results agent) :
    Honest digest (legacyLoad digest desired results agent) ∧
      RunsWanted (legacyLoad digest desired results agent) := by
  rw [LoadNoted] at noted
  rw [legacyLoad]
  cases ended : results.load with
  | failed anyway =>
      simp only [ended] at noted
      constructor
      · cases anyway with
        | false => exact honest
        | true =>
            have loads : Honest digest agent.load := by
              refine honest.load fun unloaded onDisk isDisk => ?_
              cases present.symm.trans isDisk
              exact (noted unloaded).resolve_right nofun
            exact loads
      · intro wanted reported
        rcases reported with alone | reloaded
        · cases alone
        · cases reloaded
  | done =>
      simp only [ended] at noted
      obtain ⟨current, written⟩ := noted
      have loads : agent.load.loaded = some desired := by
        cases running : agent.loaded with
        | none => rw [Agent.load, running, present]; rfl
        | some plist => rw [Agent.load, running, current plist running]; rfl
      constructor
      · intro plist isLoaded
        change (agent.load.record _ _).loaded = some plist at isLoaded
        rw [Agent.record_loaded, loads] at isLoaded
        cases isLoaded
        exact trusts_record written
      · intro wanted reported
        rcases reported with alone | reloaded
        · cases alone
        · cases reloaded
          change (agent.load.record _ _).loaded = _
          rw [Agent.record_loaded, loads]

/-- A job that is left alone runs the plist that was wanted. -/
theorem loaded_of_leavesAlone [DecidableEq Digest] (honest : Honest digest agent)
    {desired : Plist} {results : ApplyResults}
    (apart : ∀ plist, agent.loaded = some plist → digest plist = digest desired →
      plist = desired)
    (found : results.print.isSome = true → agent.loaded.isSome = true)
    (alone : leavesAlone digest desired results agent = true) :
    agent.loaded = some desired := by
  rw [leavesAlone] at alone
  cases printed : results.print with
  | none =>
      rw [printed] at alone
      cases alone
  | some pid =>
      rw [printed] at alone found
      obtain ⟨plist, loaded⟩ := Option.isSome_iff_exists.mp (found rfl)
      have read := of_decide_eq_true (Bool.and_eq_true_iff.mp alone).1
      split at read
      · rcases honest plist loaded with none | marked
        · rw [none] at read
          cases read
        · have same := Option.some.inj (marked.symm.trans read)
          rw [loaded, apart plist loaded same]
      · cases read

/-- `_apply_plist` keeps the marker right and runs the plist that was wanted. -/
theorem applyPlist_spec [DecidableEq Digest] (honest : Honest digest agent) {desired : Plist}
    (present : agent.disk = some desired) {results : ApplyResults}
    (noted : ApplyNoted digest desired results agent) {next : Agent Plist Digest}
    (taken : applyPlist digest desired results agent = some next) :
    Honest digest next ∧ RunsWanted next := by
  rw [applyPlist] at taken
  split at taken
  · cases taken
  · rename_i answers
    split at taken
    · rename_i alone
      cases taken
      refine ⟨honest, fun wanted reported => ?_⟩
      have same : desired = wanted := by
        rcases reported with left | reloaded
        · exact (Prod.mk.inj (Option.some.inj left)).2
        · cases reloaded
      rw [← same]
      refine loaded_of_leavesAlone honest noted.apart (fun printed => ?_) alone
      rw [← Bool.not_eq_false, Option.isSome_eq_false_iff]
      exact fun unloaded => answers ⟨printed, unloaded⟩
    · rename_i notAlone
      have unleft := Bool.eq_false_iff.mpr notAlone
      have sameGiven : ∀ plist, some desired = some plist →
          (stopped results agent).disk = some plist := by
        intro plist same
        rw [stopped_disk, present, same]
      have ends := fun booted ok => @bootstrapAndRecord_spec _ _ digest _
        (stopped_honest honest results) (some desired) sameGiven results.boot
        (noted.boot unleft) booted ok
      split at taken
      · cases taken
      · rename_i booted isBooted
        cases taken
        obtain ⟨right, _, _, loads⟩ := ends booted true isBooted
        refine ⟨right, fun wanted reported => ?_⟩
        rcases reported with left | reloaded
        · cases left
        · cases reloaded
          change booted.loaded = _
          rw [loads rfl, stopped_disk, present]
      · rename_i booted isBooted
        cases taken
        obtain ⟨right, disk, _, _⟩ := ends booted false isBooted
        rw [stopped_disk, present] at disk
        exact legacyLoad_spec right disk (noted.load unleft booted isBooted)

/-- A call that did not report runs what it ran. -/
theorem runsWanted_of_unreported (unreported : agent.report = none) : RunsWanted agent := by
  intro desired reported
  rw [unreported] at reported
  rcases reported with left | reloaded
  · cases left
  · cases reloaded

theorem ensureInstalled_spec [DecidableEq Digest] (honest : Honest digest agent)
    {call : InstallCall Plist} (noted : InstallNoted digest call agent)
    {next : Agent Plist Digest} (taken : ensureInstalled digest call agent = some next) :
    Honest digest next ∧ RunsWanted next := by
  rw [ensureInstalled] at taken
  split at taken
  · cases taken
    constructor
    · split
      · exact honest.uninstall _
      · exact honest
    · intro desired reported
      rcases reported with left | reloaded
      · cases left
      · cases reloaded
  · rename_i sound
    have written : Honest digest { agent with disk := some call.desired } := honest
    exact applyPlist_spec written rfl (noted (Bool.eq_false_iff.mpr sound)) taken

/-- Every call keeps the marker right and runs the plist that was wanted. -/
theorem step_spec [DecidableEq Digest] (honest : Honest digest agent) {event : Event Plist}
    (noted : Noted digest agent event) {next : Agent Plist Digest}
    (taken : step digest agent event = some next) : Honest digest next ∧ RunsWanted next := by
  have cleared : Honest digest { agent with report := none } := honest
  cases event with
  | ensureInstalled call => exact ensureInstalled_spec cleared noted taken
  | start boot call =>
      simp only [step] at taken
      simp only [Noted] at noted
      split at taken
      · rename_i present
        rw [if_pos present] at noted
        obtain ⟨⟨booted, ok⟩, isBooted, rfl⟩ := Option.map_eq_some_iff.mp taken
        obtain ⟨right, _, report, _⟩ :=
          bootstrapAndRecord_spec cleared noneGiven noted isBooted
        exact ⟨right, runsWanted_of_unreported report⟩
      · rename_i missing
        rw [if_neg missing] at noted
        exact ensureInstalled_spec cleared noted taken
  | restart bootout boot teardown call =>
      simp only [step] at taken
      split at taken
      · cases taken
        exact ⟨cleared, runsWanted_of_unreported rfl⟩
      · rename_i present
        obtain ⟨noted, reinstall⟩ := noted (by simpa [Option.isSome_iff_ne_none] using present)
        have ends := fun booted ok => @bootstrapAndRecord_spec _ _ digest _
          (cleared.unload bootout) none noneGiven boot noted booted ok
        split at taken
        · cases taken
        · rename_i isBooted
          cases taken
          obtain ⟨right, _, report, _⟩ := ends next true isBooted
          rw [Agent.unload_report] at report
          exact ⟨right, runsWanted_of_unreported report⟩
        · rename_i booted isBooted
          obtain ⟨right, _⟩ := ends booted false isBooted
          exact ensureInstalled_spec (right.uninstall teardown) (reinstall booted isBooted) taken
  | stop bootout =>
      cases taken
      exact ⟨cleared.unload bootout, runsWanted_of_unreported (by simp)⟩
  | uninstall results =>
      cases taken
      exact ⟨cleared.uninstall results, runsWanted_of_unreported (uninstall_report results)⟩

/-- Where every load is noted, a job that is left alone or reloaded runs the plist that was
wanted. -/
theorem runsWanted_of_noted_run [DecidableEq Digest] {disk loaded : Option Plist}
    {events : List (Event Plist)} {final : Agent Plist Digest}
    (run : RunWhere (step digest) (Noted digest) (fresh disk loaded) events final) :
    RunsWanted final := by
  have sound : Honest digest final ∧ RunsWanted final := by
    induction run with
    | nil => exact ⟨honest_fresh disk loaded, runsWanted_of_unreported rfl⟩
    | snoc _ noted taken sound => exact step_spec sound.1 noted taken
  exact sound.2

/-- A call whose commands all succeed, for a job that is loaded or not. -/
def smooth (desired : Nat) (loaded : Bool) (marker : MarkerWrite) : Event Nat :=
  .ensureInstalled
    { problem := false
      desired := desired
      teardown := ⟨.done, .done⟩
      apply := ⟨if loaded then some .running else none, true, 0, .done, ⟨.done, true, marker⟩,
        .done, .written⟩ }

/-- The first installation, and a reload with the same settings. -/
theorem runsWanted_of_noted_run_installed :
    RunsWanted (⟨some 1, some 1, some 1, some (.leftAlone, 1)⟩ : Agent Nat Nat) := by
  have run : RunWhere (step id) (Noted id) (fresh none none)
      [smooth 1 false .written, smooth 1 true .written]
        (⟨some 1, some 1, some 1, some (.leftAlone, 1)⟩ : Agent Nat Nat) := by
    refine .snoc (.snoc .nil ?_ rfl) ?_ rfl
    · exact fun _ => ⟨fun _ _ same => same, fun _ _ _ _ => .inl (.inl rfl), nofun⟩
    · exact fun _ => ⟨fun _ _ same => same, nofun, nofun⟩
  exact runsWanted_of_noted_run run

/-- Settings that are changed and changed back, with a marker that could not be written in
between: the job is left with the other settings. -/
theorem stale_job_left_alone :
    ¬∀ (disk loaded : Option Nat) (events : List (Event Nat)) (final : Agent Nat Nat),
      Run (step id) (fresh disk loaded) events final → RunsWanted final := by
  intro runs
  have run : Run (step id) (fresh none none)
      [smooth 1 false .written, smooth 2 true .kept, smooth 1 true .written]
        (⟨some 1, some 2, some 1, some (.leftAlone, 1)⟩ : Agent Nat Nat) :=
    .snoc (.snoc (.snoc .nil trivial rfl) trivial rfl) trivial rfl
  have same := runs none none _ _ run 1 (.inl rfl)
  cases same

end Keeps

end LaunchAgent

end IndigoMatter.Plugin
