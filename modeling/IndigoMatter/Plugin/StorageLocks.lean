import IndigoMatter.Library.InsertionMap
import IndigoMatter.Library.PyJson
import Mathlib.Data.List.Infix
import Mathlib.Logic.Function.Basic

/-!
# Clearing stale storage locks

A server holds its storage by a lock file and a file with its process id, and leaves
both behind when it is killed.  Before a start the agent deletes the locks that no
server holds, which it judges by four probes: the id file, the process table, the time
the id file was written and the age of the process.

Beside what the probes say stands what is so: the processes that run, with their
arguments, the times they started, and the storage that a matter node among them has
open, however it was started.
-/

namespace IndigoMatter.Plugin

open IndigoMatter.Library

/-- `os.getpid()` of a process. -/
abbrev Pid := Int

/-! ## The agent and the machine -/

/-- What identifies a launch agent. -/
structure LaunchAgent where
  package : List Char
  projectDir : List Char
  storagePath : List Char

namespace LaunchAgent

/-- Where npm installs packages in a directory. -/
def nodeModules : List Char := "/node_modules/".toList

/-- `_package_dir`. -/
def packageDir (agent : LaunchAgent) : List Char :=
  agent.projectDir ++ nodeModules ++ agent.package

/-- `_looks_like_our_process`: whether a command line names the package directory and
the storage path. -/
def looksLikeOurProcess (agent : LaunchAgent) (command : List Char) : Bool :=
  agent.packageDir <:+: command && agent.storagePath <:+: command

end LaunchAgent

/-- A process: what it was started with, and when, and the storage directory it has open if
it is a matter node. -/
structure Process where
  arguments : List (List Char)
  started : Rat
  storage : Option (List Char)

/-- Whether a process is a matter node on the agent's storage.  From which directory it runs
and what its command line says do not matter. -/
def LaunchAgent.isServer (agent : LaunchAgent) (process : Process) : Bool :=
  process.storage = some agent.storagePath

/-- Its command line. -/
def Process.command (process : Process) : List Char := [' '].intercalate process.arguments

/-- `START_AFTER_LOCK_SLACK_SECONDS`. -/
def startAfterLockSlackSeconds : Rat := 5

/-- The parse of `_ps_map`: a line that does not start with a number is passed over. -/
def psMap (lines : List (List Char)) : InsertionMap Pid (List Char) :=
  lines.foldl
    (fun procs line =>
      let stripped := pyStrip line
      match pyInt? (stripped.takeWhile (· ≠ ' ')) with
      | some pid => procs.set pid ((stripped.dropWhile (· ≠ ' ')).drop 1)
      | none => procs)
    ∅

/-- `_process_age_seconds`: the age in what `ps -o etime=` printed, if it printed one. -/
def processAgeSeconds (output : Option (List Char)) : Option Int := do
  let raw := pyStrip (← output)
  let (days, raw) ←
    if '-' ∈ raw then
      (pyInt? (raw.takeWhile (· ≠ '-'))).map fun days => (days, (raw.dropWhile (· ≠ '-')).drop 1)
    else some (0, raw)
  match ← (raw.splitOn ':').mapM pyInt? with
  | [minutes, seconds] => some (days * 86400 + minutes * 60 + seconds)
  | [hours, minutes, seconds] => some (days * 86400 + hours * 3600 + minutes * 60 + seconds)
  | _ => none

/-- The processes that run, and what the probes say of them: the process table lists them
all or is not printed, and an age, with the clock read after it, is right to within the
slack. -/
structure Machine where
  processes : InsertionMap Pid Process
  psLines : Option (List (List Char))
  etime : Pid → Option (List Char)
  clock : Pid → Rat
  listed : ∀ lines, psLines = some lines → ∀ pid,
    pid ∈ (psMap lines).keys ↔ pid ∈ processes.keys
  aged : ∀ pid process age, processes.get? pid = some process →
    processAgeSeconds (etime pid) = some age →
      clock pid - age ≤ process.started + startAfterLockSlackSeconds

/-- `_ps_map`: empty where `ps` cannot be used. -/
def Machine.psMap (machine : Machine) : InsertionMap Pid (List Char) :=
  match machine.psLines with
  | some lines => IndigoMatter.Plugin.psMap lines
  | none => ∅

/-! ## The storage -/

/-- What reading `matter.pid` comes to. -/
inductive PidFile
  | missing
  | undecodable
  | unreadable
  | text (content : List Char)
deriving DecidableEq

/-- `_read_matter_pid`: a pid, no owner, or a file that could not be read. -/
inductive PidRead
  | owner (pid : Pid)
  | noOwner
  | unreadable
deriving DecidableEq

/-- `_read_matter_pid`. -/
def readMatterPid : PidFile → PidRead
  | .missing | .undecodable => .noOwner
  | .unreadable => .unreadable
  | .text content =>
      match ((content.splitOnP isPySpace).filter (!·.isEmpty)).head? with
      | none => .noOwner
      | some first =>
          match pyInt? first with
          | some pid => .owner pid
          | none => .noOwner

/-- The lock files in a directory, and whether they can be deleted. -/
structure LockDirectory where
  hasLock : Bool
  pidFile : PidFile
  pidFileMtime : Option Rat
  lockRemovable : Bool
  pidRemovable : Bool

/-- What an entry of the storage root is. -/
inductive EntryKind
  | file
  | link
  | directory
deriving DecidableEq

/-- What listing the storage root comes to. -/
inductive Listing
  | listed
  | notFound
  | failed
deriving DecidableEq

/-- The storage root, or an entry of it. -/
abbrev Place := Option String

/-- The storage root and its entries, with the lock files in each. -/
structure Storage where
  listing : Listing
  entries : List (String × EntryKind)
  distinct : (entries.map Prod.fst).Nodup
  contents : Place → LockDirectory

/-- `_lock_candidate_dirs`. -/
def Storage.lockCandidateDirs (storage : Storage) : List Place :=
  match storage.listing with
  | .notFound | .failed => [none]
  | .listed => none :: (storage.entries.filter (·.2 = .directory)).map fun entry => some entry.1

/-! ## The sweep -/

/-- The verdict on a lock whose owner runs. -/
inductive LivePidStatus
  | stale
  | ours
  | undecided
deriving DecidableEq

section Sweep

variable (agent : LaunchAgent) (machine : Machine)

/-- `_stale_reason_for_live_pid`. -/
def staleReasonForLivePid (pidFileMtime : Option Rat) (pid : Pid) (command : List Char) :
    LivePidStatus :=
  if !command.isEmpty then
    if agent.looksLikeOurProcess command then .ours else .stale
  else
    match pidFileMtime, processAgeSeconds (machine.etime pid) with
    | some mtime, some age =>
        if machine.clock pid - age > mtime + startAfterLockSlackSeconds then .stale else .ours
    | _, _ => .undecided

/-- Whether `clear_stale_storage_locks` goes on to delete the lock of a directory. -/
def judgesStale (directory : LockDirectory) : Bool :=
  match readMatterPid directory.pidFile with
  | .unreadable => false
  | .noOwner => true
  | .owner pid =>
      if machine.psMap.entries.isEmpty then false
      else
        match machine.psMap.get? pid with
        | none => true
        | some command =>
            staleReasonForLivePid agent machine directory.pidFileMtime pid command = .stale

/-- `_clear_lock`, with whether the lock is gone. -/
def clearLock (directory : LockDirectory) : LockDirectory × Bool :=
  ({ directory with
      hasLock := directory.hasLock && !directory.lockRemovable
      pidFile := if directory.pidRemovable then .missing else directory.pidFile },
    directory.lockRemovable)

/-- The loop body of `clear_stale_storage_locks`. -/
def sweepDirectory (directory : LockDirectory) : LockDirectory × Nat :=
  if !directory.hasLock then (directory, 0)
  else if judgesStale agent machine directory then
    let cleared := clearLock directory
    (cleared.1, if cleared.2 then 1 else 0)
  else (directory, 0)

/-- `clear_stale_storage_locks`, with the number it returns. -/
def clearStaleStorageLocks (storage : Storage) : Storage × Nat :=
  storage.lockCandidateDirs.foldl
    (fun state place =>
      let swept := sweepDirectory agent machine (state.1.contents place)
      ({ state.1 with contents := Function.update state.1.contents place swept.1 },
        state.2 + swept.2))
    (storage, 0)

end Sweep

/-! ## What a sweep does -/

section

variable {agent : LaunchAgent} {machine : Machine}

/-- Whether the sweep deletes the lock of a directory. -/
def takesLock (agent : LaunchAgent) (machine : Machine) (directory : LockDirectory) : Bool :=
  directory.hasLock && judgesStale agent machine directory && directory.lockRemovable

theorem sweepDirectory_count (directory : LockDirectory) :
    (sweepDirectory agent machine directory).2 =
      if takesLock agent machine directory then 1 else 0 := by
  unfold sweepDirectory takesLock
  cases directory.hasLock with
  | false => rfl
  | true =>
      cases judgesStale agent machine directory with
      | false => rfl
      | true => cases removable : directory.lockRemovable <;> simp [clearLock, removable]

theorem sweepDirectory_hasLock (directory : LockDirectory) :
    (sweepDirectory agent machine directory).1.hasLock =
      (directory.hasLock && !takesLock agent machine directory) := by
  unfold sweepDirectory takesLock
  cases held : directory.hasLock with
  | false => simp [held]
  | true =>
      cases judgesStale agent machine directory with
      | false => simp [held]
      | true => simp [clearLock, held]

/-- A lock that is not judged stale is left with all beside it. -/
theorem sweepDirectory_of_judged {directory : LockDirectory}
    (kept : judgesStale agent machine directory = false) :
    sweepDirectory agent machine directory = (directory, 0) := by
  unfold sweepDirectory
  cases directory.hasLock with
  | false => rfl
  | true => simp [kept]

theorem lockCandidateDirs_nodup (storage : Storage) : storage.lockCandidateDirs.Nodup := by
  have named : ((storage.entries.filter (·.2 = .directory)).map fun entry => some entry.1).Nodup := by
    have distinct : ((storage.entries.filter (·.2 = .directory)).map Prod.fst).Nodup :=
      storage.distinct.sublist (List.filter_sublist.map Prod.fst)
    rw [show (fun entry : String × EntryKind => some entry.1) = some ∘ Prod.fst from rfl,
      ← List.map_map]
    exact distinct.map (Option.some_injective String)
  unfold Storage.lockCandidateDirs
  cases storage.listing with
  | listed =>
      refine List.nodup_cons.mpr ⟨?_, named⟩
      simp
  | notFound => exact List.nodup_singleton none
  | failed => exact List.nodup_singleton none

/-- The directories are swept each on its own, and the number is that of the locks
taken. -/
theorem sweep_places {places : List Place} (distinct : places.Nodup) (storage : Storage)
    (cleared : Nat) :
    let after := places.foldl
      (fun state place =>
        let swept := sweepDirectory agent machine (state.1.contents place)
        (({ state.1 with contents := Function.update state.1.contents place swept.1 } : Storage),
          state.2 + swept.2))
      (storage, cleared)
    (∀ place, after.1.contents place =
      if place ∈ places then (sweepDirectory agent machine (storage.contents place)).1
      else storage.contents place) ∧
    after.2 = cleared +
      (places.filter fun place => takesLock agent machine (storage.contents place)).length := by
  induction places generalizing storage cleared with
  | nil => exact ⟨fun _ => rfl, rfl⟩
  | cons first rest ih =>
      rcases List.nodup_cons.mp distinct with ⟨fresh, distinct⟩
      have others : ∀ place ∈ rest, Function.update storage.contents first
          (sweepDirectory agent machine (storage.contents first)).1 place = storage.contents place := by
        intro place listed
        rw [Function.update_of_ne]
        rintro rfl
        exact fresh listed
      rcases ih distinct
        { storage with
          contents := Function.update storage.contents first
            (sweepDirectory agent machine (storage.contents first)).1 }
        (cleared + (sweepDirectory agent machine (storage.contents first)).2) with ⟨contents, count⟩
      constructor
      · intro place
        rw [List.foldl_cons, contents]
        by_cases here : place = first
        · subst here
          simp [fresh]
        · by_cases later : place ∈ rest
          · simp [later, others place later]
          · simp [later, here]
      · rw [List.foldl_cons, count, sweepDirectory_count, List.filter_cons]
        have same : (rest.filter fun place => takesLock agent machine (Function.update storage.contents
            first (sweepDirectory agent machine (storage.contents first)).1 place)) =
            rest.filter fun place => takesLock agent machine (storage.contents place) := by
          apply List.filter_congr
          intro place listed
          rw [others place listed]
        rw [same]
        cases takesLock agent machine (storage.contents first) with
        | false => simp
        | true =>
            simp only [if_true, List.length_cons]
            omega

theorem contents_clearStaleStorageLocks (storage : Storage) (place : Place) :
    (clearStaleStorageLocks agent machine storage).1.contents place =
      if place ∈ storage.lockCandidateDirs then
        (sweepDirectory agent machine (storage.contents place)).1
      else storage.contents place :=
  (sweep_places (lockCandidateDirs_nodup storage) storage 0).1 place

/-- A lock is gone after the sweep just where it was taken. -/
theorem gone_iff (storage : Storage) (place : Place) :
    ((storage.contents place).hasLock &&
        !((clearStaleStorageLocks agent machine storage).1.contents place).hasLock) = true ↔
      place ∈ storage.lockCandidateDirs ∧ takesLock agent machine (storage.contents place) = true := by
  rw [contents_clearStaleStorageLocks]
  split
  · rename_i listed
    rw [sweepDirectory_hasLock]
    have held : takesLock agent machine (storage.contents place) = true →
        (storage.contents place).hasLock = true := by
      intro taken
      simp only [takesLock, Bool.and_eq_true] at taken
      exact taken.1.1
    cases taken : takesLock agent machine (storage.contents place) with
    | false => simp
    | true => simp [held taken, listed]
  · rename_i unlisted
    simp [unlisted]

theorem count_clearStaleStorageLocks (storage : Storage) :
    (clearStaleStorageLocks agent machine storage).2 =
      (storage.lockCandidateDirs.filter fun place => (storage.contents place).hasLock &&
        !((clearStaleStorageLocks agent machine storage).1.contents place).hasLock).length := by
  have count := (@sweep_places agent machine _ (lockCandidateDirs_nodup storage) storage 0).2
  rw [Nat.zero_add] at count
  refine Eq.trans count (congrArg List.length (List.filter_congr ?_))
  intro place listed
  rw [Bool.eq_iff_iff, gone_iff]
  simp [listed]

/-! ## No lock is taken from a live server -/

/-- A probe fails on a directory: its id file cannot be read, or names an owner while the
process table cannot be used, or one that runs and shows no command line while the time
of the file or the age of the process is not known. -/
def ProbeFails (machine : Machine) (directory : LockDirectory) : Prop :=
  match readMatterPid directory.pidFile with
  | .unreadable => True
  | .noOwner => False
  | .owner pid => machine.psMap.entries.isEmpty = true ∨ (machine.psMap.get? pid = some [] ∧
      (directory.pidFileMtime = none ∨ processAgeSeconds (machine.etime pid) = none))

/-- A sweep takes no lock whose id file names a running server on the storage, leaves
everything where a probe fails, and returns how many locks are gone; nothing outside the
candidate directories is touched. -/
structure SweptSafely (agent : LaunchAgent) (machine : Machine) (storage : Storage) : Prop where
  live : ∀ place, (storage.contents place).hasLock = true →
    ((clearStaleStorageLocks agent machine storage).1.contents place).hasLock = false →
      ∀ pid process, readMatterPid (storage.contents place).pidFile = .owner pid →
        machine.processes.get? pid = some process → agent.isServer process = false
  failures : ∀ place, ProbeFails machine (storage.contents place) →
    (clearStaleStorageLocks agent machine storage).1.contents place = storage.contents place
  counted : (clearStaleStorageLocks agent machine storage).2 =
    (storage.lockCandidateDirs.filter fun place => (storage.contents place).hasLock &&
      !((clearStaleStorageLocks agent machine storage).1.contents place).hasLock).length
  untouched : ∀ place ∉ storage.lockCandidateDirs,
    (clearStaleStorageLocks agent machine storage).1.contents place = storage.contents place

/-- Of a running server on the storage, named by the id file of a lock that can be deleted,
the process table shows a command line with the agent's own package directory and storage
path; or it shows none, and the server did not start, as far as is known, after the file
was written. -/
def Recognises (agent : LaunchAgent) (machine : Machine) (directory : LockDirectory) : Prop :=
  directory.hasLock = true → directory.lockRemovable = true → ∀ pid process command,
    readMatterPid directory.pidFile = .owner pid → machine.processes.get? pid = some process →
      agent.isServer process = true → machine.psMap.get? pid = some command →
        (command ≠ [] → agent.looksLikeOurProcess command = true) ∧
        (command = [] → ∀ mtime age, directory.pidFileMtime = some mtime →
          processAgeSeconds (machine.etime pid) = some age →
            machine.clock pid - age ≤ mtime + startAfterLockSlackSeconds)

/-- Where the process table can be used, a process that runs is in it. -/
theorem Machine.get?_psMap_of_running {machine : Machine} {pid : Pid} {process : Process}
    (running : machine.processes.get? pid = some process)
    (usable : machine.psMap.entries.isEmpty = false) : ∃ command, machine.psMap.get? pid = some command := by
  cases printed : machine.psLines with
  | none =>
      rw [Machine.psMap, printed] at usable
      cases usable
  | some lines =>
      have there := (machine.listed lines printed pid).mpr (InsertionMap.mem_keys_iff.mpr ⟨_, running⟩)
      rw [Machine.psMap, printed]
      exact InsertionMap.mem_keys_iff.mp there

theorem staleReasonForLivePid_eq_stale {pidFileMtime : Option Rat} {pid : Pid} {command : List Char} :
    staleReasonForLivePid agent machine pidFileMtime pid command = .stale ↔
      (command ≠ [] ∧ agent.looksLikeOurProcess command = false) ∨
        (command = [] ∧ ∃ mtime age, pidFileMtime = some mtime ∧
          processAgeSeconds (machine.etime pid) = some age ∧
            mtime + startAfterLockSlackSeconds < machine.clock pid - age) := by
  unfold staleReasonForLivePid
  cases command with
  | cons first rest =>
      cases agent.looksLikeOurProcess (first :: rest) <;> simp
  | nil =>
      cases pidFileMtime with
      | none => simp
      | some mtime =>
          cases processAgeSeconds (machine.etime pid) with
          | none => simp
          | some age =>
              by_cases late : mtime + startAfterLockSlackSeconds < machine.clock pid - age
              · simp [late]
              · simp [late]

theorem judgesStale_of_owner {directory : LockDirectory} {pid : Pid} {command : List Char}
    (owned : readMatterPid directory.pidFile = .owner pid)
    (shown : machine.psMap.get? pid = some command) :
    judgesStale agent machine directory = true ↔
      staleReasonForLivePid agent machine directory.pidFileMtime pid command = .stale := by
  have usable : machine.psMap.entries.isEmpty = false := by
    rw [List.isEmpty_eq_false_iff]
    exact List.ne_nil_of_mem (InsertionMap.mem_entries_iff.mpr shown)
  simp [judgesStale, owned, usable, shown]

theorem judgesStale_of_probeFails {directory : LockDirectory} (fails : ProbeFails machine directory) :
    judgesStale agent machine directory = false := by
  unfold ProbeFails at fails
  cases read : readMatterPid directory.pidFile with
  | unreadable => simp [judgesStale, read]
  | noOwner =>
      rw [read] at fails
      cases fails
  | owner pid =>
      rw [read] at fails
      rcases fails with unusable | ⟨shown, unknown⟩
      · simp [judgesStale, read, unusable]
      · rw [← Bool.not_eq_true, judgesStale_of_owner read shown, staleReasonForLivePid_eq_stale]
        rintro (⟨readable, _⟩ | ⟨_, mtime, age, written, aged, _⟩)
        · exact readable rfl
        · rcases unknown with unwritten | unaged
          · rw [unwritten] at written
            cases written
          · rw [unaged] at aged
            cases aged

/-- A sweep is safe just where every live server whose lock it could delete is recognised. -/
theorem sweptSafely_iff (agent : LaunchAgent) (machine : Machine) (storage : Storage) :
    SweptSafely agent machine storage ↔
      ∀ place ∈ storage.lockCandidateDirs, Recognises agent machine (storage.contents place) := by
  have taken_iff (place : Place) : ((storage.contents place).hasLock = true ∧
      ((clearStaleStorageLocks agent machine storage).1.contents place).hasLock = false) ↔
        place ∈ storage.lockCandidateDirs ∧ (storage.contents place).hasLock = true ∧
          judgesStale agent machine (storage.contents place) = true ∧
          (storage.contents place).lockRemovable = true := by
    have gone := @gone_iff agent machine storage place
    simp only [takesLock, Bool.and_eq_true, Bool.not_eq_true', and_assoc] at gone
    exact gone
  constructor
  · intro safely place listed held removable pid process command owned running server shown
    have kept : judgesStale agent machine (storage.contents place) ≠ true := by
      intro stale
      rcases (taken_iff place).mpr ⟨listed, held, stale, removable⟩ with ⟨_, gone⟩
      rw [safely.live place held gone pid process owned running] at server
      cases server
    rw [Ne, judgesStale_of_owner owned shown, staleReasonForLivePid_eq_stale, not_or] at kept
    constructor
    · intro readable
      rw [← Bool.not_eq_false]
      exact fun foreign => kept.1 ⟨readable, foreign⟩
    · intro unreadable mtime age written aged
      rw [← not_lt]
      exact fun late => kept.2 ⟨unreadable, mtime, age, written, aged, late⟩
  · intro recognises
    refine ⟨?_, ?_, count_clearStaleStorageLocks storage, ?_⟩
    · intro place held gone pid process owned running
      rw [← Bool.not_eq_true]
      intro server
      rcases (taken_iff place).mp ⟨held, gone⟩ with ⟨listed, _, stale, removable⟩
      have usable : machine.psMap.entries.isEmpty = false := by
        rw [← Bool.not_eq_true]
        intro unusable
        simp [judgesStale, owned, unusable] at stale
      rcases machine.get?_psMap_of_running running usable with ⟨command, shown⟩
      rcases recognises place listed held removable pid process command owned running server shown with
        ⟨readable, unreadable⟩
      rcases staleReasonForLivePid_eq_stale.mp ((judgesStale_of_owner owned shown).mp stale) with
        ⟨some, foreign⟩ | ⟨none, mtime, age, written, aged, late⟩
      · rw [readable some] at foreign
        cases foreign
      · exact absurd (unreadable none mtime age written aged) (not_le.mpr late)
    · intro place fails
      rw [contents_clearStaleStorageLocks, sweepDirectory_of_judged (judgesStale_of_probeFails fails),
        ite_self]
    · intro place unlisted
      rw [contents_clearStaleStorageLocks, if_neg unlisted]

theorem infix_intercalate {text : List Char} {texts : List (List Char)} (listed : text ∈ texts)
    (separator : List Char) : text <:+: separator.intercalate texts := by
  induction texts with
  | nil => cases listed
  | cons first rest ih =>
      cases rest with
      | nil =>
          rw [List.mem_singleton.mp listed, List.intercalate_singleton]
      | cons second others =>
          rw [List.intercalate_cons_cons]
          rcases List.mem_cons.mp listed with rfl | later
          · rw [List.append_assoc]
            exact (List.prefix_append _ _).isInfix
          · exact (ih later).trans (List.suffix_append _ _).isInfix

/-- The agent's own servers are recognised: those started with an entry in its package
directory and with its storage path, whose command line is shown whole or not at all, and
that wrote their id file after they started. -/
theorem recognises_of_own {directory : LockDirectory}
    (own : ∀ pid process, readMatterPid directory.pidFile = .owner pid →
      machine.processes.get? pid = some process → agent.isServer process = true →
        (∃ entry ∈ process.arguments, agent.packageDir <:+: entry) ∧
          agent.storagePath ∈ process.arguments ∧
            ∀ mtime, directory.pidFileMtime = some mtime → process.started ≤ mtime)
    (whole : ∀ pid process command, machine.processes.get? pid = some process →
      machine.psMap.get? pid = some command → command = [] ∨ command = process.command) :
    Recognises agent machine directory := by
  intro _ _ pid process command owned running server shown
  rcases own pid process owned running server with ⟨⟨entry, listed, installed⟩, stored, written⟩
  constructor
  · intro readable
    have complete := (whole pid process command running shown).resolve_left readable
    rw [complete, LaunchAgent.looksLikeOurProcess, Bool.and_eq_true, decide_eq_true_eq,
      decide_eq_true_eq]
    exact ⟨installed.trans (infix_intercalate listed _), infix_intercalate stored _⟩
  · intro _ mtime age timed aged
    have bound := machine.aged pid process age running aged
    have after := written mtime timed
    linarith

/-- Nothing is taken from a live server of the agent's own. -/
theorem sweptSafely_of_own {storage : Storage}
    (own : ∀ place ∈ storage.lockCandidateDirs, ∀ pid process,
      readMatterPid (storage.contents place).pidFile = .owner pid →
        machine.processes.get? pid = some process → agent.isServer process = true →
          (∃ entry ∈ process.arguments, agent.packageDir <:+: entry) ∧
            agent.storagePath ∈ process.arguments ∧ ∀ mtime,
              (storage.contents place).pidFileMtime = some mtime → process.started ≤ mtime)
    (whole : ∀ pid process command, machine.processes.get? pid = some process →
      machine.psMap.get? pid = some command → command = [] ∨ command = process.command) :
    SweptSafely agent machine storage :=
  (sweptSafely_iff agent machine storage).mpr fun place listed =>
    recognises_of_own (own place listed) whole

end

/-- The controller's agent. -/
def controllerAgent : LaunchAgent where
  package := "matter-server".toList
  projectDir := "/Users/indigo/indigo-matter".toList
  storagePath := "/Users/indigo/matter".toList

/-- A server started by hand from an older install, on the same storage. -/
def strayServer : Process where
  arguments := ["node", "/opt/matter/node_modules/matter-server/dist/main.js", "--storage-path",
    "/Users/indigo/matter"].map String.toList
  started := 100
  storage := some "/Users/indigo/matter".toList

/-- A machine on which it runs. -/
def strayMachine : Machine where
  processes := .ofList [(1621, strayServer)]
  psLines := some [" 1621 ".toList ++ strayServer.command]
  etime := fun _ => some "10:00".toList
  clock := fun _ => 700
  listed := by
    rintro lines ⟨⟩ pid
    have same : (psMap [" 1621 ".toList ++ strayServer.command]).keys =
        (InsertionMap.ofList [((1621 : Pid), strayServer)]).keys := by decide
    rw [same]
  aged := by
    intro pid process age running aged
    have listed := InsertionMap.mem_of_get?_ofList running
    obtain ⟨rfl, rfl⟩ := Prod.mk.inj (List.mem_singleton.mp listed)
    have known : processAgeSeconds (some "10:00".toList) = some 600 := by decide
    obtain rfl := Option.some.inj (known.symm.trans aged)
    norm_num [strayServer, startAfterLockSlackSeconds]

/-- The controller's storage with a lock in its root. -/
def lockedStorage : Storage where
  listing := .listed
  entries := [("config", .directory), ("matter.lock", .file)]
  distinct := by decide
  contents := fun place =>
    { hasLock := place = none
      pidFile := if place = none then .text "1621 deadbeef".toList else .missing
      pidFileMtime := some 101
      lockRemovable := true
      pidRemovable := true }

set_option maxRecDepth 4000 in
/-- The lock of the server from the other install is taken: its command line does not name
the agent's package directory. -/
theorem lock_taken_from_stray :
    controllerAgent.isServer strayServer = true ∧
      (lockedStorage.contents none).hasLock = true ∧
      ((clearStaleStorageLocks controllerAgent strayMachine lockedStorage).1.contents none).hasLock =
        false ∧
      ¬SweptSafely controllerAgent strayMachine lockedStorage := by
  have server : controllerAgent.isServer strayServer = true := by decide
  have held : (lockedStorage.contents none).hasLock = true := by decide
  have gone : ((clearStaleStorageLocks controllerAgent strayMachine lockedStorage).1.contents
      none).hasLock = false := by decide
  refine ⟨server, held, gone, ?_⟩
  intro safely
  have spared := safely.live none held gone 1621 strayServer (by decide) rfl
  rw [server] at spared
  cases spared

end IndigoMatter.Plugin
