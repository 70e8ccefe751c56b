import IndigoMatter.Plugin.FabricRestore

/-!
# No restore loses a fabric

A tree that is moved keeps its nodes, so the original trees can be followed by them.  Each
part of a restore is shown to leave every tree alone that is apart from the directories it
works on, and to leave the tree it moves at one of two places, whatever is refused.
-/

namespace IndigoMatter.Plugin.Fabric

open IndigoMatter.Library

/-! ## Trees on a disk -/

/-- The tree below one path is the tree that was below another. -/
def SameTree (before : Disk) (source : Path) (after : Disk) (target : Path) : Prop :=
  ∀ rest, after.node (target ++ rest) = before.node (source ++ rest)

/-- Neither path lies on the way to the other. -/
def Apart (first second : Path) : Prop := ¬ first <+: second ∧ ¬ second <+: first

/-- A tree that is apart from some places is as it was. -/
def Spares (places : List Path) (before after : Disk) : Prop :=
  ∀ root, (∀ place ∈ places, Apart root place) → SameTree before root after root

theorem Apart.symm {first second : Path} (apart : Apart first second) : Apart second first :=
  ⟨apart.2, apart.1⟩

/-- What is below one of two paths that are apart is not on the way to the other, nor below
it. -/
theorem Apart.below {root place : Path} (apart : Apart root place) (rest : Path) :
    ¬ root ++ rest <+: place ∧ ¬ place <+: root ++ rest := by
  constructor
  · exact fun onTheWay => apart.1 ((List.prefix_append root rest).trans onTheWay)
  · intro isBelow
    rcases List.prefix_or_prefix_of_prefix isBelow (List.prefix_append root rest) with
      covers | covers
    · exact apart.2 covers
    · exact apart.1 covers

namespace SameTree

variable {before middle after : Disk} {source target root : Path} {places : List Path}

protected theorem trans {other : Path} (first : SameTree before source middle target)
    (second : SameTree middle target after other) : SameTree before source after other :=
  fun rest => (second rest).trans (first rest)

theorem spared (same : SameTree before source middle target) (spares : Spares places middle after)
    (apart : ∀ place ∈ places, Apart target place) : SameTree before source after target :=
  same.trans (spares target apart)

theorem isDir_eq (same : SameTree before source after target) :
    after.isDir target = before.isDir source := by
  have top := same []
  simp only [List.append_nil] at top
  unfold Disk.isDir
  rw [top]

theorem file?_eq (same : SameTree before source after target) (rest : Path) :
    after.file? (target ++ rest) = before.file? (source ++ rest) := by
  unfold Disk.file?
  rw [same rest]

end SameTree

namespace Spares

variable {places more : List Path} {before middle after : Disk}

protected theorem refl (places : List Path) (disk : Disk) : Spares places disk disk :=
  fun _ _ _ => rfl

protected theorem trans (first : Spares places before middle)
    (second : Spares places middle after) : Spares places before after :=
  fun root apart => (first root apart).trans (second root apart)

theorem mono (spares : Spares places before after) (included : ∀ place ∈ places, place ∈ more) :
    Spares more before after :=
  fun root apart => spares root fun place member => apart place (included place member)

end Spares

/-! ## Places of a storage directory -/

namespace StorageDir

/-- The paths a restore moves a storage directory between. -/
def places (storage : StorageDir) (stamp : Stamp) : List Path :=
  [storage.path, storage.preRestore stamp, storage.failedAside stamp]

theorem apart_of_ne {parent : Path} {first second : FileName} (differ : first ≠ second) :
    Apart (parent ++ [first]) (parent ++ [second]) := by
  have only (one other : FileName) (isPrefix : parent ++ [one] <+: parent ++ [other]) :
      one = other := by
    rw [List.prefix_append_right_inj] at isPrefix
    rcases isPrefix with ⟨rest, same⟩
    exact (List.cons.inj same).1
  exact ⟨fun isPrefix => differ (only _ _ isPrefix),
    fun isPrefix => differ (only _ _ isPrefix).symm⟩

theorem name_ne_append {name : FileName} {suffix : List Char} (nonempty : suffix ≠ [])
    (proper : ProperName (name.text ++ suffix)) : name ≠ ⟨name.text ++ suffix, proper⟩ := by
  intro same
  have texts := congrArg FileName.text same
  exact nonempty (List.self_eq_append_right.mp texts)

theorem apart_preRestore (storage : StorageDir) (stamp : Stamp) :
    Apart storage.path (storage.preRestore stamp) :=
  apart_of_ne (name_ne_append (by simp) _)

theorem apart_failedAside (storage : StorageDir) (stamp : Stamp) :
    Apart storage.path (storage.failedAside stamp) :=
  apart_of_ne (name_ne_append (by simp) _)

theorem apart_preRestore_failedAside (storage : StorageDir) (stamp : Stamp) :
    Apart (storage.preRestore stamp) (storage.failedAside stamp) := by
  apply apart_of_ne
  intro same
  have texts := congrArg FileName.text same
  simp at texts

end StorageDir

/-! ## Calls to the daemons -/

/-- Some calls that leave the disk alone; the controller is started only on a disk it may be
started on. -/
structure Quiet (mayStart : Disk → Prop) (before after : Workstation) : Prop where
  disk : after.disk = before.disk
  starts : ∀ deed ∈ after.deeds, deed ∈ before.deeds ∨ (deed.1 = .controllerStarted → mayStart deed.2)
  errors : ∀ line ∈ before.errors, line ∈ after.errors

namespace Quiet

variable {mayStart : Disk → Prop} {before middle after : Workstation}

protected theorem refl (mayStart : Disk → Prop) (station : Workstation) :
    Quiet mayStart station station :=
  ⟨rfl, fun _ member => .inl member, fun _ member => member⟩

protected theorem trans (first : Quiet mayStart before middle)
    (second : Quiet mayStart middle after) : Quiet mayStart before after where
  disk := second.disk.trans first.disk
  starts := by
    intro deed member
    rcases second.starts deed member with earlier | allowed
    · exact first.starts deed earlier
    · exact .inr allowed
  errors := fun line member => second.errors line (first.errors line member)

theorem clock (mayStart : Disk → Prop) (station : Workstation) (clock : Nat) :
    Quiet mayStart station { station with clock } :=
  ⟨rfl, fun _ member => .inl member, fun _ member => member⟩

theorem note (station : Workstation) {deed : Deed}
    (allowed : deed = .controllerStarted → mayStart station.disk) :
    Quiet mayStart station { station with deeds := station.deeds ++ [(deed, station.disk)] } := by
  refine ⟨rfl, ?_, fun _ member => member⟩
  intro other member
  rcases List.mem_append.mp member with earlier | new
  · exact .inl earlier
  · rw [List.mem_singleton.mp new]
    exact .inr allowed

theorem logError (mayStart : Disk → Prop) (station : Workstation) (line : ErrorLine) :
    Quiet mayStart station { station with errors := station.errors ++ [line] } :=
  ⟨rfl, fun _ member => .inl member, fun _ member => List.mem_append_left _ member⟩

end Quiet

section Daemons

variable {answers : Nat → Answer} {station : Workstation} {mayStart : Disk → Prop}

theorem quiet_askControl :
    wp (askControl answers) (fun _ after => Quiet mayStart station after) (fun _ _ => False)
      station := by
  simp only [askControl, nextAnswer, wp_bind, wp_get, wp_set, wp_pure]
  exact .clock mayStart station _

theorem quiet_controlIsAlive (probes : Bool) :
    wp (controlIsAlive answers probes) (fun _ after => Quiet mayStart station after)
      (fun _ _ => False) station := by
  simp only [controlIsAlive]
  split
  · exact .refl mayStart station
  · simp only [wp_bind]
    exact quiet_askControl

theorem quiet_restartIfStopped (plan : Option BridgePlan) (line : ErrorLine) :
    wp (restartIfStopped answers plan line) (fun _ after => Quiet mayStart station after)
      (fun _ _ => False) station := by
  unfold restartIfStopped
  split
  · simp only [restartBridge, note, wp_bind, wp_modify]
    apply wp_mono quiet_askControl
    · intro answer middle asked
      have rung := (Quiet.note station (by simp : Deed.bridgeStarted = .controllerStarted →
        mayStart station.disk)).trans asked
      rw [wp_pure]
      split
      · exact rung.trans (.logError mayStart middle line)
      · exact rung
    · exact fun _ _ never => never
  · exact .refl mayStart station

theorem quiet_startController (allowed : mayStart station.disk) :
    wp (startController answers) (fun _ after => Quiet mayStart station after)
      (fun _ after => Quiet mayStart station after) station := by
  simp only [startController, note, wp_bind, wp_modify]
  apply wp_mono quiet_askControl
  · intro answer middle asked
    have rung := (Quiet.note station fun _ => allowed).trans asked
    cases answer with
    | yes => exact rung
    | no => exact rung
    | raises => exact rung
  · exact fun _ _ never => never.elim

theorem quiet_restartController (home : Path) (allowed : mayStart station.disk) :
    wp (restartController answers home) (fun _ after => Quiet mayStart station after)
      (fun _ _ => False) station := by
  have ended (started : Bool) (middle : Workstation) (rung : Quiet mayStart station middle) :
      wp (if !started then logError (.controllerDown home) else pure ())
        (fun _ after => Quiet mayStart station after) (fun _ _ => False) middle := by
    cases started with
    | true => exact rung
    | false => exact rung.trans (.logError mayStart middle _)
  simp only [restartController, wp_bind, wp_tryCatch]
  apply wp_mono (quiet_startController allowed)
  · intro started middle rung
    exact ended started middle rung
  · intro error middle rung
    simp only [logError, wp_bind, wp_modify, wp_pure]
    exact ended false _ (rung.trans (.logError mayStart middle _))

/-- The errors a restore raises before it has moved anything. -/
def Failure.isEarly : Failure → Bool
  | .archiveMissing | .notAnArchive | .corruptMember | .noMembers | .zipSlip | .bridgeNotStopped
  | .controllerNotStopped | .controlRaised => true
  | _ => false

theorem quiet_stopBridge (job : RestoreJob) (plan : BridgePlan) :
    wp (stopBridge answers job plan)
      (fun stopped after => Quiet mayStart station after ∧ ∃ wasAlive, stopped = { plan with wasAlive })
      (fun error after => Quiet mayStart station after ∧ error.isEarly = true) station := by
  simp only [stopBridge, wp_bind]
  apply wp_mono (quiet_controlIsAlive job.probes)
  · intro wasAlive middle probed
    cases wasAlive with
    | false => exact ⟨probed, false, rfl⟩
    | true =>
        simp only [if_true, note, wp_bind, wp_modify]
        apply wp_mono quiet_askControl
        · intro answer after asked
          have rung := (probed.trans (Quiet.note middle (by simp : Deed.bridgeStopped =
            .controllerStarted → mayStart middle.disk))).trans asked
          cases answer with
          | yes => exact ⟨rung, true, rfl⟩
          | no => exact ⟨rung, rfl⟩
          | raises => exact ⟨rung, rfl⟩
        · exact fun _ _ never => never.elim
  · exact fun _ _ never => never.elim

variable (mayStart) in
theorem quiet_stopForRestore (job : RestoreJob) (plan : Option BridgePlan) :
    wp (stopForRestore answers job plan)
      (fun stopped after => Quiet mayStart station after ∧
        ∃ wasAlive, stopped = plan.map fun plan => { plan with wasAlive })
      (fun error after => Quiet mayStart station after ∧ error.isEarly = true) station := by
  have controller (stopped : Option BridgePlan) (middle : Workstation)
      (quiet : Quiet mayStart station middle)
      (kept : ∃ wasAlive, stopped = plan.map fun plan => { plan with wasAlive }) :
      wp (do
          note .controllerStopped
          let answer ← askControl answers
          if answer = .yes then return stopped
          else
            restartIfStopped answers stopped .bridgeNotRestarted
            throw .controllerNotStopped)
        (fun stopped after => Quiet mayStart station after ∧
          ∃ wasAlive, stopped = plan.map fun plan => { plan with wasAlive })
        (fun error after => Quiet mayStart station after ∧ error.isEarly = true) middle := by
    simp only [note, wp_bind, wp_modify]
    apply wp_mono quiet_askControl
    · intro answer after asked
      have rung := (quiet.trans (Quiet.note middle (by simp : Deed.controllerStopped =
        .controllerStarted → mayStart middle.disk))).trans asked
      split
      · exact ⟨rung, kept⟩
      · rw [wp_bind]
        apply wp_mono (quiet_restartIfStopped stopped .bridgeNotRestarted)
        · exact fun _ final restarted => ⟨rung.trans restarted, rfl⟩
        · exact fun _ _ never => never.elim
    · exact fun _ _ never => never.elim
  simp only [stopForRestore]
  cases plan with
  | none => exact controller none station (.refl mayStart station) ⟨false, rfl⟩
  | some plan =>
      rw [wp_bind, wp_map]
      apply wp_mono (quiet_stopBridge job plan)
      · rintro _ middle ⟨quiet, wasAlive, rfl⟩
        exact controller _ middle quiet ⟨wasAlive, rfl⟩
      · exact fun _ _ thrown => thrown

end Daemons

/-! ## Moving trees -/

/-- Some file operations at a few places. -/
structure Moves (places : List Path) (before after : Workstation) : Prop where
  trees : Spares places before.disk after.disk
  deeds : after.deeds = before.deeds
  errors : ∀ line ∈ before.errors, line ∈ after.errors

namespace Moves

variable {places more : List Path} {before middle after : Workstation}

protected theorem refl (places : List Path) (station : Workstation) :
    Moves places station station :=
  ⟨.refl _ _, rfl, fun _ member => member⟩

protected theorem trans (first : Moves places before middle)
    (second : Moves places middle after) : Moves places before after where
  trees := first.trees.trans second.trees
  deeds := second.deeds.trans first.deeds
  errors := fun line member => second.errors line (first.errors line member)

theorem mono (moves : Moves places before after) (included : ∀ place ∈ places, place ∈ more) :
    Moves more before after :=
  ⟨moves.trees.mono included, moves.deeds, moves.errors⟩

theorem logError (places : List Path) (station : Workstation) (line : ErrorLine) :
    Moves places station { station with errors := station.errors ++ [line] } :=
  ⟨.refl _ _, rfl, fun _ member => List.mem_append_left _ member⟩

end Moves

section Trees

variable {answers : Nat → Answer} {station : Workstation} {initial : Disk} {storage : StorageDir}
  {stamp : Stamp}

theorem moves_osRename {source target : Path} (apart : Apart source target) :
    wp (osRename answers source target)
      (fun _ after => Moves [source, target] station after ∧
        SameTree station.disk source after.disk target)
      (fun error after => Moves [] station after ∧ after.disk = station.disk ∧ error = .osError)
      station := by
  have different : source ≠ target := by
    rintro rfl
    exact apart.1 List.prefix_rfl
  apply wp_onDisk
  · intro disk renamed
    rcases Disk.rename_ok different renamed with ⟨_, moved, _, elsewhere⟩
    refine ⟨⟨?_, rfl, fun _ member => member⟩, moved⟩
    intro root apartFrom rest
    apply elsewhere
    · exact ((apartFrom source (by simp)).below rest).2
    · exact ((apartFrom target (by simp)).below rest).2
  · exact ⟨⟨.refl _ _, rfl, fun _ member => member⟩, rfl, rfl⟩

/-- A storage directory was moved aside, or there was none. -/
inductive Placed (initial : Disk) (storage : StorageDir) (stamp : Stamp) (disk : Disk) :
    Option Path → Prop
  | aside (existed : initial.isDir storage.path = true)
      (same : SameTree initial storage.path disk (storage.preRestore stamp)) :
      Placed initial storage stamp disk (some (storage.preRestore stamp))
  | absent (none_ : initial.isDir storage.path = false) :
      Placed initial storage stamp disk none

/-- A storage directory there was is complete at one of its two places. -/
def Intact (initial : Disk) (storage : StorageDir) (stamp : Stamp) (disk : Disk) : Prop :=
  initial.isDir storage.path = true →
    SameTree initial storage.path disk storage.path ∨
      SameTree initial storage.path disk (storage.preRestore stamp)

theorem Placed.intact {disk : Disk} {moved : Option Path}
    (placed : Placed initial storage stamp disk moved) : Intact initial storage stamp disk := by
  intro existed
  cases placed with
  | aside _ same => exact .inr same
  | absent none_ =>
      rw [existed] at none_
      cases none_

theorem Placed.spared {disk after : Disk} {moved : Option Path} {places : List Path}
    (placed : Placed initial storage stamp disk moved) (spares : Spares places disk after)
    (apart : ∀ place ∈ places, Apart (storage.preRestore stamp) place) :
    Placed initial storage stamp after moved := by
  cases placed with
  | aside existed same => exact .aside existed (same.spared spares apart)
  | absent none_ => exact .absent none_

theorem moves_moveAside (home : SameTree initial storage.path station.disk storage.path) :
    wp (moveAside answers storage stamp)
      (fun moved after => Moves (storage.places stamp) station after ∧
        Placed initial storage stamp after.disk moved)
      (fun error after => Moves [] station after ∧ after.disk = station.disk ∧ error = .osError)
      station := by
  simp only [moveAside, wp_bind, wp_get]
  cases existed : station.disk.isDir storage.path with
  | false =>
      simp only [Bool.false_eq_true, if_false, wp_pure]
      exact ⟨.refl _ _, .absent (home.isDir_eq ▸ existed)⟩
  | true =>
      simp only [if_true, wp_bind]
      apply wp_mono (moves_osRename (storage.apart_preRestore stamp))
      · rintro _ after ⟨moves, moved⟩
        refine ⟨moves.mono (by simp [StorageDir.places]), .aside ?_ (home.trans moved)⟩
        exact home.isDir_eq ▸ existed
      · exact fun _ _ thrown => thrown

/-- A directory that was moved aside is at home again, or still aside when that fails. -/
theorem moves_returnAside (existed : initial.isDir storage.path = true)
    (same : SameTree initial storage.path station.disk (storage.preRestore stamp)) :
    wp (do
        let station ← get
        if station.disk.isDir (storage.preRestore stamp) then
          osRename answers (storage.preRestore stamp) storage.path)
      (fun _ after => Moves (storage.places stamp) station after ∧
        SameTree initial storage.path after.disk storage.path)
      (fun error after => Moves (storage.places stamp) station after ∧
        Placed initial storage stamp after.disk (some (storage.preRestore stamp)) ∧
        error = .osError)
      station := by
  have present : station.disk.isDir (storage.preRestore stamp) = true :=
    same.isDir_eq.trans existed
  simp only [wp_bind, wp_get, present, if_true]
  apply wp_mono (moves_osRename (storage.apart_preRestore stamp).symm)
  · rintro _ after ⟨moves, returned⟩
    exact ⟨moves.mono (by simp [StorageDir.places]), same.trans returned⟩
  · rintro _ after ⟨moves, unchanged, raised⟩
    refine ⟨moves.mono (by simp), .aside existed ?_, raised⟩
    rw [unchanged]
    exact same

/-- Putting a directory back: it is at home again, or still aside when that fails. -/
theorem moves_putBack {moved : Option Path}
    (placed : Placed initial storage stamp station.disk moved) :
    wp (putBack answers storage stamp moved)
      (fun _ after => Moves (storage.places stamp) station after ∧
        (initial.isDir storage.path = true →
          SameTree initial storage.path after.disk storage.path))
      (fun error after => Moves (storage.places stamp) station after ∧
        Placed initial storage stamp after.disk moved ∧ error = .osError) station := by
  simp only [putBack, wp_bind, wp_get]
  cases placed with
  | absent none_ =>
      have stays : ∀ after : Workstation, initial.isDir storage.path = true →
          SameTree initial storage.path after.disk storage.path := by
        intro after existed
        rw [existed] at none_
        cases none_
      split
      · rw [wp_bind]
        apply wp_mono (moves_osRename (storage.apart_failedAside stamp))
        · rintro _ middle ⟨moves, _⟩
          exact ⟨moves.mono (by simp [StorageDir.places]), stays middle⟩
        · rintro _ after ⟨moves, unchanged, raised⟩
          exact ⟨moves.mono (by simp), .absent none_, raised⟩
      · exact ⟨.refl _ _, stays station⟩
  | aside existed same =>
      split
      · rw [wp_bind]
        apply wp_mono (moves_osRename (storage.apart_failedAside stamp))
        · rintro _ middle ⟨moves, _⟩
          have earlier : Moves (storage.places stamp) station middle :=
            moves.mono (by simp [StorageDir.places])
          have still : SameTree initial storage.path middle.disk (storage.preRestore stamp) := by
            apply same.spared moves.trees
            simp [(storage.apart_preRestore stamp).symm, storage.apart_preRestore_failedAside stamp]
          apply wp_mono (moves_returnAside existed still)
          · rintro _ after ⟨later, returned⟩
            exact ⟨earlier.trans later, fun _ => returned⟩
          · rintro _ after ⟨later, placed, raised⟩
            exact ⟨earlier.trans later, placed, raised⟩
        · rintro _ after ⟨moves, unchanged, raised⟩
          refine ⟨moves.mono (by simp), .aside existed ?_, raised⟩
          rw [unchanged]
          exact same
      · apply wp_mono (moves_returnAside existed same)
        · exact fun _ after found => ⟨found.1, fun _ => found.2⟩
        · exact fun _ _ found => found

/-- What a restore works on besides the controller. -/
def planPlaces (stamp : Stamp) : Option BridgePlan → List Path
  | none => []
  | some plan => plan.dest.places stamp

/-- No path of one storage directory is on the way to one of the other. -/
def AllApart (first second : StorageDir) (stamp : Stamp) : Prop :=
  ∀ place ∈ first.places stamp, ∀ other ∈ second.places stamp, Apart place other

/-- The bridge directory of a plan was moved aside, or there was none. -/
def PlanPlaced (initial : Disk) (stamp : Stamp) (disk : Disk) (plan : Option BridgePlan) : Prop :=
  ∀ bridge, plan = some bridge → Placed initial bridge.dest stamp disk bridge.movedAsideTo

/-- The bridge directory of a plan is where it was. -/
def PlanAtHome (initial disk : Disk) (plan : Option BridgePlan) : Prop :=
  ∀ bridge, plan = some bridge → SameTree initial bridge.dest.path disk bridge.dest.path

theorem mem_places_path (storage : StorageDir) (stamp : Stamp) :
    storage.path ∈ storage.places stamp := List.mem_cons_self

theorem mem_places_preRestore (storage : StorageDir) (stamp : Stamp) :
    storage.preRestore stamp ∈ storage.places stamp := by simp [StorageDir.places]

/-- The second rename failed, and the first was undone or not. -/
inductive MoveFailure (initial : Disk) (storage : StorageDir) (stamp : Stamp) (disk : Disk) :
    Failure → Prop
  | single (home : initial.isDir storage.path = true →
        SameTree initial storage.path disk storage.path) :
      MoveFailure initial storage stamp disk .osError
  | double (existed : initial.isDir storage.path = true)
      (same : SameTree initial storage.path disk (storage.preRestore stamp)) :
      MoveFailure initial storage stamp disk
        (.doubleFault (storage.preRestore stamp) storage.path)

theorem moves_moveAsideForRestore {job : RestoreJob} {plan : Option BridgePlan}
    (home : SameTree initial job.storage.path station.disk job.storage.path)
    (bridgeHome : PlanAtHome initial station.disk plan)
    (apart : ∀ bridge, plan = some bridge → AllApart job.storage bridge.dest job.stamp) :
    wp (moveAsideForRestore answers job plan)
      (fun moved after =>
        Moves (job.storage.places job.stamp ++ planPlaces job.stamp plan) station after ∧
          Placed initial job.storage job.stamp after.disk moved.1 ∧
          PlanPlaced initial job.stamp after.disk moved.2 ∧
          moved.2.map BridgePlan.dest = plan.map BridgePlan.dest)
      (fun error after =>
        Moves (job.storage.places job.stamp ++ planPlaces job.stamp plan) station after ∧
          MoveFailure initial job.storage job.stamp after.disk error ∧
          PlanAtHome initial after.disk plan) station := by
  simp only [moveAsideForRestore, wp_bind]
  apply wp_mono (moves_moveAside home)
  · rintro moved middle ⟨moves, placed⟩
    have first : Moves (job.storage.places job.stamp ++ planPlaces job.stamp plan) station middle :=
      moves.mono fun place member => List.mem_append_left _ member
    cases plan with
    | none =>
        refine ⟨first, placed, ?_, rfl⟩
        intro bridge impossible
        cases impossible
    | some bridge =>
        have separate := apart bridge rfl
        have bridgeStill : SameTree initial bridge.dest.path middle.disk bridge.dest.path :=
          (bridgeHome bridge rfl).spared moves.trees fun place member =>
            (separate place member _ (mem_places_path _ _)).symm
        have homeAfter {after : Workstation} {places : List Path}
            (spares : Spares places middle.disk after.disk)
            (own : ∀ place ∈ places, place ∈ job.storage.places job.stamp) :
            PlanAtHome initial after.disk (some bridge) := by
          intro other same
          obtain rfl := Option.some.inj same
          exact bridgeStill.spared spares fun place member =>
            (separate place (own place member) _ (mem_places_path _ _)).symm
        simp only [wp_bind, wp_tryCatch]
        apply wp_mono (moves_moveAside bridgeStill)
        · rintro bridgeMoved after ⟨bridgeMoves, bridgePlaced⟩
          refine ⟨first.trans (bridgeMoves.mono fun place member =>
            List.mem_append_right _ member), ?_, ?_, rfl⟩
          · exact placed.spared bridgeMoves.trees fun place member =>
              separate _ (mem_places_preRestore _ _) place member
          · intro other same
            obtain rfl := Option.some.inj same
            exact bridgePlaced
        · rintro error after ⟨bridgeMoves, unchanged, rfl⟩
          have soFar := first.trans (bridgeMoves.mono (by simp))
          cases placed with
          | absent none_ =>
              refine ⟨soFar, .single ?_, homeAfter bridgeMoves.trees (by simp)⟩
              intro existed
              rw [existed] at none_
              cases none_
          | aside existed same =>
              simp only [wp_bind, wp_tryCatch]
              have still := same.spared bridgeMoves.trees (by simp)
              apply wp_mono (moves_osRename (job.storage.apart_preRestore job.stamp).symm)
              · rintro _ undone ⟨undo, returned⟩
                have own : ∀ place ∈ [job.storage.preRestore job.stamp, job.storage.path],
                    place ∈ job.storage.places job.stamp := by
                  simp [StorageDir.places]
                refine ⟨soFar.trans (undo.mono fun place member =>
                  List.mem_append_left _ (own place member)), .single ?_, ?_⟩
                · exact fun _ => still.trans returned
                · intro other equal
                  have there := homeAfter bridgeMoves.trees (by simp) other equal
                  obtain rfl := Option.some.inj equal
                  exact there.spared undo.trees fun place member =>
                    (separate place (own place member) _ (mem_places_path _ _)).symm
              · rintro _ stuck ⟨refused, unmoved, _⟩
                simp only [logError, wp_bind, wp_modify, wp_throw]
                refine ⟨(soFar.trans (refused.mono (by simp))).trans (.logError _ stuck _), ?_, ?_⟩
                · refine .double existed ?_
                  exact still.spared refused.trees (by simp)
                · intro other equal
                  exact (homeAfter bridgeMoves.trees (by simp) other equal).spared refused.trees
                    (by simp)
  · rintro error after ⟨moves, unchanged, rfl⟩
    refine ⟨moves.mono (by simp), .single ?_, ?_⟩
    · intro _
      rw [unchanged]
      exact home
    · intro bridge same
      rw [unchanged]
      exact bridgeHome bridge same

/-! ## Extracting and rolling back -/

/-- The members of the bridge lead through no directory outside their own. -/
def StaysInside (archive : Archive) (dest : Path) : Prop :=
  ∀ name ∈ membersFor archive.namelist .bridge, ∀ step ∈ passes dest name, dest <+: step

instance (archive : Archive) (dest : Path) : Decidable (StaysInside archive dest) :=
  inferInstanceAs (Decidable (∀ name ∈ _, ∀ step ∈ passes dest name, dest <+: step))

/-- A restore that goes as far as extracting a bridge finds no member of it that leads
through a directory outside. -/
def ExtractsInside (job : RestoreJob) : Prop :=
  ∀ archive plan, job.archive = .zip archive → planBridgeRestore job archive = some plan →
    noZipSlip archive.namelist job.storage.path .controller = true →
      noZipSlip archive.namelist plan.dest.path .bridge = true →
        StaysInside archive plan.dest.path

theorem Touches.moves {directories files : Path → Prop} {before after : Workstation} {place : Path}
    (touches : Touches directories files before after)
    (nearDirectories : ∀ path, directories path → path <+: place ∨ place <+: path)
    (nearFiles : ∀ path, files path → place <+: path) : Moves [place] before after where
  trees := by
    intro root apart rest
    have away := (apart place (by simp)).below rest
    apply touches.node
    · intro isDirectory
      rcases nearDirectories _ isDirectory with onTheWay | inside
      · exact away.1 onTheWay
      · exact away.2 inside
    · exact fun isFile => away.2 (nearFiles _ isFile)
  deeds := touches.deeds
  errors := by
    rw [touches.errors]
    exact fun _ member => member

theorem moves_extractSide {archive : Archive} {side : ArchiveSide}
    (inside : side = .bridge → StaysInside archive storage.path) :
    wp (extractSide answers archive storage side)
      (fun _ after => Moves [storage.path] station after ∧
        after.disk.isDir storage.path = true ∧ after.disk.hasEntries storage.path = true)
      (fun _ after => Moves [storage.path] station after) station := by
  simp only [extractSide, wp_bind]
  have toStorage : ∀ step ∈ Path.walk [] (storage.path.map FileName.text),
      step <+: storage.path := by
    intro step member
    rcases Path.mem_walk_names.mp member with ⟨first, _, isPrefix, rfl⟩
    simpa using isPrefix
  apply wp_mono (touches_makeDirs [] _ toStorage)
  · intro _ middle made
    have first : Moves [storage.path] station middle :=
      made.moves (fun _ onTheWay => .inl onTheWay) fun _ never => never.elim
    have second : ∀ after,
        Touches (MayMake archive storage.path side) (storage.path <+: ·) middle after →
          Moves [storage.path] station after := by
      intro after touched
      refine first.trans (touched.moves ?_ fun _ isBelow => isBelow)
      intro path mayMake
      right
      cases side with
      | controller => exact mayMake
      | bridge =>
          rcases mayMake with ⟨name, listed, passed⟩
          exact inside rfl name listed path passed
    rw [wp_bind]
    apply wp_mono (touches_safeExtract archive storage.path side)
    · intro _ after touched
      rw [wp_bind, wp_get]
      split
      · exact second after touched
      · rename_i nonempty
        refine ⟨second after touched, ?_⟩
        simpa using nonempty
    · exact fun _ after touched => second after touched
  · intro _ after made
    exact made.moves (fun _ onTheWay => .inl onTheWay) fun _ never => never.elim

theorem moves_extractForRestore {archive : Archive} {job : RestoreJob} {plan : Option BridgePlan}
    (inside : ∀ bridge, plan = some bridge → StaysInside archive bridge.dest.path)
    (apart : ∀ bridge, plan = some bridge → AllApart job.storage bridge.dest job.stamp) :
    wp (extractForRestore answers archive job plan)
      (fun _ after =>
        Moves (job.storage.path :: (plan.map fun bridge => bridge.dest.path).toList) station after ∧
          after.disk.isDir job.storage.path = true ∧
          after.disk.hasEntries job.storage.path = true)
      (fun _ after =>
        Moves (job.storage.path :: (plan.map fun bridge => bridge.dest.path).toList) station after)
      station := by
  simp only [extractForRestore, wp_bind]
  have controller : ArchiveSide.controller = .bridge → StaysInside archive job.storage.path := by
    rintro ⟨⟩
  apply wp_mono (moves_extractSide controller)
  · rintro _ middle ⟨moves, isDir, entries⟩
    cases plan with
    | none => exact ⟨moves, isDir, entries⟩
    | some bridge =>
        have separate := apart bridge rfl _ (mem_places_path _ _) _ (mem_places_path _ _)
        have first : Moves [job.storage.path, bridge.dest.path] station middle :=
          moves.mono (by simp)
        apply wp_mono (moves_extractSide fun _ => inside bridge rfl)
        · rintro _ after ⟨bridgeMoves, _, _⟩
          have same : SameTree middle.disk job.storage.path after.disk job.storage.path :=
            bridgeMoves.trees _ (by simpa using separate)
          refine ⟨first.trans (bridgeMoves.mono (by simp)), same.isDir_eq.trans isDir, ?_⟩
          rcases Disk.hasEntries_iff.mp entries with ⟨name, there⟩
          apply Disk.hasEntries_iff.mpr
          exact ⟨name, by rwa [same [name]]⟩
        · exact fun _ after bridgeMoves => first.trans (bridgeMoves.mono (by simp))
  · intro _ after moves
    exact moves.mono (by simp)

/-! ### The way back -/

/-- The controller may be started where its original tree is at home, or something has been
restored in its place, or there was no original. -/
def MayStart (initial : Disk) (storage : StorageDir) (disk : Disk) : Prop :=
  initial.isDir storage.path = true →
    SameTree initial storage.path disk storage.path ∨
      (disk.isDir storage.path = true ∧ disk.hasEntries storage.path = true)

/-- Part of a restore: it works on a few places, and starts the controller only where it
may. -/
structure Keeps (places : List Path) (mayStart : Disk → Prop) (before after : Workstation) :
    Prop where
  trees : Spares places before.disk after.disk
  starts : ∀ deed ∈ after.deeds, deed ∈ before.deeds ∨ (deed.1 = .controllerStarted → mayStart deed.2)
  errors : ∀ line ∈ before.errors, line ∈ after.errors

theorem Keeps.trans {places : List Path} {mayStart : Disk → Prop} {before middle after : Workstation}
    (first : Keeps places mayStart before middle) (second : Keeps places mayStart middle after) :
    Keeps places mayStart before after where
  trees := first.trees.trans second.trees
  starts := by
    intro deed member
    rcases second.starts deed member with earlier | allowed
    · exact first.starts deed earlier
    · exact .inr allowed
  errors := fun line member => second.errors line (first.errors line member)

theorem Quiet.keeps {mayStart : Disk → Prop} {before after : Workstation}
    (quiet : Quiet mayStart before after) (places : List Path) :
    Keeps places mayStart before after where
  trees := by
    rw [quiet.disk]
    exact .refl _ _
  starts := quiet.starts
  errors := quiet.errors

theorem Moves.keeps {places more : List Path} {before after : Workstation}
    (moves : Moves places before after) (included : ∀ place ∈ places, place ∈ more)
    (mayStart : Disk → Prop) : Keeps more mayStart before after where
  trees := moves.trees.mono included
  starts := by
    rw [moves.deeds]
    exact fun _ member => .inl member
  errors := moves.errors

/-- The bridge directory of a plan is complete at one of its two places. -/
def PlanIntact (initial : Disk) (stamp : Stamp) (disk : Disk) (plan : Option BridgePlan) : Prop :=
  ∀ bridge, plan = some bridge → Intact initial bridge.dest stamp disk

theorem Intact.spared {disk after : Disk} {places : List Path}
    (intact : Intact initial storage stamp disk) (spares : Spares places disk after)
    (apart : ∀ place ∈ places, ∀ own ∈ storage.places stamp, Apart own place) :
    Intact initial storage stamp after := by
  intro existed
  rcases intact existed with home | aside
  · exact .inl (home.spared spares fun place member =>
      apart place member _ (mem_places_path _ _))
  · exact .inr (aside.spared spares fun place member =>
      apart place member _ (mem_places_preRestore _ _))

theorem keeps_rollback {job : RestoreJob} {moved : Option Path} {plan : Option BridgePlan}
    (placed : Placed initial job.storage job.stamp station.disk moved)
    (planPlaced : PlanPlaced initial job.stamp station.disk plan)
    (apart : ∀ bridge, plan = some bridge → AllApart job.storage bridge.dest job.stamp) :
    wp (rollback answers job moved plan)
      (fun _ after =>
        Keeps (job.storage.places job.stamp ++ planPlaces job.stamp plan)
            (MayStart initial job.storage) station after ∧
          (initial.isDir job.storage.path = true →
            SameTree initial job.storage.path after.disk job.storage.path) ∧
          PlanIntact initial job.stamp after.disk plan)
      (fun error after =>
        Keeps (job.storage.places job.stamp ++ planPlaces job.stamp plan)
            (MayStart initial job.storage) station after ∧
          Placed initial job.storage job.stamp after.disk moved ∧
          PlanIntact initial job.stamp after.disk plan ∧ error = .osError ∧
          ∃ bridgeStopped,
            ErrorLine.rollbackFailed moved job.storage.path bridgeStopped ∈ after.errors) station := by
  have controller (middle : Workstation)
      (earlier : Keeps (job.storage.places job.stamp ++ planPlaces job.stamp plan)
        (MayStart initial job.storage) station middle)
      (still : Placed initial job.storage job.stamp middle.disk moved)
      (intact : PlanIntact initial job.stamp middle.disk plan) :
      wp (do
          tryCatch (putBack answers job.storage job.stamp moved) fun error => do
            logError (.rollbackFailed moved job.storage.path (plan.any BridgePlan.wasAlive))
            throw error
          restartController answers job.storage.path
          restartIfStopped answers plan .bridgeNotRestarted)
        (fun _ after =>
          Keeps (job.storage.places job.stamp ++ planPlaces job.stamp plan)
              (MayStart initial job.storage) station after ∧
            (initial.isDir job.storage.path = true →
              SameTree initial job.storage.path after.disk job.storage.path) ∧
            PlanIntact initial job.stamp after.disk plan)
        (fun error after =>
          Keeps (job.storage.places job.stamp ++ planPlaces job.stamp plan)
              (MayStart initial job.storage) station after ∧
            Placed initial job.storage job.stamp after.disk moved ∧
            PlanIntact initial job.stamp after.disk plan ∧ error = .osError ∧
            ∃ bridgeStopped,
              ErrorLine.rollbackFailed moved job.storage.path bridgeStopped ∈ after.errors)
        middle := by
    have intactAfter {after : Workstation}
        (spares : Spares (job.storage.places job.stamp) middle.disk after.disk) :
        PlanIntact initial job.stamp after.disk plan := by
      intro bridge same
      exact (intact bridge same).spared spares fun place member own mine =>
        (apart bridge same place member own mine).symm
    simp only [wp_bind, wp_tryCatch]
    apply wp_mono (moves_putBack still)
    · rintro _ back ⟨moves, home⟩
      have soFar := earlier.trans (moves.keeps (fun place member =>
        List.mem_append_left (planPlaces job.stamp plan) member) (MayStart initial job.storage))
      have allowed : MayStart initial job.storage back.disk := fun existed => .inl (home existed)
      rw [wp_bind]
      apply wp_mono (quiet_restartController job.storage.path allowed)
      · intro _ started rung
        apply wp_mono (quiet_restartIfStopped plan .bridgeNotRestarted)
        · intro _ after restarted
          have quiet := rung.trans restarted
          refine ⟨soFar.trans (quiet.keeps _), ?_, ?_⟩
          · rw [quiet.disk]
            exact home
          · rw [quiet.disk]
            exact intactAfter moves.trees
        · exact fun _ _ never => never.elim
      · exact fun _ _ never => never.elim
    · rintro error after ⟨moves, placedStill, raised⟩
      simp only [logError, wp_bind, wp_modify, wp_throw]
      have soFar := earlier.trans (moves.keeps (fun place member =>
        List.mem_append_left (planPlaces job.stamp plan) member) (MayStart initial job.storage))
      refine ⟨soFar.trans ((Quiet.logError _ after _).keeps _), placedStill,
        intactAfter moves.trees, raised, plan.any BridgePlan.wasAlive, ?_⟩
      exact List.mem_append_right _ (List.mem_singleton_self _)
  cases plan with
  | none =>
      simp only [rollback]
      apply controller station
      · exact (Moves.refl [] station).keeps (by simp) _
      · exact placed
      · intro bridge impossible
        cases impossible
  | some bridge =>
      simp only [rollback]
      rw [wp_bind, wp_tryCatch]
      have bridgePlaced := planPlaced bridge rfl
      have continueWith (middle : Workstation)
          (moves : Moves (bridge.dest.places job.stamp) station middle)
          (intact : Intact initial bridge.dest job.stamp middle.disk) :
          PlanIntact initial job.stamp middle.disk (some bridge) ∧
            Placed initial job.storage job.stamp middle.disk moved := by
        constructor
        · intro other same
          obtain rfl := Option.some.inj same
          exact intact
        · exact placed.spared moves.trees fun place member =>
            apart bridge rfl _ (mem_places_preRestore _ _) place member
      apply wp_mono (moves_putBack bridgePlaced)
      · rintro _ middle ⟨moves, home⟩
        rcases continueWith middle moves fun existed => .inl (home existed) with ⟨intact, still⟩
        exact controller middle (moves.keeps (fun place member =>
          List.mem_append_right _ member) _) still intact
      · rintro error middle ⟨moves, stillPlaced, _⟩
        rcases continueWith middle moves stillPlaced.intact with ⟨intact, still⟩
        have logged := (moves.keeps (fun place member => List.mem_append_right
          (job.storage.places job.stamp) member) (MayStart initial job.storage)).trans
            ((Quiet.logError (MayStart initial job.storage) middle
              (.bridgeRollbackFailed bridge.movedAsideTo bridge.dest.path)).keeps _)
        exact controller _ logged still intact

end Trees

/-! ## A whole restore -/

/-- The paths that stand in an error line. -/
def ErrorLine.mentions : ErrorLine → List Path
  | .bridgeNotRestarted | .controllerRestartRaised => []
  | .undoFailed aside home => [aside, home]
  | .controllerDown home | .bridgeNotStarted home => [home]
  | .bridgeRollbackFailed aside home | .rollbackFailed aside home _ => aside.toList ++ [home]

/-- The paths that stand in what a restore raises. -/
def Failure.mentions : Failure → List Path
  | .emptyStorage path | .rolledBack path => [path]
  | .doubleFault aside home | .strandedAside aside home => [aside, home]
  | _ => []

/-- Both original trees are complete, and the controller was never started while its own was
aside and nothing in its place. -/
structure KeptOriginals (initial : Disk) (job : RestoreJob) (after : Workstation) : Prop where
  controller : Intact initial job.storage job.stamp after.disk
  bridge : ∀ dest, job.bridgeStorage = some dest → Intact initial dest job.stamp after.disk
  starts : ∀ deed ∈ after.deeds, deed.1 = .controllerStarted → MayStart initial job.storage deed.2

/-- An error from before the move has left the disk alone; where the tree of the controller is
not at home, the error or the log says where it is. -/
structure Tells (initial : Disk) (job : RestoreJob) (error : Failure) (after : Workstation) :
    Prop where
  early : error.isEarly = true → after.disk = initial
  stranded : initial.isDir job.storage.path = true →
    ¬ SameTree initial job.storage.path after.disk job.storage.path →
      job.storage.preRestore job.stamp ∈ error.mentions ∨
        ∃ line ∈ after.errors, job.storage.preRestore job.stamp ∈ line.mentions

section Whole

variable {answers : Nat → Answer} {job : RestoreJob} {start : Workstation}
  {plan : Option BridgePlan}

theorem dest_of_planBridgeRestore {archive : Archive} {bridge : BridgePlan}
    (planned : planBridgeRestore job archive = some bridge) :
    job.bridgeStorage = some bridge.dest := by
  unfold planBridgeRestore at planned
  split at planned
  · cases planned
  · split at planned
    · cases planned
    · rename_i dest stored
      split at planned
      · cases planned
      · rw [stored, ← Option.some.inj planned]

theorem bridge_intact {dest : StorageDir} {disk : Disk}
    (apart : AllApart job.storage dest job.stamp)
    (planned : ∀ bridge, plan = some bridge → bridge.dest = dest)
    (spares : Spares (job.storage.places job.stamp ++ planPlaces job.stamp plan) start.disk disk)
    (intact : PlanIntact start.disk job.stamp disk plan) :
    Intact start.disk dest job.stamp disk := by
  cases plan with
  | none =>
      intro _
      left
      apply spares
      intro place member
      rw [planPlaces, List.append_nil] at member
      exact (apart place member _ (mem_places_path _ _)).symm
  | some bridge =>
      have own := intact bridge rfl
      rwa [planned bridge rfl] at own

theorem keptOriginals_of_keeps {after : Workstation} (fresh : start.deeds = [])
    (apart : ∀ dest, job.bridgeStorage = some dest → AllApart job.storage dest job.stamp)
    (planned : ∀ bridge, plan = some bridge → job.bridgeStorage = some bridge.dest)
    (keeps : Keeps (job.storage.places job.stamp ++ planPlaces job.stamp plan)
      (MayStart start.disk job.storage) start after)
    (controller : Intact start.disk job.storage job.stamp after.disk)
    (bridge : PlanIntact start.disk job.stamp after.disk plan) :
    KeptOriginals start.disk job after where
  controller := controller
  bridge := by
    intro dest stored
    apply bridge_intact (apart dest stored) _ keeps.trees bridge
    intro other same
    exact Option.some.inj ((planned other same).symm.trans stored)
  starts := by
    intro deed member started
    rcases keeps.starts deed member with earlier | allowed
    · rw [fresh] at earlier
      cases earlier
    · exact allowed started

theorem planIntact_of_home {disk : Disk} (home : PlanAtHome start.disk disk plan) :
    PlanIntact start.disk job.stamp disk plan :=
  fun bridge same _ => .inl (home bridge same)

theorem planIntact_of_placed {disk : Disk} (placed : PlanPlaced start.disk job.stamp disk plan) :
    PlanIntact start.disk job.stamp disk plan :=
  fun bridge same => (placed bridge same).intact

/-- The handler of a failed move always raises, and where the controller's tree is aside it
says so and starts only the bridge. -/
theorem wp_afterMoveAsideFailed {station : Workstation} {error : Failure} (fresh : start.deeds = [])
    (apart : ∀ dest, job.bridgeStorage = some dest → AllApart job.storage dest job.stamp)
    (planned : ∀ bridge, plan = some bridge → job.bridgeStorage = some bridge.dest)
    (keeps : Keeps (job.storage.places job.stamp ++ planPlaces job.stamp plan)
      (MayStart start.disk job.storage) start station)
    (failed : MoveFailure start.disk job.storage job.stamp station.disk error)
    (home : PlanAtHome start.disk station.disk plan) :
    wp (afterMoveAsideFailed answers job plan error) (fun _ _ => False)
      (fun error after => KeptOriginals start.disk job after ∧ Tells start.disk job error after)
      station := by
  have conclude {after : Workstation} (quiet : Quiet (MayStart start.disk job.storage) station after)
      (intact : Intact start.disk job.storage job.stamp station.disk) :
      KeptOriginals start.disk job after := by
    apply keptOriginals_of_keeps fresh apart planned (keeps.trans (quiet.keeps _))
    · rw [quiet.disk]
      exact intact
    · rw [quiet.disk]
      exact planIntact_of_home home
  cases failed with
  | single atHome =>
      simp only [afterMoveAsideFailed, wp_bind]
      have allowed : MayStart start.disk job.storage station.disk :=
        fun existed => .inl (atHome existed)
      apply wp_mono (quiet_restartController job.storage.path allowed)
      · intro _ middle rung
        rw [wp_bind]
        apply wp_mono (quiet_restartIfStopped plan .bridgeNotRestarted)
        · intro _ after restarted
          have quiet := rung.trans restarted
          refine ⟨conclude quiet fun existed => .inl (atHome existed), by rintro ⟨⟩, ?_⟩
          intro existed away
          rw [quiet.disk] at away
          exact absurd (atHome existed) away
        · exact fun _ _ never => never.elim
      · exact fun _ _ never => never.elim
  | double existed aside =>
      simp only [afterMoveAsideFailed, wp_bind]
      apply wp_mono (quiet_restartIfStopped plan .bridgeNotRestarted)
      · intro _ after quiet
        refine ⟨conclude quiet fun _ => .inr aside, by rintro ⟨⟩, ?_⟩
        exact fun _ _ => .inl (by simp [Failure.mentions])
      · exact fun _ _ never => never.elim

/-- From the moment the directories have been moved aside. -/
theorem wp_extractAndStart {station : Workstation} {archive : Archive} {moved : Option Path}
    (fresh : start.deeds = [])
    (apart : ∀ dest, job.bridgeStorage = some dest → AllApart job.storage dest job.stamp)
    (planned : ∀ bridge, plan = some bridge → job.bridgeStorage = some bridge.dest)
    (inside : ∀ bridge, plan = some bridge → StaysInside archive bridge.dest.path)
    (keeps : Keeps (job.storage.places job.stamp ++ planPlaces job.stamp plan)
      (MayStart start.disk job.storage) start station)
    (placed : Placed start.disk job.storage job.stamp station.disk moved)
    (planPlaced : PlanPlaced start.disk job.stamp station.disk plan) :
    wp (tryCatch (extractAndStart answers archive job plan) fun _ => do
          rollback answers job moved plan
          throw (.rolledBack (moved.getD job.storage.path)))
      (fun _ after => Keeps (job.storage.places job.stamp ++ planPlaces job.stamp plan)
          (MayStart start.disk job.storage) start after ∧
        Intact start.disk job.storage job.stamp after.disk ∧
        PlanIntact start.disk job.stamp after.disk plan)
      (fun error after => KeptOriginals start.disk job after ∧ Tells start.disk job error after)
      station := by
  have apartPlan : ∀ bridge, plan = some bridge → AllApart job.storage bridge.dest job.stamp :=
    fun bridge same => apart bridge.dest (planned bridge same)
  have extracted {after : Workstation}
      (moves : Moves (job.storage.path :: (plan.map fun bridge => bridge.dest.path).toList)
        station after) :
      Keeps (job.storage.places job.stamp ++ planPlaces job.stamp plan)
          (MayStart start.disk job.storage) start after ∧
        Placed start.disk job.storage job.stamp after.disk moved ∧
        PlanPlaced start.disk job.stamp after.disk plan := by
    refine ⟨keeps.trans (moves.keeps ?_ _), placed.spared moves.trees ?_, ?_⟩
    · intro place member
      rcases List.mem_cons.mp member with rfl | ofBridge
      · exact List.mem_append_left _ (mem_places_path _ _)
      · apply List.mem_append_right
        cases plan with
        | none => cases ofBridge
        | some bridge =>
            rw [List.mem_singleton.mp ofBridge]
            exact mem_places_path _ _
    · intro place member
      rcases List.mem_cons.mp member with rfl | ofBridge
      · exact (job.storage.apart_preRestore job.stamp).symm
      · cases plan with
        | none => cases ofBridge
        | some bridge =>
            rw [List.mem_singleton.mp ofBridge]
            exact apartPlan bridge rfl _ (mem_places_preRestore _ _) _ (mem_places_path _ _)
    · intro bridge same
      subst same
      apply (planPlaced bridge rfl).spared moves.trees
      intro place member
      rcases List.mem_cons.mp member with rfl | ofBridge
      · exact (apartPlan bridge rfl _ (mem_places_path _ _) _ (mem_places_preRestore _ _)).symm
      · rw [List.mem_singleton.mp ofBridge]
        exact (bridge.dest.apart_preRestore job.stamp).symm
  have rolledBack {middle : Workstation}
      (keepsMiddle : Keeps (job.storage.places job.stamp ++ planPlaces job.stamp plan)
        (MayStart start.disk job.storage) start middle)
      (still : Placed start.disk job.storage job.stamp middle.disk moved)
      (planStill : PlanPlaced start.disk job.stamp middle.disk plan) :
      wp (do
          rollback answers job moved plan
          throw (.rolledBack (moved.getD job.storage.path)))
        (fun (_ : Unit) after => Keeps (job.storage.places job.stamp ++ planPlaces job.stamp plan)
            (MayStart start.disk job.storage) start after ∧
          Intact start.disk job.storage job.stamp after.disk ∧
          PlanIntact start.disk job.stamp after.disk plan)
        (fun error after => KeptOriginals start.disk job after ∧ Tells start.disk job error after)
        middle := by
    rw [wp_bind]
    apply wp_mono (keeps_rollback still planStill apartPlan)
    · rintro _ after ⟨back, home, intact⟩
      refine ⟨keptOriginals_of_keeps fresh apart planned (keepsMiddle.trans back)
        (fun existed => .inl (home existed)) intact, by rintro ⟨⟩, ?_⟩
      exact fun existed away => absurd (home existed) away
    · rintro _ after ⟨back, placedAfter, intact, rfl, bridgeStopped, logged⟩
      refine ⟨keptOriginals_of_keeps fresh apart planned (keepsMiddle.trans back)
        placedAfter.intact intact, by rintro ⟨⟩, ?_⟩
      · intro existed _
        cases placedAfter with
        | absent none_ =>
            rw [existed] at none_
            cases none_
        | aside _ _ => exact .inr ⟨_, logged, by simp [ErrorLine.mentions]⟩
  simp only [extractAndStart, wp_tryCatch, wp_bind]
  apply wp_mono (moves_extractForRestore inside apartPlan)
  · rintro _ middle ⟨moves, isDir, entries⟩
    rcases extracted moves with ⟨keepsMiddle, still, planStill⟩
    have allowed : MayStart start.disk job.storage middle.disk := fun _ => .inr ⟨isDir, entries⟩
    rw [wp_bind]
    apply wp_mono (quiet_startController allowed)
    · intro started after quiet
      have keepsAfter := keepsMiddle.trans (quiet.keeps _)
      cases started with
      | true =>
          refine ⟨keepsAfter, ?_, ?_⟩
          · rw [quiet.disk]
            exact still.intact
          · rw [quiet.disk]
            exact planIntact_of_placed planStill
      | false =>
          exact rolledBack keepsAfter (quiet.disk ▸ still) (quiet.disk ▸ planStill)
    · intro error after quiet
      exact rolledBack (keepsMiddle.trans (quiet.keeps _)) (quiet.disk ▸ still)
        (quiet.disk ▸ planStill)
  · intro error middle moves
    rcases extracted moves with ⟨keepsMiddle, still, planStill⟩
    exact rolledBack keepsMiddle still planStill

theorem planPlaces_eq {plan' : Option BridgePlan} {stamp : Stamp}
    (dests : plan'.map BridgePlan.dest = plan.map BridgePlan.dest) :
    planPlaces stamp plan' = planPlaces stamp plan := by
  have through (plan : Option BridgePlan) : planPlaces stamp plan =
      ((plan.map BridgePlan.dest).map fun dest => dest.places stamp).getD [] := by
    cases plan <;> rfl
  rw [through, through, dests]

theorem planned_of_dests {plan' : Option BridgePlan}
    (planned : ∀ bridge, plan = some bridge → job.bridgeStorage = some bridge.dest)
    (dests : plan'.map BridgePlan.dest = plan.map BridgePlan.dest) :
    ∀ bridge, plan' = some bridge → job.bridgeStorage = some bridge.dest := by
  rintro bridge rfl
  rcases Option.map_eq_some_iff.mp dests.symm with ⟨other, same, dest⟩
  rw [← dest]
  exact planned other same

theorem quiet_finishBridgeRestore {station : Workstation} {mayStart : Disk → Prop}
    (plan : Option BridgePlan) :
    wp (finishBridgeRestore answers plan) (fun _ after => Quiet mayStart station after)
      (fun _ _ => False) station := by
  cases plan with
  | none => exact .refl mayStart station
  | some plan =>
      simp only [finishBridgeRestore]
      split
      · simp only [restartBridge, note, wp_bind, wp_modify]
        apply wp_mono quiet_askControl
        · intro answer middle asked
          have rung := (Quiet.note station (by simp : Deed.bridgeStarted = .controllerStarted →
            mayStart station.disk)).trans asked
          rw [wp_pure]
          split
          · exact rung.trans (.logError mayStart middle _)
          · exact rung
        · exact fun _ _ never => never
      · exact .refl mayStart station

theorem dest_of_map_wasAlive {bridge : BridgePlan} {wasAlive : Bool}
    (planned : plan.map (fun plan => { plan with wasAlive }) = some bridge) :
    ∃ other, plan = some other ∧ other.dest = bridge.dest := by
  cases plan with
  | none => cases planned
  | some other => exact ⟨other, rfl, by rw [← Option.some.inj planned]⟩

theorem wp_restoreBackup (answers : Nat → Answer) (job : RestoreJob) (start : Workstation)
    (fresh : start.deeds = [])
    (apart : ∀ dest, job.bridgeStorage = some dest → AllApart job.storage dest job.stamp)
    (inside : ExtractsInside job) :
    wp (restoreBackup answers job) (fun _ after => KeptOriginals start.disk job after)
      (fun error after => KeptOriginals start.disk job after ∧ Tells start.disk job error after)
      start := by
  have untouched {after : Workstation}
      (quiet : Quiet (MayStart start.disk job.storage) start after) :
      KeptOriginals start.disk job after := by
    have unplanned : ∀ bridge, (none : Option BridgePlan) = some bridge →
        job.bridgeStorage = some bridge.dest := by
      rintro _ ⟨⟩
    apply keptOriginals_of_keeps fresh apart unplanned (quiet.keeps _)
    · rw [quiet.disk]
      exact fun _ => .inl fun _ => rfl
    · rintro _ ⟨⟩
  have raisedEarly {error : Failure} {after : Workstation}
      (quiet : Quiet (MayStart start.disk job.storage) start after) :
      KeptOriginals start.disk job after ∧ Tells start.disk job error after := by
    refine ⟨untouched quiet, fun _ => quiet.disk, fun _ away => ?_⟩
    rw [quiet.disk] at away
    exact absurd (fun _ => rfl) away
  have unstarted := Quiet.refl (MayStart start.disk job.storage) start
  unfold restoreBackup
  rw [wp_bind]
  cases source : job.archive with
  | missing => exact raisedEarly unstarted
  | notAnArchive => exact raisedEarly unstarted
  | corrupt => exact raisedEarly unstarted
  | zip archive =>
      simp only [loadAndValidateArchive]
      split
      · exact raisedEarly unstarted
      rw [wp_pure]
      split
      · exact raisedEarly unstarted
      rename_i controllerPasses
      split
      · exact raisedEarly unstarted
      rename_i bridgePasses
      rw [wp_bind]
      apply wp_mono (quiet_stopForRestore (MayStart start.disk job.storage) job
        (planBridgeRestore job archive))
      · rintro plan stopped ⟨quiet, wasAlive, rfl⟩
        have planned : ∀ bridge, (planBridgeRestore job archive).map (fun plan =>
            { plan with wasAlive }) = some bridge → job.bridgeStorage = some bridge.dest := by
          intro bridge same
          rcases dest_of_map_wasAlive same with ⟨other, found, dest⟩
          rw [← dest]
          exact dest_of_planBridgeRestore found
        have staysInside : ∀ bridge, (planBridgeRestore job archive).map (fun plan =>
            { plan with wasAlive }) = some bridge → StaysInside archive bridge.dest.path := by
          intro bridge same
          rcases dest_of_map_wasAlive same with ⟨other, found, dest⟩
          rw [← dest]
          refine inside archive other source found (by simpa using controllerPasses) ?_
          simpa [found] using bridgePasses
        generalize (planBridgeRestore job archive).map (fun plan =>
          { plan with wasAlive }) = plan at planned staysInside ⊢
        have apartPlan : ∀ bridge, plan = some bridge →
            AllApart job.storage bridge.dest job.stamp :=
          fun bridge same => apart bridge.dest (planned bridge same)
        have home : SameTree start.disk job.storage.path stopped.disk job.storage.path := by
          rw [quiet.disk]
          exact fun _ => rfl
        have bridgeHome : PlanAtHome start.disk stopped.disk plan := by
          intro bridge _
          rw [quiet.disk]
          exact fun _ => rfl
        rw [wp_bind, wp_tryCatch]
        apply wp_mono (moves_moveAsideForRestore home bridgeHome apartPlan)
        · rintro ⟨moved, plan'⟩ aside ⟨moves, placed, planPlaced, dests⟩
          have samePlaces : planPlaces job.stamp plan' = planPlaces job.stamp plan :=
            planPlaces_eq dests
          have planned' : ∀ bridge, plan' = some bridge → job.bridgeStorage = some bridge.dest :=
            planned_of_dests planned dests
          have keeps : Keeps (job.storage.places job.stamp ++ planPlaces job.stamp plan')
              (MayStart start.disk job.storage) start aside := by
            rw [samePlaces]
            exact (quiet.keeps _).trans (moves.keeps (fun _ member => member) _)
          rw [wp_bind]
          apply wp_mono (wp_extractAndStart fresh apart planned' ?_ keeps placed planPlaced)
          · rintro _ restored ⟨keepsAll, intact, planIntact⟩
            rw [wp_bind]
            apply wp_mono (quiet_finishBridgeRestore plan')
            · intro _ after finished
              have kept := keptOriginals_of_keeps fresh apart planned'
                (keepsAll.trans (finished.keeps _))
              rw [finished.disk] at kept
              exact kept intact planIntact
            · exact fun _ _ never => never.elim
          · exact fun _ _ thrown => thrown
          · intro bridge same
            rw [same] at dests
            rcases Option.map_eq_some_iff.mp dests.symm with ⟨other, found, dest⟩
            rw [← dest]
            exact staysInside other found
        · rintro error aside ⟨moves, failed, home⟩
          have keeps := (quiet.keeps (job.storage.places job.stamp ++
            planPlaces job.stamp plan)).trans (moves.keeps (fun _ member => member) _)
          apply wp_mono (wp_afterMoveAsideFailed fresh apart planned keeps failed home)
          · exact fun _ _ never => never.elim
          · exact fun _ _ thrown => thrown
      · rintro error after ⟨quiet, early⟩
        exact raisedEarly quiet

end Whole

/-! ### The directories of the plugin -/

def BRIDGE_DIRECTORY : FileName := ⟨"bridge-node".toList, by decide⟩

/-- `bridge_storage_path`. -/
def StorageDir.bridgeStorage (storage : StorageDir) : StorageDir := ⟨storage.parent, BRIDGE_DIRECTORY⟩

/-- Two names neither of which begins the other stay different, whatever is added to them. -/
theorem append_ne_append {first second : List Char} (notFirst : ¬ first <+: second)
    (notSecond : ¬ second <+: first) (added more : List Char) : first ++ added ≠ second ++ more := by
  intro same
  rcases List.prefix_or_prefix_of_prefix (same ▸ List.prefix_append first added)
    (List.prefix_append second more) with begins | begins
  · exact notFirst begins
  · exact notSecond begins

/-- The directories of the plugin are apart unless one name begins the other. -/
theorem StorageDir.bridgeStorage_apart (storage : StorageDir) (stamp : Stamp)
    (notBridge : ¬ BRIDGE_DIRECTORY.text <+: storage.name.text)
    (notBegins : ¬ storage.name.text <+: BRIDGE_DIRECTORY.text) :
    AllApart storage storage.bridgeStorage stamp := by
  have named : ∀ place ∈ storage.places stamp, ∃ name : FileName, ∃ added,
      place = storage.parent ++ [name] ∧ name.text = storage.name.text ++ added := by
    intro place member
    simp only [StorageDir.places, List.mem_cons, List.not_mem_nil, or_false] at member
    rcases member with rfl | rfl | rfl
    · exact ⟨storage.name, [], rfl, (List.append_nil _).symm⟩
    · exact ⟨_, _, rfl, rfl⟩
    · exact ⟨_, _, rfl, rfl⟩
  have bridgeNamed : ∀ place ∈ storage.bridgeStorage.places stamp, ∃ name : FileName, ∃ added,
      place = storage.parent ++ [name] ∧ name.text = BRIDGE_DIRECTORY.text ++ added := by
    intro place member
    simp only [StorageDir.places, List.mem_cons, List.not_mem_nil, or_false] at member
    rcases member with rfl | rfl | rfl
    · exact ⟨BRIDGE_DIRECTORY, [], rfl, (List.append_nil _).symm⟩
    · exact ⟨_, _, rfl, rfl⟩
    · exact ⟨_, _, rfl, rfl⟩
  intro place member other otherMember
  rcases named place member with ⟨name, added, rfl, text⟩
  rcases bridgeNamed other otherMember with ⟨otherName, more, rfl, otherText⟩
  apply StorageDir.apart_of_ne
  rintro rfl
  exact append_ne_append notBegins notBridge added more (text.symm.trans otherText)

/-! ### A restore over two fabrics -/

def DATA_DIRECTORY : Path := [⟨"data".toList, by decide⟩]

def controllerStorage : StorageDir := ⟨DATA_DIRECTORY, ⟨"matter-server".toList, by decide⟩⟩

def CHIP_FILE : FileName := ⟨"chip.json".toList, by decide⟩

def ENDPOINT_FILE : FileName := ⟨"endpoint-map.json".toList, by decide⟩

/-- A disk with one file in each of the two storage directories. -/
def twoFabrics : Disk :=
  ((((Disk.blank.put DATA_DIRECTORY .directory (by decide) (by decide) (by decide)).put
    controllerStorage.path .directory (by decide) (by decide) (by decide)).put
    (controllerStorage.path ++ [CHIP_FILE]) (.file [1, 2]) (by decide)
      (by decide) (by decide)).put
    controllerStorage.bridgeStorage.path .directory (by decide) (by decide) (by decide)).put
    (controllerStorage.bridgeStorage.path ++ [ENDPOINT_FILE]) (.file [3]) (by decide)
      (by decide) (by decide)

def twoFabricsArchive : Archive :=
  [⟨"chip.json".toList, [1, 2]⟩, ⟨"bridge-node/endpoint-map.json".toList, [3]⟩]

/-- The restore of an archive with both sides. -/
def twoFabricsJob : RestoreJob where
  archive := .zip twoFabricsArchive
  storage := controllerStorage
  bridgeStorage := some controllerStorage.bridgeStorage
  bridgeControl := true
  probes := true
  stamp := ⟨"20260101-000000".toList, by decide⟩

def twoFabricsStart : Workstation where
  disk := twoFabrics
  deeds := []
  errors := []
  clock := 0

/-- Every rename and every new directory is refused from the ninth call on. -/
def refusedLate (clock : Nat) : Answer where
  control := .yes
  directory := clock < 8
  writing := .completes

/-- Wherever a restore ends, both original trees are complete at one of their two places; an
error from before the move leaves the disk as it was, and a fabric that is not back in place
is always named. -/
theorem restore_keeps_originals (answers : Nat → Answer) (job : RestoreJob) (start : Workstation)
    (fresh : start.deeds = [])
    (apart : ∀ dest, job.bridgeStorage = some dest → AllApart job.storage dest job.stamp)
    (inside : ExtractsInside job) :
    KeptOriginals start.disk job (finalState (restoreBackup answers job start)) ∧
      ∀ error, outcome (restoreBackup answers job start) = .error error →
        Tells start.disk job error (finalState (restoreBackup answers job start)) := by
  have specified := wp_restoreBackup answers job start fresh apart inside
  constructor
  · apply final_of_wp fun after => KeptOriginals start.disk job after
    apply wp_mono specified
    · exact fun _ _ kept => kept
    · exact fun _ _ thrown => thrown.1
  · exact fun error reported => (error_of_wp specified reported).2

theorem restore_keeps_originals_refusedLate :
    KeptOriginals twoFabrics twoFabricsJob
        (finalState (restoreBackup refusedLate twoFabricsJob twoFabricsStart)) ∧
      ∀ error, outcome (restoreBackup refusedLate twoFabricsJob twoFabricsStart) = .error error →
        Tells twoFabrics twoFabricsJob error
          (finalState (restoreBackup refusedLate twoFabricsJob twoFabricsStart)) := by
  apply restore_keeps_originals refusedLate twoFabricsJob twoFabricsStart rfl
  · intro dest stored
    obtain rfl := Option.some.inj stored
    exact controllerStorage.bridgeStorage_apart _ (by decide) (by decide)
  · intro archive plan given planned _ _
    obtain rfl := ArchiveFile.zip.inj given
    have stored : some controllerStorage.bridgeStorage = some plan.dest :=
      dest_of_planBridgeRestore planned
    rw [← Option.some.inj stored]
    decide

end IndigoMatter.Plugin.Fabric
