import IndigoMatter.Bridge.CommissioningWindow

/-!
# The ends of commissioning windows

The expiry timer of a window is cancelled when the window is dropped.  The callback
that tells the node about the end of a window of the Matter stack is not, and it does
not say which window ended: it closes the one that is recorded when it arrives.

Every opening has a number here, and what ends a window keeps the number of the
opening that armed or registered it.
-/

namespace IndigoMatter.Bridge

open IndigoMatter.Library

/-- What closes the recorded window: the timer or the end callback of an opening. -/
inductive EndCause
  | timer (opening : Nat)
  | notice (opening : Nat)
deriving DecidableEq

namespace EndCause

/-- The opening whose timer or callback it is. -/
def opening : EndCause → Nat
  | .timer opening => opening
  | .notice opening => opening

/-- The reason the `window_closed` event carries. -/
def reason : EndCause → WindowClosedReason
  | .timer _ => .expired
  | .notice _ => .commissioned

end EndCause

/-- A `window_closed` event: the opening whose window was recorded, and what closed it. -/
structure Closing where
  opening : Nat
  cause : EndCause
deriving DecidableEq

/-- The node's window with its `#cancel`, the timers that may still fire, the opening whose
window the stack has open, the calls in their two waiting phases, the end callbacks under
way, and what has become of the openings so far. -/
structure WindowHistory where
  window : CommissioningWindow
  cancel : Option Nat
  armed : List Nat
  stack : Option Nat
  called : List Nat
  checked : List Nat
  granted : List Nat
  notices : List Nat
  owner : Option Nat
  opened : List Nat
  cleared : List Nat
  closings : List Closing
deriving DecidableEq

/-- What happens to the windows.  A callback that the stack has sent is delivered when it
pleases. -/
inductive WindowEndEvent
  | request (opening : Nat)
  | grant (opening : Nat) (fails : Bool)
  | record (opening : Nat) (nowMs durationSeconds : Int)
      (manualPairingCode qrPairingCode : String)
  | matterEnds
  | deliver (opening : Nat)
  | fire (opening : Nat)
  | clear

namespace WindowHistory

/-- A node that has opened nothing yet. -/
def start : WindowHistory :=
  ⟨⟨none, []⟩, none, [], none, [], [], [], [], none, [], [], []⟩

/-- The timers left when `#cancel` is called. -/
def armedAfterCancel (history : WindowHistory) : List Nat :=
  match history.cancel with
  | none => history.armed
  | some timer => history.armed.erase timer

/-- `#discard`. -/
def discard (history : WindowHistory) : WindowHistory :=
  { history with
    window := history.window.clear
    cancel := none
    armed := history.armedAfterCancel
    owner := none }

/-- `noteEnded` and `#expire`, told apart by their cause. -/
def close (cause : EndCause) (history : WindowHistory) : WindowHistory :=
  if history.window.current.isSome then
    { history.discard with
      window := history.window.closeFor cause.reason
      closings := history.owner.toList.map (⟨·, cause⟩) ++ history.closings }
  else history

/-- `clear`. -/
def clear (history : WindowHistory) : WindowHistory :=
  { history.discard with cleared := history.owner.toList ++ history.cleared }

/-- The check before anything is asked of the stack. -/
def request (opening : Nat) (history : WindowHistory) : WindowHistory :=
  match history.window.assertClosed with
  | .error _ => { history with called := opening :: history.called }
  | .ok _ =>
      { history with
        called := opening :: history.called
        checked := opening :: history.checked }

/-- `allowEnhancedCommissioning`, which keeps the callback of the opening it grants. -/
def grant (opening : Nat) (fails : Bool) (history : WindowHistory) : WindowHistory :=
  if history.stack.isSome || fails then
    { history with checked := history.checked.erase opening }
  else
    { history with
      checked := history.checked.erase opening
      granted := opening :: history.granted
      stack := some opening }

/-- `open`: the window is recorded and its timer armed. -/
def record (opening : Nat) (nowMs durationSeconds : Int)
    (manualPairingCode qrPairingCode : String) (history : WindowHistory) : WindowHistory :=
  match history.window.openAt nowMs durationSeconds manualPairingCode qrPairingCode with
  | .error _ => { history with granted := history.granted.erase opening }
  | .ok window =>
      { history with
        window := window
        cancel := some opening
        armed := opening :: history.armed
        granted := history.granted.erase opening
        owner := some opening
        opened := opening :: history.opened }

/-- One event. -/
def step : LabelledStep WindowHistory WindowEndEvent :=
  fun history event =>
    match event with
    | .request opening =>
        if opening ∈ history.called then none else some (history.request opening)
    | .grant opening fails =>
        if opening ∈ history.checked then some (history.grant opening fails) else none
    | .record opening nowMs durationSeconds manualPairingCode qrPairingCode =>
        if opening ∈ history.granted then
          some (history.record opening nowMs durationSeconds manualPairingCode qrPairingCode)
        else none
    | .matterEnds =>
        match history.stack with
        | none => none
        | some opening =>
            some { history with stack := none, notices := opening :: history.notices }
    | .deliver opening =>
        if opening ∈ history.notices then
          some ({ history with notices := history.notices.erase opening }.close
            (.notice opening))
        else none
    | .fire opening =>
        if opening ∈ history.armed then
          some ({ history with armed := history.armed.erase opening }.close (.timer opening))
        else none
    | .clear => some history.clear

/-! ## One end for every window -/

/-- Every opened window is announced closed at most once, and once it is no longer recorded
exactly once unless it was cleared; while it is recorded its timer is due; and what closed
it was its own. -/
structure EndsOnce (history : WindowHistory) : Prop where
  atMostOnce : ∀ opening, (history.closings.map Closing.opening).count opening ≤ 1
  exactlyOnce : ∀ opening ∈ history.opened, opening ∉ history.cleared →
    history.owner ≠ some opening → (history.closings.map Closing.opening).count opening = 1
  announced : history.window.announced = history.closings.map (·.cause.reason)
  due : ∀ opening, history.owner = some opening → opening ∈ history.armed
  own : ∀ closing ∈ history.closings, closing.cause.opening = closing.opening

/-- An end callback arrives when no window is recorded or the one it belongs to is. -/
def OwnNotice (history : WindowHistory) : WindowEndEvent → Prop
  | .deliver opening => history.window.current = none ∨ history.owner = some opening
  | _ => True

instance (history : WindowHistory) (event : WindowEndEvent) :
    Decidable (history.OwnNotice event) := by
  cases event <;> unfold OwnNotice <;> infer_instance

/-- What every event keeps: the opened windows are the recorded one, the cleared ones and
the closed ones; the armed timer is the recorded window's; and a timer closes its own. -/
structure Accounted (history : WindowHistory) : Prop where
  apart : (history.checked ++ (history.granted ++ history.opened)).Nodup
  known : ∀ opening ∈ history.checked ++ (history.granted ++ history.opened),
    opening ∈ history.called
  conserved : history.opened.Perm
    (history.owner.toList ++ (history.cleared ++ history.closings.map Closing.opening))
  recorded : history.owner.isSome = history.window.current.isSome
  cancels : history.cancel = history.owner
  timed : history.armed = history.owner.toList
  announced : history.window.announced = history.closings.map (·.cause.reason)
  timers : ∀ closing ∈ history.closings, ∀ opening,
    closing.cause = .timer opening → opening = closing.opening

variable {history : WindowHistory}

theorem accounted_start : start.Accounted where
  apart := List.nodup_nil
  known := by
    intro opening mem
    cases mem
  conserved := List.Perm.refl _
  recorded := rfl
  cancels := rfl
  timed := rfl
  announced := rfl
  timers := by
    intro closing mem
    cases mem

/-- An invariant of the phases survives an opening that leaves one of them. -/
theorem Accounted.checked_erase (kept : history.Accounted) (opening : Nat) :
    { history with checked := history.checked.erase opening }.Accounted where
  apart := kept.apart.sublist (List.Sublist.append_right List.erase_sublist _)
  known := by
    intro other mem
    apply kept.known
    exact (List.Sublist.append_right List.erase_sublist _).subset mem
  conserved := kept.conserved
  recorded := kept.recorded
  cancels := kept.cancels
  timed := kept.timed
  announced := kept.announced
  timers := kept.timers

theorem Accounted.request (kept : history.Accounted) {opening : Nat}
    (fresh : opening ∉ history.called) : (history.request opening).Accounted := by
  unfold WindowHistory.request
  split
  · refine { kept with known := ?_ }
    intro other mem
    exact List.mem_cons_of_mem _ (kept.known other mem)
  · refine { kept with apart := ?_, known := ?_ }
    · apply List.nodup_cons.mpr
      constructor
      · intro mem
        exact fresh (kept.known opening mem)
      · exact kept.apart
    · intro other mem
      rcases List.mem_cons.mp mem with rfl | earlier
      · exact List.mem_cons_self
      · exact List.mem_cons_of_mem _ (kept.known other earlier)

theorem Accounted.grant (kept : history.Accounted) {opening : Nat}
    (waiting : opening ∈ history.checked) (fails : Bool) :
    (history.grant opening fails).Accounted := by
  unfold WindowHistory.grant
  split
  · exact kept.checked_erase opening
  · have moved : (history.checked.erase opening ++
        (opening :: history.granted ++ history.opened)).Perm
        (history.checked ++ (history.granted ++ history.opened)) := by
      calc
        (history.checked.erase opening ++ (opening :: history.granted ++ history.opened)).Perm
            (opening :: history.checked.erase opening ++
              (history.granted ++ history.opened)) := by
          rw [List.cons_append]
          exact List.perm_middle
        _ |>.Perm (history.checked ++ (history.granted ++ history.opened)) :=
          (List.perm_cons_erase waiting).symm.append_right _
    refine { kept with apart := ?_, known := ?_ }
    · exact moved.nodup_iff.mpr kept.apart
    · intro other mem
      exact kept.known other (moved.subset mem)

theorem Accounted.record (kept : history.Accounted) {opening : Nat}
    (waiting : opening ∈ history.granted) (nowMs durationSeconds : Int)
    (manualPairingCode qrPairingCode : String) :
    (history.record opening nowMs durationSeconds manualPairingCode qrPairingCode).Accounted := by
  unfold WindowHistory.record
  split
  · have fewer : (history.checked ++ (history.granted.erase opening ++ history.opened)).Sublist
        (history.checked ++ (history.granted ++ history.opened)) :=
      List.Sublist.append_left (List.Sublist.append_right List.erase_sublist _) _
    refine { kept with apart := kept.apart.sublist fewer, known := ?_ }
    intro other mem
    exact kept.known other (fewer.subset mem)
  · rename_i window opened
    rcases CommissioningWindow.eq_of_openAt opened with ⟨closed, rfl⟩
    have unowned : history.owner = none := by
      have same := kept.recorded
      rw [closed] at same
      exact Option.not_isSome_iff_eq_none.mp (by rw [same]; exact Bool.false_ne_true)
    have moved : (history.granted.erase opening ++ opening :: history.opened).Perm
        (history.granted ++ history.opened) := by
      apply List.perm_middle.trans
      exact (List.perm_cons_erase waiting).symm.append_right _
    refine ⟨?_, ?_, ?_, rfl, rfl, ?_, kept.announced, kept.timers⟩
    · exact (moved.append_left _).nodup_iff.mpr kept.apart
    · intro other mem
      exact kept.known other ((moved.append_left _).subset mem)
    · have conserved := kept.conserved
      rw [unowned] at conserved
      exact conserved.cons opening
    · rw [kept.timed, unowned]
      rfl

/-- A window that is dropped takes its timer along. -/
theorem armedAfterCancel_eq_nil (cancels : history.cancel = history.owner)
    (timed : history.armed.Sublist history.owner.toList) : history.armedAfterCancel = [] := by
  unfold armedAfterCancel
  rw [cancels]
  cases owned : history.owner with
  | none =>
      rw [owned] at timed
      exact List.sublist_nil.mp timed
  | some opening =>
      rw [owned] at timed
      rcases List.sublist_singleton.mp timed with empty | single
      · rw [empty]
        rfl
      · rw [single]
        simp

/-- A closing moves the recorded window to the closed ones, whatever timer has fired. -/
theorem Accounted.close (kept : history.Accounted) {armed : List Nat} (notices : List Nat)
    (fewer : armed.Sublist history.owner.toList) {cause : EndCause}
    (timer : ∀ opening, cause = .timer opening → history.owner = some opening) :
    ({ history with armed := armed, notices := notices }.close cause).Accounted := by
  unfold WindowHistory.close
  by_cases recorded : history.window.current.isSome = true
  · rw [if_pos recorded]
    have owned : history.owner.isSome = true := kept.recorded.trans recorded
    rcases Option.isSome_iff_exists.mp owned with ⟨opening, owner⟩
    refine ⟨kept.apart, kept.known, ?_, ?_, rfl, ?_, ?_, ?_⟩
    · have moved : (opening :: (history.cleared ++ history.closings.map Closing.opening)).Perm
          (history.cleared ++ opening :: history.closings.map Closing.opening) :=
        List.perm_middle.symm
      have conserved := kept.conserved
      simp only [discard, owner] at conserved ⊢
      exact conserved.trans moved
    · exact (congrArg Option.isSome (CommissioningWindow.current_closeFor _ _)).symm
    · exact armedAfterCancel_eq_nil kept.cancels fewer
    · rw [CommissioningWindow.announced_closeFor recorded, kept.announced]
      simp only [owner]
      rfl
    · intro closing mem other caused
      simp only [owner, Option.toList_some, List.map_cons, List.map_nil, List.cons_append,
        List.nil_append, List.mem_cons] at mem
      rcases mem with rfl | earlier
      · exact Option.some.inj ((timer other caused).symm.trans owner)
      · exact kept.timers closing earlier other caused
  · rw [if_neg recorded]
    have unowned : history.owner = none := by
      apply Option.not_isSome_iff_eq_none.mp
      rw [kept.recorded]
      exact recorded
    refine { kept with timed := ?_ }
    rw [unowned] at fewer ⊢
    exact List.sublist_nil.mp fewer

theorem Accounted.clear (kept : history.Accounted) : history.clear.Accounted where
  apart := kept.apart
  known := kept.known
  conserved := by
    apply kept.conserved.trans
    rw [← List.append_assoc]
    exact List.Perm.refl _
  recorded := rfl
  cancels := rfl
  timed := by
    apply armedAfterCancel_eq_nil kept.cancels
    rw [kept.timed]
  announced := kept.announced
  timers := kept.timers

theorem accounted_step {event : WindowEndEvent} {next : WindowHistory}
    (kept : history.Accounted) (taken : step history event = some next) : next.Accounted := by
  unfold step at taken
  cases event with
  | request opening =>
      dsimp only at taken
      split at taken
      · cases taken
      · rename_i fresh
        obtain rfl := Option.some.inj taken
        exact kept.request fresh
  | grant opening fails =>
      dsimp only at taken
      split at taken
      · rename_i waiting
        obtain rfl := Option.some.inj taken
        exact kept.grant waiting fails
      · cases taken
  | record opening nowMs durationSeconds manualPairingCode qrPairingCode =>
      dsimp only at taken
      split at taken
      · rename_i waiting
        obtain rfl := Option.some.inj taken
        exact kept.record waiting _ _ _ _
      · cases taken
  | matterEnds =>
      dsimp only at taken
      split at taken
      · cases taken
      · obtain rfl := Option.some.inj taken
        exact { kept with }
  | deliver opening =>
      dsimp only at taken
      split at taken
      · obtain rfl := Option.some.inj taken
        apply kept.close
        · rw [kept.timed]
        · intro other caused
          cases caused
      · cases taken
  | fire opening =>
      dsimp only at taken
      split at taken
      · rename_i due
        obtain rfl := Option.some.inj taken
        apply kept.close
        · rw [← kept.timed]
          exact List.erase_sublist
        · intro other caused
          obtain rfl := EndCause.timer.inj caused
          rw [kept.timed] at due
          exact Option.mem_toList.mp due
      · cases taken
  | clear =>
      obtain rfl := Option.some.inj taken
      exact kept.clear

theorem accounted_of_run {allowed : WindowHistory → WindowEndEvent → Prop}
    {events : List WindowEndEvent} {final : WindowHistory}
    (run : RunWhere step allowed start events final) : final.Accounted := by
  apply run.invariant
  · exact accounted_start
  · intro state event next kept _ taken
    exact accounted_step kept taken

theorem closings_request (opening : Nat) : (history.request opening).closings = history.closings := by
  unfold request
  split <;> rfl

theorem closings_grant (opening : Nat) (fails : Bool) :
    (history.grant opening fails).closings = history.closings := by
  unfold grant
  split <;> rfl

theorem closings_record (opening : Nat) (nowMs durationSeconds : Int)
    (manualPairingCode qrPairingCode : String) :
    (history.record opening nowMs durationSeconds manualPairingCode qrPairingCode).closings =
      history.closings := by
  unfold record
  split <;> rfl

/-- Everything that has closed a window was its own. -/
def OwnClosings (history : WindowHistory) : Prop :=
  ∀ closing ∈ history.closings, closing.cause.opening = closing.opening

theorem ownClosings_congr {next : WindowHistory} (same : next.closings = history.closings) :
    next.OwnClosings ↔ history.OwnClosings := by
  unfold OwnClosings
  rw [same]

/-- Everything but the own ends follows from the account. -/
theorem Accounted.endsOnce (kept : history.Accounted)
    (own : history.OwnClosings) : history.EndsOnce where
  atMostOnce := by
    intro opening
    have counted := kept.conserved.count_eq opening
    have single := List.nodup_iff_count_le_one.mp
      (List.nodup_append.mp (List.nodup_append.mp kept.apart).2.1).2.1 opening
    rw [List.count_append, List.count_append] at counted
    omega
  exactlyOnce := by
    intro opening opened kept_open not_owner
    have counted := kept.conserved.count_eq opening
    have single := List.count_eq_one_of_mem
      (List.nodup_append.mp (List.nodup_append.mp kept.apart).2.1).2.1 opened
    have unowned : history.owner.toList.count opening = 0 := by
      apply List.count_eq_zero_of_not_mem
      intro mem
      exact not_owner (Option.mem_toList.mp mem)
    have uncleared := List.count_eq_zero_of_not_mem kept_open
    rw [List.count_append, List.count_append] at counted
    omega
  announced := kept.announced
  due := by
    intro opening owner
    rw [kept.timed, owner]
    exact List.mem_singleton_self opening
  own := own

/-- A closing is the window's own exactly when it finds no window, or its own one. -/
theorem ownClosings_close_iff (recorded : history.owner.isSome = history.window.current.isSome)
    (armed notices : List Nat) (cause : EndCause) :
    ({ history with armed := armed, notices := notices }.close cause).OwnClosings ↔
      history.OwnClosings ∧
        (history.window.current = none ∨ history.owner = some cause.opening) := by
  unfold close OwnClosings
  by_cases shown : history.window.current.isSome = true
  · rw [if_pos shown]
    rcases Option.isSome_iff_exists.mp (recorded.trans shown) with ⟨opening, owner⟩
    have open_window : history.window.current ≠ none := by
      intro closed
      rw [closed] at shown
      cases shown
    simp only [owner, Option.toList_some, List.map_cons, List.map_nil, List.cons_append,
      List.nil_append, List.forall_mem_cons, Option.some.injEq]
    constructor
    · intro holds
      exact ⟨holds.2, Or.inr holds.1.symm⟩
    · intro holds
      exact ⟨(holds.2.resolve_left open_window).symm, holds.1⟩
  · rw [if_neg shown]
    have closed := Option.not_isSome_iff_eq_none.mp shown
    constructor
    · intro holds
      exact ⟨holds, Or.inl closed⟩
    · exact And.left

/-- Only a delivery can close a window that is not its own. -/
theorem ownClosings_step_iff {event : WindowEndEvent} {next : WindowHistory}
    (kept : history.Accounted) (taken : step history event = some next) :
    next.OwnClosings ↔ history.OwnClosings ∧ history.OwnNotice event := by
  unfold step at taken
  cases event with
  | request opening =>
      dsimp only at taken
      split at taken
      · cases taken
      · obtain rfl := Option.some.inj taken
        rw [ownClosings_congr (closings_request opening)]
        exact (and_iff_left trivial).symm
  | grant opening fails =>
      dsimp only at taken
      split at taken
      · obtain rfl := Option.some.inj taken
        rw [ownClosings_congr (closings_grant opening fails)]
        exact (and_iff_left trivial).symm
      · cases taken
  | record opening nowMs durationSeconds manualPairingCode qrPairingCode =>
      dsimp only at taken
      split at taken
      · obtain rfl := Option.some.inj taken
        rw [ownClosings_congr (closings_record opening nowMs durationSeconds _ _)]
        exact (and_iff_left trivial).symm
      · cases taken
  | matterEnds =>
      dsimp only at taken
      split at taken
      · cases taken
      · obtain rfl := Option.some.inj taken
        exact (and_iff_left trivial).symm
  | deliver opening =>
      dsimp only at taken
      split at taken
      · obtain rfl := Option.some.inj taken
        exact ownClosings_close_iff kept.recorded _ _ (.notice opening)
      · cases taken
  | fire opening =>
      dsimp only at taken
      split at taken
      · rename_i due
        obtain rfl := Option.some.inj taken
        rw [kept.timed] at due
        apply (ownClosings_close_iff kept.recorded _ _ (.timer opening)).trans
        apply and_congr_right
        intro _
        exact iff_of_true (Or.inr (Option.mem_toList.mp due)) trivial
      · cases taken
  | clear =>
      obtain rfl := Option.some.inj taken
      exact (and_iff_left trivial).symm

theorem ownClosings_of_ownNotices {events : List WindowEndEvent} {final : WindowHistory}
    (run : RunWhere step OwnNotice start events final) : final.OwnClosings := by
  induction run with
  | nil =>
      intro closing mem
      cases mem
  | snoc before meets taken own =>
      exact (ownClosings_step_iff (accounted_of_run before) taken).mpr ⟨own, meets⟩

theorem ownNotices_of_ownClosings {events : List WindowEndEvent} {final : WindowHistory}
    (run : Run step start events final) (own : final.OwnClosings) :
    RunWhere step OwnNotice start events final := by
  induction run with
  | nil => exact .nil
  | snoc before _ taken ih =>
      rcases (ownClosings_step_iff (accounted_of_run before) taken).mp own with ⟨earlier, meets⟩
      exact .snoc (ih earlier) meets taken

/-- In every run, the windows end as they should exactly when every end callback arrives
at its own window or at none. -/
theorem endsOnce_iff_ownNotices {events : List WindowEndEvent} {final : WindowHistory}
    (run : Run step start events final) :
    final.EndsOnce ↔ RunWhere step OwnNotice start events final := by
  constructor
  · intro ends
    exact ownNotices_of_ownClosings run ends.own
  · intro own
    exact (accounted_of_run run).endsOnce (ownClosings_of_ownNotices own)

/-- A window that is commissioned, and the next one that runs out. -/
theorem endsOnce_after_own_ends :
    ∃ events final, Run step start events final ∧ final.EndsOnce ∧
      final.closings = [⟨2, .timer 2⟩, ⟨1, .notice 1⟩] := by
  have run := @runWhere_follow_getD _ _ step OwnNotice _ start
    [.request 1, .grant 1 false, .record 1 0 180 "11" "MT:11", .matterEnds, .deliver 1,
      .request 2, .grant 2 false, .record 2 200 180 "22" "MT:22", .fire 2]
    (by decide +kernel) start
  have unconditional := run.weaken (fun _ _ _ => trivial)
  exact ⟨_, _, unconditional, (endsOnce_iff_ownNotices unconditional).mpr run, by decide +kernel⟩

/-- The first window runs out, and the end of it that the expiry asked the stack for
arrives when the second is already shown. -/
theorem late_notice_closes_next_window :
    ¬∀ events final, Run step start events final → final.EndsOnce := by
  intro always
  have run := @runWhere_follow_getD _ _ step (fun _ _ => True) (fun _ _ => instDecidableTrue)
    start
    [.request 1, .grant 1 false, .record 1 0 180 "11" "MT:11", .fire 1, .matterEnds,
      .request 2, .grant 2 false, .record 2 200000 180 "22" "MT:22", .deliver 1]
    (by decide +kernel) start
  have own := (always _ _ run).own
  exact absurd (own ⟨2, .notice 1⟩ (by decide +kernel)) (by decide)

end WindowHistory

end IndigoMatter.Bridge
