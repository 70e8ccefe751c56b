import IndigoMatter.Bridge.Protocol
import IndigoMatter.Library.InsertionMap
import IndigoMatter.Library.Transition

/-!
# The commissioning window

`CommissioningWindow` records the window that is open and its codes, and
`openCommissioningWindow` opens one in three segments between its awaits: the check
that none is open, the hand-over of a new verifier to the Matter stack, and the
recording.  The stack replaces the active verifier before it refuses a window that
is already open.

Calls interleave with each other at their awaits, and with the end of the window on
either side.
-/

namespace IndigoMatter.Bridge

open IndigoMatter.Library

/-- The reasons a `window_closed` event carries. -/
inductive WindowClosedReason
  | commissioned
  | expired
deriving DecidableEq

/-- What a code lets a controller do is decided by these two numbers. -/
structure PairingCode where
  discriminator : Nat
  passcode : Nat
deriving DecidableEq

/-- The display encodings of a code, which the Matter library provides. -/
structure PairingCodec where
  manual : PairingCode → String
  qr : PairingCode → String

/-- `OpenWindow`; times are milliseconds. -/
structure OpenWindow where
  expiresAt : Int
  manualPairingCode : String
  qrPairingCode : String
deriving DecidableEq

/-- `CommissioningWindow`, with the reasons it has announced, newest first. -/
structure CommissioningWindow where
  current : Option OpenWindow
  announced : List WindowClosedReason
deriving DecidableEq

namespace CommissioningWindow

/-- `assertClosed`. -/
def assertClosed (window : CommissioningWindow) : Except ProtocolError Unit :=
  if window.current.isSome then
    .error ⟨.commissioningWindowFailed, "A commissioning window is already open"⟩
  else .ok ()

/-- `open`. -/
def openAt (nowMs durationSeconds : Int) (manualPairingCode qrPairingCode : String)
    (window : CommissioningWindow) : Except ProtocolError CommissioningWindow := do
  window.assertClosed
  return { window with
    current := some ⟨nowMs + durationSeconds * 1000, manualPairingCode, qrPairingCode⟩ }

/-- `#discard` and `#emit`, when a window is open. -/
def closeFor (reason : WindowClosedReason) (window : CommissioningWindow) :
    CommissioningWindow :=
  match window.current with
  | none => window
  | some _ => ⟨none, reason :: window.announced⟩

/-- `noteEnded`. -/
def noteEnded (window : CommissioningWindow) : CommissioningWindow :=
  window.closeFor .commissioned

/-- `#expire`, whose timer the recording armed. -/
def expire (window : CommissioningWindow) : CommissioningWindow := window.closeFor .expired

/-- `clear`. -/
def clear (window : CommissioningWindow) : CommissioningWindow := { window with current := none }

@[simp]
theorem current_closeFor (reason : WindowClosedReason) (window : CommissioningWindow) :
    (window.closeFor reason).current = none := by
  unfold closeFor
  split
  · assumption
  · rfl

theorem announced_closeFor {window : CommissioningWindow} (recorded : window.current.isSome)
    {reason : WindowClosedReason} :
    (window.closeFor reason).announced = reason :: window.announced := by
  unfold closeFor
  split
  · rename_i closed
    rw [closed] at recorded
    cases recorded
  · rfl

/-- A window is opened where none is recorded, and nothing is announced. -/
theorem eq_of_openAt {window next : CommissioningWindow} {nowMs durationSeconds : Int}
    {manualPairingCode qrPairingCode : String}
    (opened : window.openAt nowMs durationSeconds manualPairingCode qrPairingCode = .ok next) :
    window.current = none ∧ next = { window with
      current := some ⟨nowMs + durationSeconds * 1000, manualPairingCode, qrPairingCode⟩ } := by
  unfold openAt assertClosed at opened
  by_cases recorded : window.current.isSome = true
  · simp [recorded, bind, Except.bind] at opened
  · rw [if_neg recorded] at opened
    exact ⟨Option.not_isSome_iff_eq_none.mp recorded, (Except.ok.inj opened).symm⟩

end CommissioningWindow

/-! ## The stack -/

/-- The commissioner of the Matter stack: whether a window is open there, and the code
whose verifier answers. -/
structure DeviceCommissioner where
  windowOpen : Bool
  verifier : Option PairingCode
deriving DecidableEq

namespace DeviceCommissioner

/-- `allowEnhancedCommissioning`: the verifier is replaced first, and whether that was
allowed is looked at afterwards.  `fails` is any other refusal. -/
def allowEnhancedCommissioning (code : PairingCode) (fails : Bool)
    (commissioner : DeviceCommissioner) : Bool × DeviceCommissioner :=
  if commissioner.windowOpen || fails then (false, { commissioner with verifier := some code })
  else (true, ⟨true, some code⟩)

/-- The end of a window, by a commissioning or on request. -/
def ended : DeviceCommissioner := ⟨false, none⟩

end DeviceCommissioner

/-! ## Calls -/

/-- A call of `openCommissioningWindow` between two of its awaits. -/
inductive OpenCall
  | checked (code : PairingCode) (durationSeconds : Int)
  | granted (code : PairingCode) (durationSeconds : Int)
deriving DecidableEq

/-- Whether the stack has opened its window for a call. -/
def OpenCall.isGranted : OpenCall → Bool
  | .checked _ _ => false
  | .granted _ _ => true

/-- `CommissioningWindowResult`. -/
structure CommissioningWindowResult where
  manualPairingCode : String
  qrPairingCode : String
  windowExpiresAt : Int
deriving DecidableEq

/-- The node's window, the stack's, the calls in flight, what the calls have answered,
newest first, and the code of the last call that succeeded. -/
structure WindowSystem where
  window : CommissioningWindow
  commissioner : DeviceCommissioner
  calls : InsertionMap Nat OpenCall
  answers : List (Nat × Except ProtocolError CommissioningWindowResult)
  lastReturned : Option PairingCode

/-- What happens to the window. -/
inductive WindowEvent
  | request (call : Nat) (code : PairingCode) (durationSeconds : Int)
  | derivationFails (call : Nat) (message : String)
  | install (call : Nat) (fails : Bool) (message : String)
  | record (call : Nat) (nowMs : Int)
  | expire
  | clear
  | matterEnds

namespace WindowSystem

/-- A node whose stack may have its basic window open. -/
def start (basic : Option PairingCode) : WindowSystem :=
  ⟨⟨none, []⟩, ⟨basic.isSome, basic⟩, ∅, [], none⟩

/-- A call ends with an answer. -/
def answer (call : Nat) (result : Except ProtocolError CommissioningWindowResult)
    (system : WindowSystem) : WindowSystem :=
  { system with
    calls := system.calls.delete call
    answers := (call, result) :: system.answers }

/-- The first segment: the check, and a random code. -/
def request (call : Nat) (code : PairingCode) (durationSeconds : Int) (system : WindowSystem) :
    WindowSystem :=
  match system.window.assertClosed with
  | .error error => system.answer call (.error error)
  | .ok _ => { system with calls := system.calls.set call (.checked code durationSeconds) }

/-- The second segment: the stack is handed the verifier. -/
def install (call : Nat) (code : PairingCode) (durationSeconds : Int) (fails : Bool)
    (message : String) (system : WindowSystem) : WindowSystem :=
  match system.commissioner.allowEnhancedCommissioning code fails with
  | (true, commissioner) =>
      { system with
        commissioner := commissioner
        calls := system.calls.set call (.granted code durationSeconds) }
  | (false, commissioner) =>
      { system with commissioner := commissioner }.answer call
        (.error ⟨.commissioningWindowFailed, message⟩)

/-- The last segment: the codes are recorded and returned. -/
def record (codec : PairingCodec) (call : Nat) (code : PairingCode)
    (durationSeconds nowMs : Int) (system : WindowSystem) : WindowSystem :=
  match system.window.openAt nowMs durationSeconds (codec.manual code) (codec.qr code) with
  | .error error => system.answer call (.error error)
  | .ok window =>
      { system with
        window := window
        lastReturned := some code }.answer call
        (.ok ⟨codec.manual code, codec.qr code, nowMs + durationSeconds * 1000⟩)

/-- One event.  The commissioner tells the node when it ends a window. -/
def step (codec : PairingCodec) : LabelledStep WindowSystem WindowEvent :=
  fun system event =>
    match event with
    | .request call code durationSeconds =>
        if system.calls.has call then none
        else some (system.request call code durationSeconds)
    | .derivationFails call message =>
        match system.calls.get? call with
        | some (.checked _ _) =>
            some (system.answer call (.error ⟨.commissioningWindowFailed, message⟩))
        | _ => none
    | .install call fails message =>
        match system.calls.get? call with
        | some (.checked code durationSeconds) =>
            some (system.install call code durationSeconds fails message)
        | _ => none
    | .record call nowMs =>
        match system.calls.get? call with
        | some (.granted code durationSeconds) =>
            some (system.record codec call code durationSeconds nowMs)
        | _ => none
    | .expire =>
        if system.window.current.isSome then some { system with window := system.window.expire }
        else none
    | .clear => some { system with window := system.window.clear }
    | .matterEnds =>
        if system.commissioner.windowOpen then
          some { system with
            commissioner := .ended
            window := system.window.noteEnded }
        else none

/-! ## The code the user was given -/

/-- While a window is recorded, the code it shows is the one the last successful call
returned, and the active verifier accepts it. -/
def HonoursCode (codec : PairingCodec) (system : WindowSystem) : Prop :=
  ∀ window, system.window.current = some window →
    ∃ code, system.lastReturned = some code ∧ system.commissioner.verifier = some code ∧
      window.manualPairingCode = codec.manual code ∧ window.qrPairingCode = codec.qr code

/-- No call has a window of the stack that it has not recorded. -/
def NoneGranted (system : WindowSystem) : Prop :=
  ∀ call ∈ system.calls.values, call.isGranted = false

instance (system : WindowSystem) : Decidable system.NoneGranted :=
  inferInstanceAs (Decidable (∀ call ∈ system.calls.values, call.isGranted = false))

/-- A verifier is handed over only when no window is recorded or granted, and the stack
ends no window that is granted and not recorded. -/
def KeepsApart (system : WindowSystem) : WindowEvent → Prop
  | .install _ _ _ => system.window.current = none ∧ system.NoneGranted
  | .matterEnds => system.NoneGranted
  | _ => True

instance (system : WindowSystem) (event : WindowEvent) :
    Decidable (system.KeepsApart event) := by
  cases event <;> unfold KeepsApart <;> infer_instance

/-- What every event keeps: the recorded code is honoured, and so is a granted one. -/
structure Sound (codec : PairingCodec) (system : WindowSystem) : Prop where
  honoured : system.HonoursCode codec
  granted : ∀ call code durationSeconds,
    system.calls.get? call = some (.granted code durationSeconds) →
    system.commissioner.verifier = some code

theorem not_granted {system : WindowSystem} (none : system.NoneGranted) {call : Nat}
    {code : PairingCode} {durationSeconds : Int} :
    system.calls.get? call ≠ some (.granted code durationSeconds) := by
  intro found
  have mem := InsertionMap.mem_values_iff.mpr ⟨call, found⟩
  exact Bool.false_ne_true ((none _ mem).symm.trans rfl)

variable {codec : PairingCodec} {system : WindowSystem}

theorem sound_start (basic : Option PairingCode) : (start basic).Sound codec where
  honoured := by
    intro window recorded
    cases recorded
  granted := by
    intro call code durationSeconds found
    cases found

/-- An answer takes a call away and changes nothing else. -/
theorem Sound.answer (sound : system.Sound codec) (call : Nat)
    (result : Except ProtocolError CommissioningWindowResult) :
    (system.answer call result).Sound codec where
  honoured := sound.honoured
  granted := by
    intro other code durationSeconds found
    change (system.calls.delete call).get? other = _ at found
    rw [InsertionMap.get?_delete] at found
    split at found
    · cases found
    · exact sound.granted other code durationSeconds found

/-- A window that is gone honours every code. -/
theorem honoursCode_of_closed (closed : system.window.current = none) :
    system.HonoursCode codec := by
  intro window recorded
  rw [closed] at recorded
  cases recorded

theorem Sound.request (sound : system.Sound codec) (call : Nat) (code : PairingCode)
    (durationSeconds : Int) : (system.request call code durationSeconds).Sound codec := by
  unfold WindowSystem.request
  split
  · exact sound.answer call _
  · refine ⟨sound.honoured, ?_⟩
    intro other later seconds found
    change (system.calls.set call _).get? other = _ at found
    rw [InsertionMap.get?_set] at found
    split at found
    · cases found
    · exact sound.granted other later seconds found

/-- A hand-over to a stack nobody waits for cannot take a verifier away from a window. -/
theorem Sound.install (closed : system.window.current = none) (none : system.NoneGranted)
    (call : Nat) (code : PairingCode) (durationSeconds : Int) (fails : Bool) (message : String) :
    (system.install call code durationSeconds fails message).Sound codec := by
  unfold WindowSystem.install DeviceCommissioner.allowEnhancedCommissioning
  by_cases refused : (system.commissioner.windowOpen || fails) = true
  · rw [if_pos refused]
    dsimp only
    apply Sound.answer
    refine ⟨honoursCode_of_closed closed, ?_⟩
    intro other later seconds found
    exact absurd found (not_granted none)
  · rw [if_neg refused]
    dsimp only
    refine ⟨honoursCode_of_closed closed, ?_⟩
    intro other later seconds found
    change (system.calls.set call _).get? other = _ at found
    rw [InsertionMap.get?_set] at found
    split at found
    · obtain ⟨rfl, rfl⟩ := OpenCall.granted.inj (Option.some.inj found)
      rfl
    · exact absurd found (not_granted none)

/-- The code of a granted call is the one the verifier accepts, so it may be recorded. -/
theorem Sound.record (sound : system.Sound codec) {call : Nat} {code : PairingCode}
    {durationSeconds : Int} (granted : system.calls.get? call = some (.granted code durationSeconds))
    (nowMs : Int) : (system.record codec call code durationSeconds nowMs).Sound codec := by
  have accepts := sound.granted call code durationSeconds granted
  unfold WindowSystem.record
  split
  · exact sound.answer call _
  · rename_i window opened
    apply Sound.answer
    refine ⟨?_, sound.granted⟩
    intro recorded shown
    unfold CommissioningWindow.openAt at opened
    cases closed : system.window.assertClosed with
    | error error => simp [closed, bind, Except.bind] at opened
    | ok _ =>
        simp only [closed, bind, Except.bind, pure, Except.pure, Except.ok.injEq] at opened
        subst opened
        obtain rfl := Option.some.inj shown
        exact ⟨code, rfl, accepts, rfl, rfl⟩

theorem sound_step {event : WindowEvent} {next : WindowSystem} (sound : system.Sound codec)
    (apart : system.KeepsApart event) (taken : step codec system event = some next) :
    next.Sound codec := by
  cases event with
  | request call code durationSeconds =>
      unfold step at taken
      dsimp only at taken
      split at taken
      · cases taken
      · obtain rfl := Option.some.inj taken
        exact sound.request call code durationSeconds
  | derivationFails call message =>
      unfold step at taken
      dsimp only at taken
      split at taken
      · obtain rfl := Option.some.inj taken
        exact sound.answer call _
      · cases taken
  | install call fails message =>
      unfold step at taken
      dsimp only at taken
      split at taken
      · obtain rfl := Option.some.inj taken
        exact Sound.install apart.1 apart.2 call _ _ fails message
      · cases taken
  | record call nowMs =>
      unfold step at taken
      dsimp only at taken
      split at taken
      · rename_i code durationSeconds granted
        obtain rfl := Option.some.inj taken
        exact sound.record granted nowMs
      · cases taken
  | expire =>
      unfold step at taken
      dsimp only at taken
      split at taken
      · obtain rfl := Option.some.inj taken
        exact ⟨honoursCode_of_closed (CommissioningWindow.current_closeFor _ _), sound.granted⟩
      · cases taken
  | clear =>
      obtain rfl := Option.some.inj taken
      exact ⟨honoursCode_of_closed rfl, sound.granted⟩
  | matterEnds =>
      unfold step at taken
      dsimp only at taken
      split at taken
      · obtain rfl := Option.some.inj taken
        refine ⟨honoursCode_of_closed (CommissioningWindow.current_closeFor _ _), ?_⟩
        intro call code durationSeconds found
        exact absurd found (not_granted apart)
      · cases taken

/-- In a run that keeps the calls apart, the code the user was given is accepted
whenever the node shows a window. -/
theorem honoursCode_of_apart_run {basic : Option PairingCode} {events : List WindowEvent}
    {final : WindowSystem}
    (run : RunWhere (step codec) KeepsApart (start basic) events final) :
    final.HonoursCode codec := by
  have sound : final.Sound codec := by
    apply run.invariant
    · exact sound_start basic
    · intro state event next holds apart taken
      exact sound_step holds apart taken
  exact sound.honoured

/-- Codes shown as their numbers. -/
def plainCodec : PairingCodec where
  manual := fun code => toString code.discriminator ++ "-" ++ toString code.passcode
  qr := fun code => "MT:" ++ toString code.passcode

theorem honoursCode_after_second_opening :
    ∃ final, RunWhere (step plainCodec) KeepsApart (start none)
      [.request 1 ⟨1, 11⟩ 180, .install 1 false "", .record 1 0, .request 2 ⟨2, 22⟩ 180,
        .expire, .matterEnds, .request 3 ⟨3, 33⟩ 180, .install 3 false "", .record 3 200] final ∧
      final.HonoursCode plainCodec := by
  have run := @runWhere_follow_getD _ _ (step plainCodec) KeepsApart _ (start none)
    [.request 1 ⟨1, 11⟩ 180, .install 1 false "", .record 1 0, .request 2 ⟨2, 22⟩ 180,
      .expire, .matterEnds, .request 3 ⟨3, 33⟩ 180, .install 3 false "", .record 3 200]
    (by decide +kernel) (start none)
  exact ⟨_, run, honoursCode_of_apart_run run⟩

/-- Two calls pass the check together; the second takes the verifier away from the window
of the first and is then refused. -/
theorem refused_opening_kills_code :
    ¬∀ events final, Run (step plainCodec) (start none) events final →
      final.HonoursCode plainCodec := by
  intro always
  have run := @runWhere_follow_getD _ _ (step plainCodec) (fun _ _ => True)
    (fun _ _ => instDecidableTrue) (start none)
    [.request 1 ⟨1, 11⟩ 180, .request 2 ⟨2, 22⟩ 180, .install 1 false "", .record 1 0,
      .install 2 false "already open"]
    (by decide +kernel) (start none)
  rcases always _ _ run _ rfl with ⟨code, returned, accepts, -⟩
  exact absurd (returned.trans accepts.symm) (by decide +kernel)

end WindowSystem

end IndigoMatter.Bridge
