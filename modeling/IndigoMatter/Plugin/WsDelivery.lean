import IndigoMatter.Plugin.WsJsonClient

/-!
# Every response is delivered once

A response belongs to the caller while its call can still return it, and to
`on_late_response` once it was handed over.  `Sound` says of one message id that
its responses are the ones received, and what its tables hold.  A step changes
one id, except that noting a context may evict the note of another, and that a
lost connection fails all of them.

Two windows break it.  A call whose future has been cancelled stays in
`_pending` until its task goes on, and a response read in between is let go, its
note with it.  A call that has its response but has not gone on yet loses it when
its send fails, or, since Python 3.12, when its wait is interrupted.  `punctual`
excludes the two.
-/

namespace IndigoMatter.Plugin

open IndigoMatter.Library

variable {Context Payload : Type}

/-- The response a call returns or raises, or is going to when its task goes on. -/
def Call.answer? (style : WaitFor) (call : Call Context Payload) : Option (Response Payload) :=
  match call.phase, call.future with
  | .ended (.answered response), _ => some response
  | .ended _, _ => none
  | .sending, .answered response => some response
  | .waiting, .answered response =>
      if style = .cancelsTask ∧ call.interrupted.isSome then none else some response
  | _, _ => none

namespace WsJsonClient

/-- The responses to an id that have reached their place, the caller first. -/
def deliveries (style : WaitFor) (client : WsJsonClient Context Payload) (messageId : String) :
    List (Response Payload) :=
  ((client.calls.get? messageId).bind (Call.answer? style)).toList ++
    (client.late.filter fun late => late.messageId = messageId).map LateResponse.response

/-- An id whose response was read on the connection it was issued on. -/
def solicited (client : WsJsonClient Context Payload) (messageId : String) : Bool :=
  (client.received.get? messageId).any Receipt.solicited

/-- The note of a call, unless it was evicted. -/
def noteOf (client : WsJsonClient Context Payload) (messageId : String)
    (call : Call Context Payload) : Option Context :=
  if messageId ∈ client.evicted then none else call.context

/-- Every response is delivered once.  What was received for an id is what reached
its caller or the hook; a caller that has its response returns it; the hook is
handed the note of the call; a note is kept until the response comes; and the
calls of a lost connection fail. -/
structure DeliversOnce (style : WaitFor) (client : WsJsonClient Context Payload) : Prop where
  once : ∀ messageId, client.deliveries style messageId =
    ((client.received.get? messageId).map Receipt.response).toList
  returned : ∀ messageId call response, client.calls.get? messageId = some call →
    call.phase = .waiting → call.answer? style = some response →
      client.resume style messageId call =
        some (client.finish messageId call (.answered response))
  handed : ∀ late ∈ client.late, ∀ call, client.calls.get? late.messageId = some call →
    client.solicited late.messageId = true →
      late.context = client.noteOf late.messageId call
  noted : ∀ messageId call, client.calls.get? messageId = some call →
    call.connection = client.connection → client.solicited messageId = false →
      client.sendContext.get? messageId = client.noteOf messageId call
  failed : ∀ messageId call, client.calls.get? messageId = some call →
    call.connection < client.connection → call.live = true → call.answer? style = none →
      call.future = .disconnected ∨ call.future = .cancelled

/-- The condition on a step: no response is read for a call whose future is
already cancelled, and no call that has its response is stopped. -/
def punctual (style : WaitFor) (client : WsJsonClient Context Payload) :
    WsEvent Context Payload → Bool
  | .response messageId _ =>
      match client.calls.get? messageId with
      | some call =>
          match call.future with
          | .cancelled => messageId ∉ client.pending
          | _ => true
      | none => true
  | .sendFails messageId _ =>
      match client.calls.get? messageId with
      | some call =>
          match call.future with
          | .answered _ => false
          | _ => true
      | none => true
  | .interrupt messageId _ =>
      match style, client.calls.get? messageId with
      | .cancelsTask, some call =>
          match call.future with
          | .answered _ => false
          | _ => true
      | _, _ => true
  | _ => true

/-! ## What the client knows of one id -/

end WsJsonClient

/-- Everything the tables of the client hold for one message id. -/
structure IdView (Context Payload : Type) where
  call? : Option (Call Context Payload)
  pending : Bool
  note? : Option Context
  late : List (LateResponse Context Payload)
  evicted : Bool
  receipt? : Option (Receipt Payload)

namespace IdView

/-- The responses that have reached their place. -/
def deliveries (style : WaitFor) (view : IdView Context Payload) : List (Response Payload) :=
  (view.call?.bind (Call.answer? style)).toList ++ view.late.map LateResponse.response

/-- The response was read on the connection the id was issued on. -/
def solicited (view : IdView Context Payload) : Bool := view.receipt?.any Receipt.solicited

/-- The note of the call, unless it was evicted. -/
def noteOf (view : IdView Context Payload) (call : Call Context Payload) : Option Context :=
  if view.evicted then none else call.context

end IdView

namespace WsJsonClient

/-- The view of an id. -/
def view (client : WsJsonClient Context Payload) (messageId : String) :
    IdView Context Payload where
  call? := client.calls.get? messageId
  pending := client.pending.contains messageId
  note? := client.sendContext.get? messageId
  late := client.late.filter fun late => late.messageId = messageId
  evicted := client.evicted.contains messageId
  receipt? := client.received.get? messageId

end WsJsonClient

/-- What holds of a call by itself: an interrupted task has a future that is done
where `wait_for` cancels the task, and what the future was given is not lost. -/
structure Call.Sound (style : WaitFor) (connection : Nat) (call : Call Context Payload) :
    Prop where
  bounded : call.connection ≤ connection
  lost : call.live = true → call.connection < connection → call.future.done = true
  current : call.live = true → call.connection = connection → call.future ≠ .disconnected
  kept : ∀ response, call.future = .answered response → call.answer? style = some response
  struck : style = .cancelsTask → call.interrupted.isSome → call.future.done = true
  idle : call.phase = .sending → call.interrupted = none
  closing : call.phase = .closing → call.future = .cancelled

/-- The invariant of one id. -/
structure IdView.Sound (style : WaitFor) (connection : Nat) (view : IdView Context Payload) :
    Prop where
  unknown : view.call? = none → view.note? = none ∧ view.pending = false ∧
    view.evicted = false ∧ view.solicited = false
  call : ∀ call, view.call? = some call → call.Sound style connection
  registered : ∀ call, view.call? = some call →
    (view.pending = true ↔ call.live = true ∧ call.connection = connection)
  once : view.deliveries style = (view.receipt?.map Receipt.response).toList
  noted : ∀ call, view.call? = some call → call.connection = connection →
    view.solicited = false → view.note? = view.noteOf call
  consumed : ∀ call, view.call? = some call →
    call.connection < connection ∨ view.solicited = true → view.note? = none
  handed : ∀ late ∈ view.late, ∀ call, view.call? = some call → view.solicited = true →
    late.context = view.noteOf call

namespace IdView

variable {style : WaitFor} {connection : Nat} {view : IdView Context Payload}

/-- Evicting the note of an id that has one. -/
theorem Sound.evict (sound : view.Sound style connection) (noted : view.note?.isSome = true) :
    { view with
      note? := none
      evicted := true }.Sound style connection where
  unknown := by
    intro absent
    rw [(sound.unknown absent).1] at noted
    contradiction
  call := sound.call
  registered := sound.registered
  once := sound.once
  noted _ _ _ _ := rfl
  consumed _ _ _ := rfl
  handed := by
    intro late member call stored solicited
    rw [sound.consumed call stored (.inr solicited)] at noted
    contradiction

/-- Changing a call but not what it answers. -/
theorem Sound.setCall (sound : view.Sound style connection) {call call' : Call Context Payload}
    (stored : view.call? = some call) (context : call'.context = call.context)
    (same : call'.connection = call.connection) (live : call'.live = call.live)
    (answer : call'.answer? style = call.answer? style)
    (changed : call'.Sound style connection) :
    { view with call? := some call' }.Sound style connection where
  unknown absent := by contradiction
  call other stored' := Option.some.inj stored' ▸ changed
  registered := by
    rintro other ⟨rfl⟩
    rw [live, same]
    exact sound.registered call stored
  once := by
    have once := sound.once
    simp only [deliveries, stored, Option.bind_some] at once ⊢
    rw [answer]
    exact once
  noted := by
    rintro other ⟨rfl⟩ current unsolicited
    rw [same] at current
    rw [noteOf, context]
    exact sound.noted call stored current unsolicited
  consumed := by
    rintro other ⟨rfl⟩ gone
    rw [same] at gone
    exact sound.consumed call stored gone
  handed := by
    rintro late member other ⟨rfl⟩ solicited
    rw [noteOf, context]
    exact sound.handed late member call stored solicited

/-- Ending a call with what it answers. -/
theorem Sound.finish (sound : view.Sound style connection) {call : Call Context Payload}
    {ending : Ending Payload} (stored : view.call? = some call)
    (answer : { call with phase := .ended ending }.answer? style = call.answer? style) :
    { view with
      call? := some { call with phase := .ended ending }
      pending := false }.Sound style connection where
  unknown absent := by contradiction
  call := by
    rintro other ⟨rfl⟩
    have before := sound.call call stored
    constructor
    case bounded => exact before.bounded
    case lost => exact fun live => by contradiction
    case current => exact fun live => by contradiction
    case kept => exact fun response given => answer.trans (before.kept response given)
    case struck => exact before.struck
    case idle => exact fun sending => by contradiction
    case closing => exact fun closing => by contradiction
  registered := by
    rintro other ⟨rfl⟩
    simp [Call.live]
  once := by
    have once := sound.once
    simp only [deliveries, stored, Option.bind_some] at once ⊢
    rw [answer]
    exact once
  noted := by
    rintro other ⟨rfl⟩
    exact sound.noted call stored
  consumed := by
    rintro other ⟨rfl⟩
    exact sound.consumed call stored
  handed := by
    rintro late member other ⟨rfl⟩
    exact sound.handed late member call stored

end IdView

/-! ## What a call answers -/

/-- The response a future holds. -/
def ResponseFuture.response? : ResponseFuture Payload → Option (Response Payload)
  | .answered response => some response
  | _ => none

section Answers

variable {style : WaitFor} {connection : Nat} {call : Call Context Payload}

/-- A call that has not ended answers what its future holds. -/
theorem Call.Sound.answer?_eq (sound : call.Sound style connection) (live : call.live = true) :
    call.answer? style = call.future.response? := by
  cases future : call.future with
  | answered response => exact sound.kept response future
  | pending => cases phase : call.phase <;> simp_all [Call.answer?, Call.live, ResponseFuture.response?]
  | disconnected =>
      cases phase : call.phase <;> simp_all [Call.answer?, Call.live, ResponseFuture.response?]
  | cancelled =>
      cases phase : call.phase <;> simp_all [Call.answer?, Call.live, ResponseFuture.response?]

/-- Ending a call with the outcome of its future keeps its answer. -/
theorem Call.Sound.answer?_outcome (sound : call.Sound style connection)
    (live : call.live = true) {ending : Ending Payload}
    (outcome : call.future.outcome = some ending) :
    { call with phase := .ended ending }.answer? style = call.answer? style := by
  rw [sound.answer?_eq live]
  cases future : call.future <;> rw [future] at outcome <;> cases outcome <;> rfl

/-- Ending a call that holds no response with an error keeps its answer. -/
theorem Call.Sound.answer?_error (sound : call.Sound style connection)
    (live : call.live = true) {ending : Ending Payload}
    (unanswered : call.future.response? = none)
    (error : ∀ response, ending ≠ .answered response) :
    { call with phase := .ended ending }.answer? style = call.answer? style := by
  rw [sound.answer?_eq live, unanswered]
  cases ending with
  | answered response => exact absurd rfl (error response)
  | _ => rfl

/-- A call that has just been registered. -/
theorem Call.sound_registered {context : Option Context} :
    ({ context
       connection
       future := .pending
       phase := .sending
       interrupted := none } : Call Context Payload).Sound style connection where
  bounded := Nat.le_refl _
  lost _ earlier := absurd earlier (Nat.lt_irrefl _)
  current _ _ disconnected := by contradiction
  kept _ given := by contradiction
  struck _ interrupted := by contradiction
  idle _ := rfl
  closing phase := by contradiction

end Answers

namespace WsJsonClient

variable {style : WaitFor} {client : WsJsonClient Context Payload} {messageId other : String}
  {call : Call Context Payload}

/-- Every id is sound. -/
def Sound (style : WaitFor) (client : WsJsonClient Context Payload) : Prop :=
  ∀ messageId, (client.view messageId).Sound style client.connection

/-! ## Views -/

theorem view_setCall : (client.setCall messageId call).view messageId =
    { client.view messageId with call? := some call } := by
  simp [view, setCall]

theorem view_setCall_of_ne (different : other ≠ messageId) :
    (client.setCall messageId call).view other = client.view other := by
  simp [view, setCall, different]

theorem view_finish {ending : Ending Payload} :
    (client.finish messageId call ending).view messageId =
      { client.view messageId with
        call? := some { call with phase := .ended ending }
        pending := false } := by
  simp [view, finish, setCall]

theorem view_finish_of_ne {ending : Ending Payload} (different : other ≠ messageId) :
    (client.finish messageId call ending).view other = client.view other := by
  simp [view, finish, setCall, different]

theorem Sound.setCall (sound : client.Sound style) {call' : Call Context Payload}
    (stored : client.calls.get? messageId = some call) (context : call'.context = call.context)
    (same : call'.connection = call.connection) (live : call'.live = call.live)
    (answer : call'.answer? style = call.answer? style)
    (changed : call'.Sound style client.connection) :
    (client.setCall messageId call').Sound style := by
  intro other
  by_cases same' : other = messageId
  · subst other
    rw [view_setCall]
    exact (sound messageId).setCall stored context same live answer changed
  · rw [view_setCall_of_ne same']
    exact sound other

theorem Sound.finish (sound : client.Sound style) {ending : Ending Payload}
    (stored : client.calls.get? messageId = some call)
    (answer : { call with phase := .ended ending }.answer? style = call.answer? style) :
    (client.finish messageId call ending).Sound style := by
  intro other
  by_cases same : other = messageId
  · subst other
    rw [view_finish]
    exact (sound messageId).finish stored answer
  · rw [view_finish_of_ne same]
    exact sound other

/-! ## Steps of a call -/

theorem sent_sound (sound : client.Sound style)
    (stored : client.calls.get? messageId = some call) (sending : call.phase = .sending) :
    (client.sent style messageId call).Sound style := by
  have before := (sound messageId).call call stored
  have live : call.live = true := by simp [Call.live, sending]
  have waits : ({ call with phase := .waiting } : Call Context Payload).Sound style
      client.connection := by
    constructor
    case bounded => exact before.bounded
    case lost => exact fun _ => before.lost live
    case current => exact fun _ => before.current live
    case kept =>
      intro response given
      simp only at given
      simp [Call.answer?, given, before.idle sending]
    case struck => exact before.struck
    case idle => exact fun phase => by contradiction
    case closing => exact fun phase => by contradiction
  have suspended : (client.setCall messageId { call with phase := .waiting }).Sound style := by
    refine sound.setCall stored ?_ ?_ ?_ ?_ waits
    · rfl
    · rfl
    · simp [Call.live, sending]
    · rw [before.answer?_eq live, waits.answer?_eq rfl]
  unfold sent
  split
  · rename_i outcome
    exact sound.finish stored (before.answer?_outcome live outcome)
  · exact suspended

theorem sendFails_sound (sound : client.Sound style) {cancelled : Bool}
    (stored : client.calls.get? messageId = some call) (sending : call.phase = .sending)
    (unanswered : call.future.response? = none) :
    (client.finish messageId call (if cancelled then .cancelled else .sendFailed)).Sound
      style := by
  have live : call.live = true := by simp [Call.live, sending]
  apply sound.finish stored
  apply ((sound messageId).call call stored).answer?_error live unanswered
  cases cancelled <;> simp

/-- The wait of a call is interrupted before it has a response, or where the
response wins. -/
theorem interrupt_sound (sound : client.Sound style) {interruption : Interruption}
    (stored : client.calls.get? messageId = some call)
    (suspended : call.phase = .waiting ∨ call.phase = .closing)
    (allowed : style = .cancelsTask → call.future.response? = none) :
    (client.interrupt style messageId call interruption).Sound style := by
  have before := (sound messageId).call call stored
  have live : call.live = true := by
    rcases suspended with phase | phase <;> simp [Call.live, phase]
  have notSending : call.phase ≠ .sending := by
    rcases suspended with phase | phase <;> simp [phase]
  by_cases cancels : style = .cancelsTask ∧ call.future = .pending
  · rcases cancels with ⟨rfl, pending⟩
    have struck : ({ call with
        future := .cancelled
        interrupted := some (interruption.after call.interrupted) } :
          Call Context Payload).Sound .cancelsTask client.connection := by
      constructor
      case bounded => exact before.bounded
      case lost => exact fun _ _ => rfl
      case current => exact fun _ _ cancelled => by contradiction
      case kept => exact fun _ given => by contradiction
      case struck => exact fun _ _ => rfl
      case idle => exact fun phase => absurd phase notSending
      case closing => exact fun _ => rfl
    simp only [interrupt, pending]
    refine sound.setCall stored ?_ ?_ ?_ ?_ struck
    · rfl
    · rfl
    · rfl
    · rw [before.answer?_eq live, struck.answer?_eq live, pending]
      rfl
  · have done : style = .cancelsTask → call.future.done = true := by
      intro same
      cases future : call.future with
      | pending => exact absurd ⟨same, future⟩ cancels
      | _ => rfl
    have same : client.interrupt style messageId call interruption =
        client.setCall messageId
          { call with interrupted := some (interruption.after call.interrupted) } := by
      unfold interrupt
      split
      · rename_i pending
        exact absurd ⟨rfl, pending⟩ cancels
      · rfl
    have struck : ({ call with interrupted := some (interruption.after call.interrupted) } :
        Call Context Payload).Sound style client.connection := by
      constructor
      case bounded => exact before.bounded
      case lost => exact before.lost
      case current => exact before.current
      case kept =>
        intro response given
        cases style with
        | cancelsTask =>
            have unanswered := allowed rfl
            simp only at given
            rw [given] at unanswered
            contradiction
        | releasesWaiter =>
            have answer := before.kept response given
            rcases suspended with phase | phase
            · simp only at given
              simp [Call.answer?, phase, given]
            · rw [before.closing phase] at given
              contradiction
      case struck => exact fun cancels _ => done cancels
      case idle => exact fun phase => absurd phase notSending
      case closing => exact before.closing
    rw [same]
    refine sound.setCall stored ?_ ?_ ?_ ?_ struck
    · rfl
    · rfl
    · rfl
    · rw [before.answer?_eq live, struck.answer?_eq live]

/-- A call that was interrupted ends with an error. -/
theorem Interruption.ending_ne {interruption : Interruption} (response : Response Payload) :
    (interruption.ending : Ending Payload) ≠ .answered response := by
  cases interruption <;> exact fun same => by contradiction

theorem resume_sound (sound : client.Sound style) {next : WsJsonClient Context Payload}
    (stored : client.calls.get? messageId = some call)
    (resumed : client.resume style messageId call = some next) : next.Sound style := by
  have before := (sound messageId).call call stored
  cases phase : call.phase with
  | sending => simp [resume, phase] at resumed
  | ended ending => simp [resume, phase] at resumed
  | closing =>
      have live : call.live = true := by simp [Call.live, phase]
      have unanswered : call.future.response? = none := by
        rw [before.closing phase]
        rfl
      simp only [resume, phase, Option.map_eq_some_iff] at resumed
      rcases resumed with ⟨interruption, -, rfl⟩
      exact sound.finish stored
        (before.answer?_error live unanswered Interruption.ending_ne)
  | waiting =>
      have live : call.live = true := by simp [Call.live, phase]
      cases style with
      | cancelsTask =>
          cases interrupted : call.interrupted with
          | none =>
              simp only [resume, phase, interrupted, Option.map_eq_some_iff] at resumed
              rcases resumed with ⟨ending, outcome, rfl⟩
              exact sound.finish stored (before.answer?_outcome live outcome)
          | some interruption =>
              -- An interrupted task holds no response, or its answer would be lost.
              have unanswered : call.future.response? = none := by
                rw [← before.answer?_eq live]
                cases future : call.future <;> simp [Call.answer?, phase, future, interrupted]
              simp only [resume, phase, interrupted, Option.some.injEq] at resumed
              subst next
              exact sound.finish stored
                (before.answer?_error live unanswered Interruption.ending_ne)
      | releasesWaiter =>
          cases outcome : call.future.outcome with
          | some ending =>
              simp only [resume, phase, outcome, Option.some.injEq] at resumed
              subst next
              exact sound.finish stored (before.answer?_outcome live outcome)
          | none =>
              have pending : call.future = .pending := by
                cases future : call.future <;> simp [future, ResponseFuture.outcome] at outcome ⊢
              cases interrupted : call.interrupted with
              | none => simp [resume, phase, outcome, interrupted] at resumed
              | some interruption =>
                  obtain rfl : client.setCall messageId
                      { call with
                        future := .cancelled
                        phase := .closing } = next := by
                    simpa only [resume, phase, outcome, interrupted, Option.some.injEq] using
                      resumed
                  have closes : ({ call with
                      future := .cancelled
                      phase := .closing } : Call Context Payload).Sound .releasesWaiter
                        client.connection := by
                    constructor
                    case bounded => exact before.bounded
                    case lost => exact fun _ _ => rfl
                    case current => exact fun _ _ cancelled => by contradiction
                    case kept => exact fun _ given => by contradiction
                    case struck => exact fun cancels => by contradiction
                    case idle => exact fun sending => by contradiction
                    case closing => exact fun _ => rfl
                  refine sound.setCall stored ?_ ?_ ?_ ?_ closes
                  · rfl
                  · rfl
                  · exact live.symm
                  · rw [before.answer?_eq live, closes.answer?_eq rfl, pending]
                    rfl

/-! ## A new call -/

/-- Making room in the notes does not touch the calls. -/
theorem register_evictOldest {context : Option Context} :
    client.evictOldest.register messageId context =
      (client.register messageId context).evictOldest := by
  unfold evictOldest register setCall
  cases client.sendContext.keys <;> rfl

theorem register_evict {context : Option Context} (times : Nat) :
    (evictOldest^[times] client).register messageId context =
      evictOldest^[times] (client.register messageId context) := by
  induction times generalizing client with
  | zero => rfl
  | succ times ih => rw [Function.iterate_succ_apply, ih, register_evictOldest]; rfl

theorem evictOldest_sound (sound : client.Sound style) : client.evictOldest.Sound style := by
  intro other
  have before := sound other
  unfold evictOldest
  cases keys : client.sendContext.keys with
  | nil => exact before
  | cons oldest rest =>
      by_cases same : other = oldest
      · subst other
        have noted : oldest ∈ client.sendContext.keys := by simp [keys]
        obtain ⟨note, found⟩ := InsertionMap.mem_keys_iff.mp noted
        have evicted := before.evict (by simp [view, found])
        simpa [view] using evicted
      · simpa [view, same] using before

theorem evict_sound (sound : client.Sound style) (times : Nat) :
    (evictOldest^[times] client).Sound style := by
  induction times generalizing client with
  | zero => exact sound
  | succ times ih =>
      rw [Function.iterate_succ_apply]
      exact ih (evictOldest_sound sound)

/-- A new call, with its note in the table. -/
theorem register_sound (sound : client.Sound style) {context : Option Context}
    {notes : InsertionMap String Context} (unissued : client.calls.get? messageId = none)
    (note : notes.get? messageId = context)
    (others : ∀ other, other ≠ messageId → notes.get? other = client.sendContext.get? other) :
    ({ client with sendContext := notes }.register messageId context).Sound style := by
  intro other
  have before := sound other
  by_cases same : other = messageId
  · subst other
    obtain ⟨-, -, unevicted, unsolicited⟩ := before.unknown unissued
    have unread : (client.view messageId).deliveries style =
        (client.view messageId).late.map LateResponse.response := by
      simp [IdView.deliveries, view, unissued]
    constructor
    case unknown => simp [view, register, setCall]
    case call =>
      intro call stored
      simp only [view, register, setCall, InsertionMap.get?_set_self, Option.some.injEq] at stored
      subst call
      exact Call.sound_registered
    case registered => simp [view, register, setCall, Call.live]
    case once =>
      have once := before.once
      rw [unread] at once
      simpa [view, register, setCall, IdView.deliveries, Call.answer?] using once
    case noted =>
      intro call stored _ _
      simp only [view, register, setCall, InsertionMap.get?_set_self, Option.some.injEq] at stored
      subst call
      have kept : messageId ∉ client.evicted := by simpa [view] using unevicted
      simp [view, register, setCall, note, IdView.noteOf, kept]
    case consumed =>
      intro call stored gone
      simp only [view, register, setCall, InsertionMap.get?_set_self, Option.some.injEq] at stored
      subst call
      rcases gone with earlier | solicited
      · exact absurd earlier (Nat.lt_irrefl _)
      · exact absurd (unsolicited.symm.trans solicited) (by simp)
    case handed =>
      intro late member call stored solicited
      exact absurd (unsolicited.symm.trans solicited) (by simp)
  · simpa [view, register, setCall, same, others other same] using before

theorem requestFrame_sound (sound : client.Sound style) {context : Option Context}
    (unissued : client.calls.get? messageId = none) :
    (client.requestFrame messageId context).Sound style := by
  unfold requestFrame
  split
  · cases context with
    | none => exact register_sound sound unissued ((sound messageId).unknown unissued).1 fun _ _ => rfl
    | some note =>
        simp only [rememberSendContext, register_evict]
        apply evict_sound
        apply register_sound sound unissued (InsertionMap.get?_set_self _ _ _)
        intro other different
        simp [different]
  · exact sound

/-! ## A response -/

theorem view_receive_of_ne {response : Response Payload} (different : other ≠ messageId) :
    (client.receive messageId response).view other = client.view other := by
  have notHere : ¬messageId = other := fun same => different same.symm
  simp only [receive, dispatch, logUnmatched]
  split
  · split
    · simp [view, different]
    · split <;> simp [view, setCall, different]
  · simp [view, different, notHere]

theorem connection_receive {response : Response Payload} :
    (client.receive messageId response).connection = client.connection := by
  simp only [receive, dispatch, logUnmatched]
  split
  · split
    · rfl
    · split <;> rfl
  · rfl

/-- Nothing has reached a place for an id whose response has not been read. -/
theorem Sound.unread (sound : client.Sound style)
    (unread : client.received.get? messageId = none) :
    (client.calls.get? messageId).bind (Call.answer? style) = none ∧
      (client.view messageId).late = [] := by
  have once := (sound messageId).once
  simp only [IdView.deliveries, view, unread, Option.map_none, Option.toList_none,
    List.append_eq_nil_iff, Option.toList_eq_nil_iff, List.map_eq_nil_iff] at once
  exact once

/-- A response of a registered call settles its future. -/
theorem answered_sound (sound : client.Sound style) (response : Response Payload)
    (stored : client.calls.get? messageId = some call) (live : call.live = true)
    (pending : call.future = .pending) (unread : client.received.get? messageId = none) :
    { client.view messageId with
      call? := some { call with future := .answered response }
      note? := none
      receipt? := some ⟨response, true⟩ }.Sound style client.connection := by
  have before := (sound messageId).call call stored
  obtain ⟨-, noLate⟩ := sound.unread unread
  have answer : { call with future := .answered response }.answer? style = some response := by
    cases phase : call.phase with
    | sending => simp [Call.answer?]
    | waiting =>
        have uninterrupted : ¬(style = .cancelsTask ∧ call.interrupted.isSome = true) := by
          rintro ⟨cancels, interrupted⟩
          have done := before.struck cancels interrupted
          rw [pending] at done
          contradiction
        simp [Call.answer?, uninterrupted]
    | closing =>
        have cancelled := before.closing phase
        rw [pending] at cancelled
        contradiction
    | ended ending => simp [Call.live, phase] at live
  constructor
  case unknown => exact fun absent => by contradiction
  case call =>
    rintro other ⟨rfl⟩
    constructor
    case bounded => exact before.bounded
    case lost => exact fun _ _ => rfl
    case current => exact fun _ _ disconnected => by contradiction
    case kept =>
      rintro other ⟨rfl⟩
      exact answer
    case struck => exact fun _ _ => rfl
    case idle => exact before.idle
    case closing =>
      intro phase
      have cancelled := before.closing phase
      rw [pending] at cancelled
      contradiction
  case registered =>
    rintro other ⟨rfl⟩
    exact (sound messageId).registered call stored
  case once => simp [IdView.deliveries, answer, noLate]
  case noted =>
    intro other _ _ unsolicited
    contradiction
  case consumed => exact fun _ _ _ => rfl
  case handed =>
    intro late member
    rw [noLate] at member
    contradiction

/-- A response nobody waits for goes to the hook, with the note of its call. -/
theorem unmatched_sound (sound : client.Sound style) (response : Response Payload)
    (unread : client.received.get? messageId = none) :
    { client.view messageId with
      note? := none
      late := [⟨messageId, client.sendContext.get? messageId, response⟩]
      receipt? := some ⟨response, client.issued messageId⟩ }.Sound style client.connection := by
  have before := sound messageId
  obtain ⟨noAnswer, -⟩ := sound.unread unread
  constructor
  case unknown =>
    intro absent
    obtain ⟨-, unregistered, unevicted, -⟩ := before.unknown absent
    have unissued : client.issued messageId = false := by
      rw [issued, show client.calls.get? messageId = none from absent]
      rfl
    exact ⟨rfl, unregistered, unevicted, by simp [IdView.solicited, unissued]⟩
  case call => exact before.call
  case registered => exact before.registered
  case once => simp [IdView.deliveries, view, noAnswer]
  case noted =>
    intro call stored current unsolicited
    have issuedHere : client.issued messageId = true := by
      rw [issued, show client.calls.get? messageId = some call from stored]
      simpa using current
    simp [IdView.solicited, issuedHere] at unsolicited
  case consumed => exact fun _ _ _ => rfl
  case handed =>
    intro late member call stored solicited
    obtain rfl := List.mem_singleton.mp member
    have current : call.connection = client.connection := by
      simpa [IdView.solicited, issued, show client.calls.get? messageId = some call from stored]
        using solicited
    exact before.noted call stored current (by simp [IdView.solicited, view, unread])

theorem receive_sound (sound : client.Sound style) {response : Response Payload}
    (unread : client.received.get? messageId = none)
    (onTime : punctual style client (.response messageId response) = true) :
    (client.receive messageId response).Sound style := by
  intro other
  rw [connection_receive]
  by_cases same : other = messageId
  · subst other
    have before := sound messageId
    obtain ⟨noAnswer, noLate⟩ := sound.unread unread
    by_cases registered : messageId ∈ client.pending
    · cases stored : client.calls.get? messageId with
      | none =>
          have unregistered := (before.unknown stored).2.1
          simp [view, registered] at unregistered
      | some call =>
          obtain ⟨live, current⟩ :=
            (before.registered call stored).mp (by simp [view, registered])
          have callSound := before.call call stored
          have pending : call.future = .pending := by
            cases future : call.future with
            | pending => rfl
            | answered earlier =>
                rw [stored, Option.bind_some, callSound.kept earlier future] at noAnswer
                contradiction
            | disconnected => exact absurd future (callSound.current live current)
            | cancelled => simp [punctual, stored, future, registered] at onTime
          have issuedHere : client.issued messageId = true := by
            simpa [issued, stored] using current
          have after := answered_sound sound response stored live pending unread
          simpa [receive, dispatch, registered, stored, pending, ResponseFuture.done, setCall,
            view, issuedHere] using after
    · have after := unmatched_sound sound response unread
      simp only [view] at noLate
      simpa [receive, dispatch, registered, logUnmatched, view, noLate] using after
  · rw [view_receive_of_ne same]
    exact sound other

/-! ## A lost connection -/

theorem markDisconnected_sound (sound : client.Sound style) :
    client.markDisconnected.Sound style := by
  intro messageId
  have before := sound messageId
  have calls : (client.markDisconnected.view messageId).call? =
      (client.calls.get? messageId).map (client.failCall messageId) := by
    simp only [view, markDisconnected, InsertionMap.get?_mapValues]
  have failed : ∀ call, client.calls.get? messageId = some call →
      (client.failCall messageId call).context = call.context ∧
        (client.failCall messageId call).connection = call.connection ∧
        (client.failCall messageId call).answer? style = call.answer? style ∧
        (client.failCall messageId call).Sound style (client.connection + 1) := by
    intro call stored
    have callSound := before.call call stored
    unfold failCall
    split
    · rename_i fails
      obtain ⟨registered, notDone⟩ := fails
      obtain ⟨live, current⟩ :=
        (before.registered call stored).mp (by simp [view, registered])
      have pending : call.future = .pending := by
        cases future : call.future <;> simp [future, ResponseFuture.done] at notDone ⊢
      have sound' : ({ call with future := .disconnected } : Call Context Payload).Sound style
          (client.connection + 1) := by
        constructor
        case bounded => exact Nat.le_succ_of_le callSound.bounded
        case lost => exact fun _ _ => rfl
        case current =>
          intro _ next
          exact absurd (current.symm.trans next) (Nat.succ_ne_self _).symm
        case kept => exact fun _ given => by contradiction
        case struck => exact fun _ _ => rfl
        case idle => exact callSound.idle
        case closing =>
          intro phase
          have cancelled := callSound.closing phase
          rw [pending] at cancelled
          contradiction
      refine ⟨rfl, rfl, ?_, sound'⟩
      rw [sound'.answer?_eq live, callSound.answer?_eq live, pending]
      rfl
    · rename_i stays
      refine ⟨rfl, rfl, rfl, ?_⟩
      constructor
      case bounded => exact Nat.le_succ_of_le callSound.bounded
      case lost =>
        intro live _
        rcases Nat.lt_or_eq_of_le callSound.bounded with earlier | current
        · exact callSound.lost live earlier
        · have registered : messageId ∈ client.pending := by
            have member := (before.registered call stored).mpr ⟨live, current⟩
            simpa [view] using member
          by_contra notDone
          exact stays ⟨registered, notDone⟩
      case current =>
        intro _ next
        exact absurd (next ▸ callSound.bounded) (Nat.not_succ_le_self _)
      case kept => exact callSound.kept
      case struck => exact callSound.struck
      case idle => exact callSound.idle
      case closing => exact callSound.closing
  constructor
  case unknown =>
    intro absent
    rw [calls, Option.map_eq_none_iff] at absent
    obtain ⟨-, -, unevicted, unsolicited⟩ := before.unknown absent
    exact ⟨rfl, rfl, unevicted, unsolicited⟩
  case call =>
    intro call stored
    rw [calls, Option.map_eq_some_iff] at stored
    obtain ⟨original, found, rfl⟩ := stored
    exact (failed original found).2.2.2
  case registered =>
    intro call stored
    rw [calls, Option.map_eq_some_iff] at stored
    obtain ⟨original, found, rfl⟩ := stored
    have bounded := (before.call original found).bounded
    constructor
    · exact fun registered => by contradiction
    · rintro ⟨-, next⟩
      rw [(failed original found).2.1] at next
      exact absurd (next ▸ bounded) (Nat.not_succ_le_self _)
  case once =>
    have once := before.once
    simp only [IdView.deliveries, calls] at once ⊢
    cases found : client.calls.get? messageId with
    | none => simpa [view, found, markDisconnected] using once
    | some call =>
        simpa [view, found, markDisconnected, (failed call found).2.2.1] using once
  case noted =>
    intro call stored next
    rw [calls, Option.map_eq_some_iff] at stored
    obtain ⟨original, found, rfl⟩ := stored
    rw [(failed original found).2.1] at next
    exact absurd (next ▸ (before.call original found).bounded) (Nat.not_succ_le_self _)
  case consumed => exact fun _ _ _ => rfl
  case handed =>
    intro late member call stored solicited
    rw [calls, Option.map_eq_some_iff] at stored
    obtain ⟨original, found, rfl⟩ := stored
    have handed := before.handed late member original found solicited
    rw [handed, IdView.noteOf, IdView.noteOf, (failed original found).1]
    rfl

/-! ## Runs -/

theorem fresh_sound : (fresh : WsJsonClient Context Payload).Sound style := by
  intro messageId
  constructor <;> simp [view, fresh, IdView.deliveries, IdView.solicited]

/-- A call of which a condition on its future is decided. -/
theorem response?_of_not_answered {future : ResponseFuture Payload}
    (unanswered : (match future with
      | .answered _ => false
      | _ => true) = true) : future.response? = none := by
  cases future with
  | answered response => contradiction
  | _ => rfl

theorem step_sound (sound : client.Sound style) {event : WsEvent Context Payload}
    {next : WsJsonClient Context Payload} (onTime : punctual style client event = true)
    (taken : step style client event = some next) : next.Sound style := by
  cases event with
  | connect =>
      obtain rfl := Option.some.inj taken
      exact sound
  | request messageId context =>
      simp only [step] at taken
      split at taken
      · contradiction
      · rename_i unissued
        obtain rfl := Option.some.inj taken
        apply requestFrame_sound sound
        rw [InsertionMap.has_iff] at unissued
        exact InsertionMap.get?_eq_none_iff.mpr unissued
  | sent messageId =>
      simp only [step] at taken
      split at taken
      · rename_i call stored
        split at taken
        · rename_i sending
          obtain rfl := Option.some.inj taken
          exact sent_sound sound stored sending
        · contradiction
      · contradiction
  | sendFails messageId cancelled =>
      simp only [step] at taken
      split at taken
      · rename_i call stored
        split at taken
        · rename_i sending
          obtain rfl := Option.some.inj taken
          simp only [punctual, stored] at onTime
          exact sendFails_sound sound stored sending (response?_of_not_answered onTime)
        · contradiction
      · contradiction
  | interrupt messageId interruption =>
      simp only [step] at taken
      split at taken
      · rename_i call stored
        have allowed : style = .cancelsTask → call.future.response? = none := by
          rintro rfl
          simp only [punctual, stored] at onTime
          exact response?_of_not_answered onTime
        split at taken
        · rename_i waiting
          obtain rfl := Option.some.inj taken
          exact interrupt_sound sound stored (.inl waiting) allowed
        · rename_i closing
          obtain rfl := Option.some.inj taken
          exact interrupt_sound sound stored (.inr closing) allowed
        · contradiction
      · contradiction
  | resume messageId =>
      obtain ⟨call, stored, resumed⟩ := Option.bind_eq_some_iff.mp taken
      exact resume_sound sound stored resumed
  | response messageId response =>
      simp only [step] at taken
      split at taken
      · contradiction
      · rename_i unread
        obtain rfl := Option.some.inj taken
        rw [InsertionMap.has_iff] at unread
        exact receive_sound sound (InsertionMap.get?_eq_none_iff.mpr unread) onTime
  | disconnect =>
      obtain rfl := Option.some.inj taken
      exact markDisconnected_sound sound

/-- A call that waits and has its response returns it when its task goes on. -/
theorem resume_answered (sound : client.Sound style) {response : Response Payload}
    (stored : client.calls.get? messageId = some call) (waiting : call.phase = .waiting)
    (answer : call.answer? style = some response) :
    client.resume style messageId call =
      some (client.finish messageId call (.answered response)) := by
  have live : call.live = true := by simp [Call.live, waiting]
  have given := answer
  rw [((sound messageId).call call stored).answer?_eq live] at given
  have future : call.future = .answered response := by
    cases future : call.future with
    | answered held =>
        rw [future] at given
        rw [Option.some.inj given]
    | _ => simp [future, ResponseFuture.response?] at given
  cases style with
  | releasesWaiter => simp [resume, waiting, future, ResponseFuture.outcome]
  | cancelsTask =>
      cases interrupted : call.interrupted with
      | none => simp [resume, waiting, future, interrupted, ResponseFuture.outcome]
      | some interruption => simp [Call.answer?, waiting, future, interrupted] at answer

theorem Sound.deliversOnce (sound : client.Sound style) : DeliversOnce style client where
  once messageId := (sound messageId).once
  returned _ _ _ stored waiting answer := resume_answered sound stored waiting answer
  handed late member call stored solicited := by
    have here : late ∈ (client.view late.messageId).late := by simp [view, member]
    have handed := (sound late.messageId).handed late here call stored solicited
    simpa [IdView.noteOf, noteOf, view] using handed
  noted messageId call stored current unsolicited := by
    have noted := (sound messageId).noted call stored current unsolicited
    simpa [IdView.noteOf, noteOf, view] using noted
  failed messageId call stored earlier live noAnswer := by
    have callSound := (sound messageId).call call stored
    have done := callSound.lost live earlier
    rw [callSound.answer?_eq live] at noAnswer
    cases future : call.future with
    | pending => simp [future, ResponseFuture.done] at done
    | answered response => simp [future, ResponseFuture.response?] at noAnswer
    | disconnected => exact .inl rfl
    | cancelled => exact .inr rfl

/-- In every state reached by steps that keep out of the two windows, every
response has been delivered once. -/
theorem deliversOnce_of_punctual_run {events : List (WsEvent Context Payload)}
    {final : WsJsonClient Context Payload}
    (run : RunWhere (step style) (fun client event => punctual style client event = true) fresh
      events final) : DeliversOnce style final := by
  have sound : final.Sound style := by
    apply @RunWhere.invariant _ _ _ _ _ (fun client => client.Sound style) fresh_sound _ _ _ run
    intro client event next sound onTime taken
    exact step_sound sound onTime taken
  exact sound.deliversOnce

/-- One call is answered after its deadline, the next in time, and the third is
waiting when the connection is lost. -/
def threeCalls : List (WsEvent String String) :=
  [.connect, .request "1" (some "commission"), .sent "1", .interrupt "1" .timeout, .resume "1",
    .response "1" (.ok "node 7"), .request "2" none, .response "2" (.error (50, "boom")),
    .sent "2", .request "3" (some "share"), .sent "3", .disconnect, .resume "3"]

theorem deliversOnce_threeCalls :
    DeliversOnce .cancelsTask
      ((follow (step .cancelsTask) (fun client event => punctual .cancelsTask client event = true)
        fresh threeCalls).getD fresh) :=
  deliversOnce_of_punctual_run (runWhere_follow_getD (by decide +kernel) fresh)

/-- A call is answered after its future was cancelled and before its task goes on. -/
def answeredInBetween : WaitFor → List (WsEvent String String)
  | .cancelsTask =>
      [.connect, .request "1" (some "commission"), .sent "1", .interrupt "1" .timeout,
        .response "1" (.ok "node 7"), .resume "1"]
  | .releasesWaiter =>
      [.connect, .request "1" (some "commission"), .sent "1", .interrupt "1" .timeout,
        .resume "1", .response "1" (.ok "node 7"), .resume "1"]

/-- Such a response reaches nobody, whichever way `wait_for` ends a wait. -/
theorem response_is_let_go :
    ¬ ∃ style : WaitFor, ∀ (events : List (WsEvent String String))
      (final : WsJsonClient String String),
        Run (step style) fresh events final → DeliversOnce style final := by
  rintro ⟨style, claimed⟩
  have run : Run (step style) fresh (answeredInBetween style)
      ((follow (step style) (fun _ _ => True) fresh (answeredInBetween style)).getD fresh) :=
    runWhere_follow_getD (by cases style <;> decide +kernel) fresh
  have once := congrArg List.length ((claimed _ _ run).once "1")
  cases style <;> exact absurd once (by decide +kernel)

end WsJsonClient

end IndigoMatter.Plugin
