import IndigoMatter.Plugin.UnExport

/-!
# The un-export debt is paid before it is cleared

An attach pays the debt when it carried `replace_all` and its list was built after
the last un-export was recorded.  What clears the debt is weaker: an attach that
carries the opt-in because of a debt read after its list was built also clears what
was recorded in between.  The runs without such a completion pay before they clear,
and the agent is stopped in them for one of four reasons only.
-/

namespace IndigoMatter.Plugin

open IndigoMatter.Library

namespace ExportBridge

variable {bridge next : ExportBridge} {client : BridgeClient} {attach : Attach}
  {rest : List Attach}

/-! ## What the debt and the agent have to do with attaches -/

/-- An attach that carried the opt-in, with a list that an un-export has overtaken:
recorded after the list was built, or with the allow-list emptied since. -/
def overtaken (bridge : ExportBridge) (attach : Attach) : Bool :=
  decide (attach.builtAt ≠ bridge.recordings) ||
    (bridge.store.isEmpty && !attach.specs.isEmpty)

/-- Such an attach completes while a debt is recorded. -/
def slips (bridge : ExportBridge) : ExportEvent → Bool
  | .succeed =>
      bridge.client.any fun client => client.inFlight.head?.any fun attach =>
        attach.replaceAll && decide (0 < bridge.debt) && bridge.overtaken attach &&
          decide (attach.purpose ≠ .unExport)
  | _ => false

/-- The first attach in flight carried the opt-in, and its list was built after every
un-export that has been recorded. -/
def Covers (bridge : ExportBridge) (attach : Attach) : Prop :=
  (∃ client rest, bridge.client = some client ∧ client.inFlight = attach :: rest) ∧
    attach.replaceAll = true ∧ attach.builtAt = bridge.recordings

/-- The debt is cleared by nothing but the success of an attach that covers it. -/
def Paid (bridge : ExportBridge) (event : ExportEvent) (next : ExportBridge) : Prop :=
  next.debt < bridge.debt →
    event = .succeed ∧ ∃ attach, bridge.Covers attach ∧ next.served = attach.specs

/-- The bridge itself stops the agent. -/
def AgentStops (bridge : ExportBridge) (event : ExportEvent) (next : ExportBridge) : Prop :=
  bridge.agentStarted = true ∧ next.agentStarted = false ∧ event ≠ .agentStopped

/-- The reasons for which the agent is stopped: export is switched off, an empty list
has been served with the opt-in, or an un-export has ended whose removals are
still owed or have been discharged since. -/
def GoodReason (bridge : ExportBridge) (event : ExportEvent) (next : ExportBridge) : Prop :=
  (∃ scheduled served, event = .exportsChanged scheduled served ∧ bridge.enabled = false) ∨
  (event = .succeed ∧ (∃ attach, bridge.Covers attach) ∧ next.store = [] ∧ next.served = []) ∨
  (event = .finishUnExport ∧ ∃ unExport, bridge.unExporting = some unExport ∧
    (unExport.discharged = true ∨ unExport.removing ≤ next.debt))

/-- The node serves only accessories of the allow-list. -/
def ServesListed (bridge : ExportBridge) : Prop :=
  ∀ device ∈ bridge.served, device ∈ bridge.store

/-! ## The books -/

/-- The attach of an un-export carries the opt-in and an empty list, and nothing has
been recorded since; no other attach poses as one. -/
structure ClientAccounted (recordings : Nat) (removes : Bool) (client : BridgeClient) : Prop where
  gathered : ∀ purpose specs builtAt, client.phase = .gathered purpose specs builtAt →
    purpose ≠ .unExport
  carried : ∀ attach ∈ client.inFlight, attach.purpose = .unExport →
    attach.replaceAll = true ∧ attach.builtAt = recordings ∧ attach.specs = [] ∧ removes = true

/-- An un-export under way is owed until the debt has been cleared. -/
structure Accounted (bridge : ExportBridge) : Prop where
  owed : ∀ unExport, bridge.unExporting = some unExport → unExport.discharged = false →
    unExport.removing ≤ bridge.debt
  clientAccounted : ∀ client, bridge.client = some client →
    ClientAccounted bridge.recordings bridge.unExporting.isSome client

theorem accounted_fresh (store : List Int) (enabled : Bool) (debt : Nat) (served : List Int) :
    (fresh store enabled debt served).Accounted := by
  constructor
  · intro unExport none
    cases none
  · intro client none
    cases none

theorem clientAccounted_of_idle {recordings : Nat} {removes : Bool}
    (phase : ∀ purpose specs builtAt, client.phase = .gathered purpose specs builtAt →
      purpose ≠ .unExport) (idle : client.inFlight = []) :
    ClientAccounted recordings removes client := by
  constructor
  · exact phase
  · intro attach inFlight
    rw [idle] at inFlight
    cases inFlight

/-- The client may lose attaches and change its phase. -/
theorem ClientAccounted.shrink {recordings : Nat} {removes : Bool}
    (holds : ClientAccounted recordings removes client) {phase : Phase}
    (calm : ∀ purpose specs builtAt, phase = .gathered purpose specs builtAt →
      purpose ≠ .unExport) {fewer : List Attach} (sub : fewer ⊆ client.inFlight) :
    ClientAccounted recordings removes ⟨phase, fewer⟩ := by
  constructor
  · exact calm
  · intro attach inFlight
    exact holds.carried attach (sub inFlight)

theorem ClientAccounted.append {recordings : Nat} {removes : Bool}
    (holds : ClientAccounted recordings removes client) {phase : Phase}
    (calm : ∀ purpose specs builtAt, phase = .gathered purpose specs builtAt →
      purpose ≠ .unExport)
    (fits : attach.purpose = .unExport →
      attach.replaceAll = true ∧ attach.builtAt = recordings ∧ attach.specs = [] ∧
        removes = true) :
    ClientAccounted recordings removes ⟨phase, client.inFlight ++ [attach]⟩ := by
  constructor
  · exact calm
  · intro other inFlight
    rcases List.mem_append.mp inFlight with old | new
    · exact holds.carried other old
    · rw [List.mem_singleton.mp new]
      exact fits

/-- A step that leaves the debt and the un-export alone keeps the books when the new
client does. -/
theorem Accounted.withClient (holds : bridge.Accounted)
    (unExporting : next.unExporting = bridge.unExporting) (debt : next.debt = bridge.debt)
    (clientAccounted : ∀ client, next.client = some client →
      ClientAccounted next.recordings next.unExporting.isSome client) : next.Accounted := by
  constructor
  · intro unExport under
    rw [debt]
    exact holds.owed unExport (unExporting ▸ under)
  · exact clientAccounted

theorem Accounted.withoutClient (holds : bridge.Accounted)
    (unExporting : next.unExporting = bridge.unExporting) (debt : next.debt = bridge.debt)
    (client : next.client = none) : next.Accounted := by
  apply holds.withClient unExporting debt
  intro other some
  rw [client] at some
  cases some

/-- A step that touches neither the books nor the client. -/
theorem Accounted.of_same (holds : bridge.Accounted)
    (unExporting : next.unExporting = bridge.unExporting) (debt : next.debt = bridge.debt)
    (client : next.client = bridge.client) (recordings : next.recordings = bridge.recordings) :
    next.Accounted := by
  apply holds.withClient unExporting debt
  intro other some
  rw [recordings, unExporting]
  exact holds.clientAccounted other (client ▸ some)

theorem Accounted.start (holds : bridge.Accounted) : bridge.start.Accounted := by
  unfold ExportBridge.start
  split
  · exact holds.of_same rfl rfl rfl rfl
  · split
    · exact holds
    · split
      · refine holds.withClient rfl rfl ?_
        intro client new
        cases new
        apply clientAccounted_of_idle _ rfl
        intro purpose specs builtAt gathered
        cases gathered
      · exact holds

@[simp]
theorem start_debt (bridge : ExportBridge) : bridge.start.debt = bridge.debt := by
  unfold start
  split
  · rfl
  · split
    · rfl
    · split <;> rfl

theorem agentStarted_start (started : bridge.agentStarted = true) :
    bridge.start.agentStarted = true := by
  unfold start
  split
  · exact started
  · split
    · exact started
    · split
      · rfl
      · exact started

@[simp]
theorem closeClient_debt (bridge : ExportBridge) : bridge.closeClient.debt = bridge.debt := rfl

theorem serveLost_eq (served : Nat) (bridge : ExportBridge) :
    ∃ serves, bridge.serveLost served = { bridge with served := serves } := by
  unfold serveLost
  split
  · exact ⟨bridge.served, rfl⟩
  · exact ⟨_, rfl⟩

theorem Accounted.serveLost (holds : bridge.Accounted) (served : Nat) :
    (bridge.serveLost served).Accounted := by
  rcases serveLost_eq served bridge with ⟨serves, same⟩
  rw [same]
  exact holds.of_same rfl rfl rfl rfl

theorem Accounted.failUnExport (holds : bridge.Accounted) : bridge.failUnExport.Accounted := by
  constructor
  · intro unExport under
    rcases Option.map_eq_some_iff.mp under with ⟨before, was, rfl⟩
    exact holds.owed before was
  · intro client none
    cases none

theorem Accounted.clear (holds : bridge.Accounted) :
    bridge.clearPendingReplaceAll.Accounted := by
  constructor
  · intro unExport under owes
    rcases Option.map_eq_some_iff.mp under with ⟨before, was, rfl⟩
    cases owes
  · intro client some
    have before := holds.clientAccounted client some
    simpa [clearPendingReplaceAll] using before

/-- Nothing is in flight any more. -/
theorem Accounted.disconnect (holds : bridge.Accounted) {phase : Phase}
    (calm : ∀ purpose specs builtAt, phase = .gathered purpose specs builtAt →
      purpose ≠ .unExport) : (bridge.disconnect phase).Accounted := by
  unfold ExportBridge.disconnect
  split
  · exact holds.failUnExport
  · refine holds.withClient rfl rfl ?_
    intro client new
    cases new
    exact clientAccounted_of_idle calm rfl

theorem Accounted.handleAttachRefused (holds : bridge.Accounted)
    (present : bridge.client = some client) (sub : rest ⊆ client.inFlight)
    (refusal : Refusal) : (bridge.handleAttachRefused rest refusal).Accounted := by
  have calm (phase : Phase) (fixed : phase = .halted ∨ phase = .disconnected ∨
      phase = .recovery) (purpose : Purpose) (specs : List Int) (builtAt : Nat)
      (gathered : phase = .gathered purpose specs builtAt) : purpose ≠ .unExport := by
    rcases fixed with rfl | rfl | rfl <;> cases gathered
  cases refusal with
  | massRemovalRefused => exact holds.disconnect (calm _ (.inl rfl))
  | versionMismatch => exact holds.disconnect (calm _ (.inl rfl))
  | other => exact holds.disconnect (calm _ (.inr (.inl rfl)))
  | endpointMapInvalid =>
      refine holds.withClient rfl rfl ?_
      intro other new
      cases new
      exact (holds.clientAccounted client present).shrink (calm _ (.inr (.inr rfl))) sub

theorem Accounted.onAttached (holds : bridge.Accounted) (carried : Bool) :
    (bridge.onAttached carried).Accounted := by
  unfold ExportBridge.onAttached
  split
  · dsimp only
    split
    · split
      · exact holds.clear.of_same rfl rfl rfl rfl
      · exact holds.clear.withoutClient rfl rfl rfl
    · exact holds.clear
  · exact holds

/-- The debt only grows when an un-export is recorded, and the un-export is owed. -/
theorem Accounted.replaceAllThenStop (holds : bridge.Accounted)
    (idle : bridge.unExporting = none) (removing : Nat) (scheduled : Bool) :
    (bridge.replaceAllThenStop removing scheduled).Accounted := by
  have noneCarried (client : BridgeClient) (present : bridge.client = some client)
      (removes : Bool) (recordings : Nat) : ClientAccounted recordings removes client := by
    have before := holds.clientAccounted client present
    constructor
    · exact before.gathered
    · intro attach inFlight unExports
      rcases before.carried attach inFlight unExports with ⟨-, -, -, under⟩
      rw [idle] at under
      cases under
  unfold ExportBridge.replaceAllThenStop
  split
  · constructor
    · intro unExport under owes
      cases under
      exact Nat.le_max_right _ _
    · intro client present
      exact noneCarried client present _ _
  · have abandoned : (bridge.recordPendingReplaceAll removing).closeClient.Accounted := by
      constructor
      · intro unExport under
        rw [show (bridge.recordPendingReplaceAll removing).closeClient.unExporting =
          bridge.unExporting from rfl, idle] at under
        cases under
      · intro client none
        cases none
    dsimp only
    split
    · exact Accounted.start (abandoned.of_same rfl rfl rfl rfl)
    · exact abandoned

theorem unExporting_of_selfClient (present : bridge.selfClient.isSome = true) :
    bridge.unExporting = none := by
  unfold selfClient at present
  split at present
  · cases present
  · assumption

theorem Accounted.exportsChanged (holds : bridge.Accounted) (scheduled : Bool) (served : Nat) :
    (bridge.exportsChanged scheduled served).Accounted := by
  have counted : { bridge with lastExportCount := bridge.store.length }.Accounted :=
    holds.of_same rfl rfl rfl rfl
  unfold ExportBridge.exportsChanged
  dsimp only
  split
  · split
    · exact (counted.serveLost served).withoutClient rfl rfl rfl
    · exact counted.of_same rfl rfl rfl rfl
  · split
    · exact counted.start
    · split
      · rename_i present
        exact counted.replaceAllThenStop (unExporting_of_selfClient present) _ _
      · split
        · exact counted.start
        · exact counted

theorem subset_of_inFlight (waiting : client.inFlight = attach :: rest) :
    rest ⊆ client.inFlight := by
  rw [waiting]
  exact List.subset_cons_self attach rest

theorem Accounted.succeed (holds : bridge.Accounted) (present : bridge.client = some client)
    (waiting : client.inFlight = attach :: rest) :
    (bridge.succeed client attach rest).Accounted := by
  have before := holds.clientAccounted client present
  have attached : { bridge with
      served := attach.specs, client := some ⟨.attached, rest⟩ }.Accounted := by
    refine holds.withClient rfl rfl ?_
    intro other new
    cases new
    apply before.shrink _ (subset_of_inFlight waiting)
    intro purpose specs builtAt gathered
    cases gathered
  unfold ExportBridge.succeed
  cases attach.purpose with
  | handshake => exact attached.onAttached _
  | retry => exact attached.onAttached _
  | rebuild => exact attached.onAttached _
  | migrate => exact attached.onAttached _
  | unExport =>
      constructor
      · intro unExport under owes
        rcases Option.map_eq_some_iff.mp under with ⟨cleared, was, rfl⟩
        rcases Option.map_eq_some_iff.mp was with ⟨recorded, -, rfl⟩
        cases owes
      · intro other none
        cases none

theorem Accounted.refuse (holds : bridge.Accounted) (present : bridge.client = some client)
    (waiting : client.inFlight = attach :: rest) (refusal : Refusal) :
    (bridge.refuse client attach rest refusal).Accounted := by
  have before := holds.clientAccounted client present
  have sub := subset_of_inFlight waiting
  unfold ExportBridge.refuse
  cases attach.purpose with
  | handshake =>
      dsimp only
      split
      · refine holds.withClient rfl rfl ?_
        intro other new
        cases new
        apply before.shrink _ sub
        intro purpose specs builtAt gathered
        cases gathered
      · exact holds.handleAttachRefused present sub refusal
  | retry => exact holds.handleAttachRefused present sub refusal
  | rebuild => exact holds.handleAttachRefused present sub refusal
  | migrate =>
      refine holds.withClient rfl rfl ?_
      intro other new
      cases new
      exact before.shrink before.gathered sub
  | unExport => exact holds.failUnExport

/-- What `gather` leaves: the client with its attaches and a list for one of its own
three purposes. -/
theorem gather_spec {keeps : List Int} (taken : bridge.gather keeps client = some next) :
    ∃ purpose specs, purpose ≠ .unExport ∧
      next = { bridge with
        client := some ⟨.gathered purpose specs bridge.recordings, client.inFlight⟩ } := by
  unfold gather at taken
  dsimp only at taken
  split at taken
  · exact ⟨.handshake, _, by decide, (Option.some.inj taken).symm⟩
  · exact ⟨.retry, _, by decide, (Option.some.inj taken).symm⟩
  · exact ⟨.rebuild, _, by decide, (Option.some.inj taken).symm⟩
  · cases taken

/-- What `send` leaves: one attach more, for the purpose its list was built for. -/
theorem send_spec (taken : bridge.send client = some next) :
    ∃ purpose specs builtAt, client.phase = .gathered purpose specs builtAt ∧
      next = { bridge with
        client := some ⟨.waiting, client.inFlight ++
          [⟨purpose, specs, builtAt, purpose = .retry || bridge.replaceAll specs⟩]⟩ } := by
  unfold send at taken
  split at taken
  · rename_i purpose specs builtAt gathered
    exact ⟨purpose, specs, builtAt, gathered, (Option.some.inj taken).symm⟩
  · cases taken

/-- What the start of an un-export leaves: its attach in flight, or its failure. -/
theorem unExportStart_spec (taken : bridge.unExportStart = some next) :
    next = bridge.failUnExport ∨
      ∃ unExport client, bridge.unExporting = some unExport ∧ bridge.client = some client ∧
        next = { bridge with
          client := some ⟨client.phase,
            client.inFlight ++ [⟨.unExport, [], bridge.recordings, true⟩]⟩
          unExporting := some { unExport with status := .attaching } } := by
  unfold unExportStart at taken
  split at taken
  · rename_i unExport under
    split at taken
    · split at taken
      · rename_i client present
        split at taken
        · exact .inr ⟨unExport, client, under, present, (Option.some.inj taken).symm⟩
        · exact .inl (Option.some.inj taken).symm
      · exact .inl (Option.some.inj taken).symm
    · cases taken
  · cases taken

/-- What the end of an un-export leaves: a start that was deferred, or no agent. -/
theorem finishUnExport_spec (taken : bridge.finishUnExport = some next) :
    ∃ unExport, bridge.unExporting = some unExport ∧
      (next = { bridge with
          unExporting := none, client := none, startAfterUnExport := false }.start ∨
        next = { bridge with unExporting := none, client := none }.stopAgent) := by
  unfold finishUnExport at taken
  split at taken
  · rename_i unExport under
    split at taken
    · dsimp only at taken
      obtain rfl := Option.some.inj taken
      split
      · exact ⟨unExport, under, .inl rfl⟩
      · exact ⟨unExport, under, .inr rfl⟩
    · cases taken
  · cases taken

/-- The client and its first attach, when an answer arrives. -/
theorem answered_spec {answer : BridgeClient → Attach → List Attach → ExportBridge}
    (taken : (bridge.client.bind fun client =>
      match client.inFlight with
      | [] => none
      | attach :: rest => some (answer client attach rest)) = some next) :
    ∃ client attach rest, bridge.client = some client ∧ client.inFlight = attach :: rest ∧
      next = answer client attach rest := by
  rcases Option.bind_eq_some_iff.mp taken with ⟨client, present, answered⟩
  split at answered
  · cases answered
  · rename_i attach rest waiting
    exact ⟨client, attach, rest, present, waiting, (Option.some.inj answered).symm⟩

theorem accounted_step {event : ExportEvent} (holds : bridge.Accounted)
    (taken : step bridge event = some next) : next.Accounted := by
  cases event with
  | edit store =>
      obtain rfl := Option.some.inj taken
      exact holds.of_same rfl rfl rfl rfl
  | setEnabled enabled =>
      obtain rfl := Option.some.inj taken
      exact holds.of_same rfl rfl rfl rfl
  | exportsChanged scheduled served =>
      obtain rfl := Option.some.inj taken
      exact holds.exportsChanged scheduled served
  | start =>
      obtain rfl := Option.some.inj taken
      exact holds.start
  | revive =>
      simp only [step, Option.ite_none_right_eq_some] at taken
      obtain rfl := Option.some.inj taken.2
      exact Accounted.start (holds.withoutClient rfl rfl rfl)
  | gather keeps =>
      rcases Option.bind_eq_some_iff.mp taken with ⟨client, present, gathered⟩
      rcases gather_spec gathered with ⟨purpose, specs, own, rfl⟩
      refine holds.withClient rfl rfl ?_
      intro other new
      cases new
      apply (holds.clientAccounted client present).shrink _ (List.Subset.refl _)
      intro purpose' specs' builtAt same
      cases same
      exact own
  | send =>
      rcases Option.bind_eq_some_iff.mp taken with ⟨client, present, sent⟩
      rcases send_spec sent with ⟨purpose, specs, builtAt, gathered, rfl⟩
      have before := holds.clientAccounted client present
      refine holds.withClient rfl rfl ?_
      intro other new
      cases new
      apply before.append
      · intro purpose' specs' builtAt' same
        cases same
      · intro poses
        exact absurd poses (before.gathered purpose specs builtAt gathered)
  | migrate keeps =>
      rw [step] at taken
      split at taken
      · rename_i client self
        split at taken
        · obtain rfl := Option.some.inj taken
          have idle := unExporting_of_selfClient (by rw [self]; rfl)
          have present : bridge.client = some client := by
            simpa [selfClient, idle] using self
          have before := holds.clientAccounted client present
          refine holds.withClient rfl rfl ?_
          intro other new
          cases new
          apply before.append before.gathered
          intro poses
          cases poses
        · cases taken
      · cases taken
  | upsert device =>
      simp only [step, Option.ite_none_right_eq_some] at taken
      obtain rfl := Option.some.inj taken.2
      exact holds.of_same rfl rfl rfl rfl
  | remove device =>
      simp only [step, Option.ite_none_right_eq_some] at taken
      obtain rfl := Option.some.inj taken.2
      exact holds.of_same rfl rfl rfl rfl
  | succeed =>
      rcases answered_spec taken with ⟨client, attach, rest, present, waiting, rfl⟩
      exact holds.succeed present waiting
  | refuse refusal =>
      rcases @answered_spec _ _ (fun client attach rest =>
        bridge.refuse client attach rest refusal) taken with
        ⟨client, attach, rest, present, waiting, rfl⟩
      exact holds.refuse present waiting refusal
  | drop served =>
      simp only [step, Option.ite_none_right_eq_some] at taken
      obtain rfl := Option.some.inj taken.2
      apply (holds.serveLost served).disconnect
      intro purpose specs builtAt gathered
      cases gathered
  | unExportStart =>
      rcases unExportStart_spec taken with rfl | ⟨unExport, client, under, present, rfl⟩
      · exact holds.failUnExport
      · have before := holds.clientAccounted client present
        constructor
        · intro other same owes
          cases same
          exact holds.owed unExport under owes
        · intro other new
          cases new
          rw [under] at before
          apply before.append before.gathered
          intro
          exact ⟨rfl, rfl, rfl, rfl⟩
  | unExportTimeout served =>
      simp only [step, Option.ite_none_right_eq_some] at taken
      obtain rfl := Option.some.inj taken.2
      exact (holds.serveLost served).failUnExport
  | finishUnExport =>
      have ended : { bridge with unExporting := none, client := none }.Accounted := by
        constructor
        · intro unExport none
          cases none
        · intro client none
          cases none
      rcases finishUnExport_spec taken with ⟨-, -, rfl | rfl⟩
      · exact Accounted.start (ended.of_same rfl rfl rfl rfl)
      · exact ended.of_same rfl rfl rfl rfl
  | agentStopped =>
      obtain rfl := Option.some.inj taken
      exact holds.of_same rfl rfl rfl rfl

/-! ## What clears the debt, and what stops the agent -/

/-- The debt has not shrunk, and an agent that was started still is. -/
def Keeps (bridge next : ExportBridge) : Prop :=
  bridge.debt ≤ next.debt ∧ (bridge.agentStarted = true → next.agentStarted = true)

theorem keeps_of_eq (debt : next.debt = bridge.debt)
    (agent : next.agentStarted = bridge.agentStarted) : bridge.Keeps next :=
  ⟨Nat.le_of_eq debt.symm, fun started => agent.trans started⟩

theorem keeps_start (bridge : ExportBridge) : bridge.Keeps bridge.start :=
  ⟨Nat.le_of_eq (start_debt bridge).symm, agentStarted_start⟩

theorem keeps_serveLost (served : Nat) (bridge : ExportBridge) :
    bridge.Keeps (bridge.serveLost served) := by
  rcases serveLost_eq served bridge with ⟨serves, same⟩
  rw [same]
  exact keeps_of_eq rfl rfl

theorem Keeps.trans {middle : ExportBridge} (first : bridge.Keeps middle)
    (second : middle.Keeps next) : bridge.Keeps next :=
  ⟨Nat.le_trans first.1 second.1, fun started => second.2 (first.2 started)⟩

theorem keeps_disconnect (phase : Phase) (bridge : ExportBridge) :
    bridge.Keeps (bridge.disconnect phase) := by
  unfold disconnect
  split <;> exact keeps_of_eq rfl rfl

theorem keeps_handleAttachRefused (rest : List Attach) (refusal : Refusal)
    (bridge : ExportBridge) : bridge.Keeps (bridge.handleAttachRefused rest refusal) := by
  cases refusal with
  | massRemovalRefused => exact keeps_disconnect _ bridge
  | versionMismatch => exact keeps_disconnect _ bridge
  | endpointMapInvalid => exact keeps_of_eq rfl rfl
  | other => exact keeps_disconnect _ bridge

theorem keeps_refuse (client : BridgeClient) (attach : Attach) (rest : List Attach)
    (refusal : Refusal) (bridge : ExportBridge) :
    bridge.Keeps (bridge.refuse client attach rest refusal) := by
  unfold refuse
  cases attach.purpose with
  | handshake =>
      dsimp only
      split
      · exact keeps_of_eq rfl rfl
      · exact keeps_handleAttachRefused rest refusal bridge
  | retry => exact keeps_handleAttachRefused rest refusal bridge
  | rebuild => exact keeps_handleAttachRefused rest refusal bridge
  | migrate => exact keeps_of_eq rfl rfl
  | unExport => exact keeps_of_eq rfl rfl

theorem keeps_replaceAllThenStop (removing : Nat) (scheduled : Bool) (bridge : ExportBridge) :
    bridge.Keeps (bridge.replaceAllThenStop removing scheduled) := by
  have recorded : bridge.Keeps (bridge.recordPendingReplaceAll removing).closeClient :=
    ⟨Nat.le_max_left _ _, fun started => started⟩
  unfold replaceAllThenStop
  split
  · exact ⟨Nat.le_max_left _ _, fun started => started⟩
  · dsimp only
    split
    · apply recorded.trans
      exact keeps_start
        { (bridge.recordPendingReplaceAll removing).closeClient with startAfterUnExport := false }
    · exact recorded

/-- A change of the exports keeps the debt, and the agent unless export is off. -/
theorem exportsChanged_spec (scheduled : Bool) (served : Nat) (bridge : ExportBridge) :
    bridge.debt ≤ (bridge.exportsChanged scheduled served).debt ∧
      (bridge.enabled = true → bridge.Keeps (bridge.exportsChanged scheduled served)) := by
  have keeps_counted : bridge.Keeps { bridge with lastExportCount := bridge.store.length } :=
    keeps_of_eq rfl rfl
  have keeps_started :
      bridge.Keeps { bridge with lastExportCount := bridge.store.length }.start :=
    keeps_counted.trans (keeps_start _)
  unfold exportsChanged
  dsimp only
  split
  · rename_i off
    constructor
    · split
      · exact (keeps_serveLost served
          { bridge with lastExportCount := bridge.store.length }).1
      · exact Nat.le_refl _
    · intro enabled
      rw [enabled] at off
      cases off
  · have keeps : bridge.Keeps (if bridge.store ≠ [] then
          { bridge with lastExportCount := bridge.store.length }.start
        else if bridge.selfClient.isSome then
          { bridge with lastExportCount := bridge.store.length }.replaceAllThenStop
            bridge.lastExportCount scheduled
        else if 0 < bridge.debt then
          { bridge with lastExportCount := bridge.store.length }.start
        else { bridge with lastExportCount := bridge.store.length }) := by
      split
      · exact keeps_started
      · split
        · exact keeps_counted.trans (keeps_replaceAllThenStop _ _ _)
        · split
          · exact keeps_started
          · exact keeps_counted
    exact ⟨keeps.1, fun _ => keeps⟩

/-- An attach that was accepted clears the debt only when it carried the opt-in with a
debt recorded, and then stops the agent only when nothing is exported. -/
theorem onAttached_spec (carried : Bool) (bridge : ExportBridge) :
    (bridge.onAttached carried).served = bridge.served ∧
    (bridge.onAttached carried).store = bridge.store ∧
    (carried = true ∧ 0 < bridge.debt ∨ bridge.Keeps (bridge.onAttached carried)) ∧
    (bridge.store = [] ∨
      (bridge.onAttached carried).agentStarted = bridge.agentStarted) := by
  unfold onAttached
  split
  · rename_i pays
    dsimp only
    split
    · rename_i empty
      split <;> exact ⟨rfl, rfl, .inl pays, .inl empty⟩
    · exact ⟨rfl, rfl, .inl pays, .inr rfl⟩
  · exact ⟨rfl, rfl, .inr (keeps_of_eq rfl rfl), .inr rfl⟩

/-- What the success of an attach does to the debt and the agent, when no slip. -/
theorem succeed_spec (holds : bridge.Accounted) (present : bridge.client = some client)
    (waiting : client.inFlight = attach :: rest) (steady : bridge.slips .succeed = false) :
    bridge.Keeps (bridge.succeed client attach rest) ∨
      (bridge.Covers attach ∧ (bridge.succeed client attach rest).served = attach.specs ∧
        ((bridge.succeed client attach rest).agentStarted = false →
          bridge.agentStarted = true →
          (bridge.succeed client attach rest).store = [] ∧ attach.specs = [])) := by
  have served : ∃ client rest, bridge.client = some client ∧
      client.inFlight = attach :: rest := ⟨client, rest, present, waiting⟩
  simp only [slips, present, Option.any_some, waiting, List.head?_cons] at steady
  -- The handshake, its retry and the re-attach end in the same callback.
  have answered (own : attach.purpose ≠ .unExport) (carried : Bool)
      (same : carried = true → attach.replaceAll = true)
      (attached : ExportBridge)
      (is : attached = { bridge with
        served := attach.specs, client := some ⟨.attached, rest⟩ }) :
      bridge.Keeps (attached.onAttached carried) ∨
        (bridge.Covers attach ∧ (attached.onAttached carried).served = attach.specs ∧
          ((attached.onAttached carried).agentStarted = false →
            bridge.agentStarted = true →
            (attached.onAttached carried).store = [] ∧ attach.specs = [])) := by
    subst is
    rcases onAttached_spec carried { bridge with
      served := attach.specs, client := some ⟨.attached, rest⟩ } with
      ⟨serves, store, clears, stops⟩
    rcases clears with ⟨carries, owes⟩ | keeps
    · right
      simp only [same carries, owes, decide_true, Bool.true_and, own, ne_eq, not_false_eq_true,
        Bool.and_true] at steady
      simp only [overtaken, Bool.or_eq_false_iff, decide_eq_false_iff_not, ne_eq,
        Decidable.not_not] at steady
      rcases steady with ⟨current, listed⟩
      refine ⟨⟨served, same carries, current⟩, serves, ?_⟩
      intro stopped started
      rcases stops with empty | unchanged
      · rw [store]
        dsimp only at empty ⊢
        rw [empty] at listed
        simp only [List.isEmpty_nil, Bool.true_and, Bool.not_eq_false',
          List.isEmpty_iff] at listed
        exact ⟨empty, listed⟩
      · rw [unchanged] at stopped
        exact absurd (started.symm.trans stopped) (by decide)
    · left
      exact (keeps_of_eq rfl rfl : bridge.Keeps _).trans keeps
  cases purpose : attach.purpose with
  | handshake =>
      simp only [ExportBridge.succeed, purpose]
      exact answered (by rw [purpose]; decide) attach.replaceAll id _ rfl
  | retry =>
      simp only [ExportBridge.succeed, purpose]
      exact answered (by rw [purpose]; decide) attach.replaceAll id _ rfl
  | rebuild =>
      simp only [ExportBridge.succeed, purpose]
      exact answered (by rw [purpose]; decide) attach.replaceAll id _ rfl
  | migrate =>
      simp only [ExportBridge.succeed, purpose]
      exact answered (by rw [purpose]; decide) false (fun none => by cases none) _ rfl
  | unExport =>
      right
      simp only [ExportBridge.succeed, purpose]
      have inFlight : attach ∈ client.inFlight := waiting ▸ List.mem_cons_self
      rcases (holds.clientAccounted client present).carried attach inFlight purpose with
        ⟨carried, current, -, -⟩
      refine ⟨⟨served, carried, current⟩, rfl, ?_⟩
      intro stopped started
      exact absurd (started.symm.trans stopped) (by decide)

/-- A step that keeps the debt and the agent has nothing to answer for. -/
theorem paid_of_keeps {event : ExportEvent} (keeps : bridge.Keeps next) :
    bridge.Paid event next ∧ (bridge.AgentStops event next → bridge.GoodReason event next) := by
  constructor
  · intro shrunk
    exact absurd keeps.1 (Nat.not_le_of_lt shrunk)
  · rintro ⟨started, stopped, -⟩
    exact absurd ((keeps.2 started).symm.trans stopped) (by decide)

theorem paid_step {event : ExportEvent} (holds : bridge.Accounted)
    (steady : bridge.slips event = false) (taken : step bridge event = some next) :
    bridge.Paid event next ∧ (bridge.AgentStops event next → bridge.GoodReason event next) := by
  cases event with
  | edit store =>
      obtain rfl := Option.some.inj taken
      exact paid_of_keeps (keeps_of_eq rfl rfl)
  | setEnabled enabled =>
      obtain rfl := Option.some.inj taken
      exact paid_of_keeps (keeps_of_eq rfl rfl)
  | exportsChanged scheduled served =>
      obtain rfl := Option.some.inj taken
      rcases exportsChanged_spec scheduled served bridge with ⟨debt, keeps⟩
      cases enabled : bridge.enabled with
      | true => exact paid_of_keeps (keeps enabled)
      | false =>
          constructor
          · intro shrunk
            exact absurd debt (Nat.not_le_of_lt shrunk)
          · intro
            exact .inl ⟨scheduled, served, rfl, enabled⟩
  | start =>
      obtain rfl := Option.some.inj taken
      exact paid_of_keeps (keeps_start bridge)
  | revive =>
      simp only [step, Option.ite_none_right_eq_some] at taken
      obtain rfl := Option.some.inj taken.2
      apply paid_of_keeps
      exact (keeps_of_eq rfl rfl : bridge.Keeps bridge.closeClient).trans (keeps_start _)
  | gather keeps =>
      rcases Option.bind_eq_some_iff.mp taken with ⟨client, present, gathered⟩
      rcases gather_spec gathered with ⟨purpose, specs, -, rfl⟩
      exact paid_of_keeps (keeps_of_eq rfl rfl)
  | send =>
      rcases Option.bind_eq_some_iff.mp taken with ⟨client, present, sent⟩
      rcases send_spec sent with ⟨purpose, specs, builtAt, -, rfl⟩
      exact paid_of_keeps (keeps_of_eq rfl rfl)
  | migrate keeps =>
      rw [step] at taken
      split at taken
      · split at taken
        · obtain rfl := Option.some.inj taken
          exact paid_of_keeps (keeps_of_eq rfl rfl)
        · cases taken
      · cases taken
  | upsert device =>
      simp only [step, Option.ite_none_right_eq_some] at taken
      obtain rfl := Option.some.inj taken.2
      exact paid_of_keeps (keeps_of_eq rfl rfl)
  | remove device =>
      simp only [step, Option.ite_none_right_eq_some] at taken
      obtain rfl := Option.some.inj taken.2
      exact paid_of_keeps (keeps_of_eq rfl rfl)
  | succeed =>
      rcases answered_spec taken with ⟨client, attach, rest, present, waiting, rfl⟩
      rcases succeed_spec holds present waiting steady with keeps | ⟨covers, served, stops⟩
      · exact paid_of_keeps keeps
      · constructor
        · intro
          exact ⟨rfl, attach, covers, served⟩
        · rintro ⟨started, stopped, -⟩
          rcases stops stopped started with ⟨empty, none⟩
          exact .inr (.inl ⟨rfl, ⟨attach, covers⟩, empty, served.trans none⟩)
  | refuse refusal =>
      rcases @answered_spec _ _ (fun client attach rest =>
        bridge.refuse client attach rest refusal) taken with
        ⟨client, attach, rest, -, -, rfl⟩
      exact paid_of_keeps (keeps_refuse client attach rest refusal bridge)
  | drop served =>
      simp only [step, Option.ite_none_right_eq_some] at taken
      obtain rfl := Option.some.inj taken.2
      exact paid_of_keeps ((keeps_serveLost served bridge).trans (keeps_disconnect _ _))
  | unExportStart =>
      rcases unExportStart_spec taken with rfl | ⟨unExport, client, -, -, rfl⟩
      · exact paid_of_keeps (keeps_of_eq rfl rfl)
      · exact paid_of_keeps (keeps_of_eq rfl rfl)
  | unExportTimeout served =>
      simp only [step, Option.ite_none_right_eq_some] at taken
      obtain rfl := Option.some.inj taken.2
      apply paid_of_keeps
      exact (keeps_serveLost served bridge).trans (keeps_of_eq rfl rfl)
  | finishUnExport =>
      rcases finishUnExport_spec taken with ⟨unExport, under, rfl | rfl⟩
      · apply paid_of_keeps
        exact (keeps_of_eq rfl rfl : bridge.Keeps { bridge with
          unExporting := none, client := none, startAfterUnExport := false }).trans
          (keeps_start _)
      · constructor
        · intro shrunk
          exact absurd shrunk (Nat.lt_irrefl _)
        · intro
          refine .inr (.inr ⟨rfl, unExport, under, ?_⟩)
          cases discharged : unExport.discharged with
          | true => exact .inl rfl
          | false => exact .inr (holds.owed unExport under discharged)
  | agentStopped =>
      obtain rfl := Option.some.inj taken
      constructor
      · intro shrunk
        exact absurd shrunk (Nat.lt_irrefl _)
      · rintro ⟨-, -, own⟩
        exact absurd rfl own

/-- In every run in which no list that an un-export has overtaken clears the debt, the
debt is cleared only by the success of an attach that carried the opt-in and whose
list was built after everything the debt covers was recorded; and the bridge stops
the agent only for a good reason. -/
theorem debt_paid_before_cleared {store served : List Int} {enabled : Bool} {debt : Nat}
    {events : List ExportEvent} {event : ExportEvent}
    (run : RunWhere step (fun state event => state.slips event = false)
      (fresh store enabled debt served) events bridge)
    (steady : bridge.slips event = false) (taken : step bridge event = some next) :
    bridge.Paid event next ∧ (bridge.AgentStops event next → bridge.GoodReason event next) := by
  have holds : bridge.Accounted := run.invariant (accounted_fresh store enabled debt served)
    fun _ _ _ holds _ taken => accounted_step holds taken
  exact paid_step holds steady taken

/-! ## An un-export whose attach fails -/

/-- The state after a list of events that can all happen. -/
def play (start : ExportBridge) (events : List ExportEvent) : ExportBridge :=
  (follow step (fun _ _ => True) start events).getD start

/-- One exported accessory, served, and then the allow-list is emptied. -/
def emptied : List ExportEvent :=
  [.start, .gather [7], .send, .succeed, .edit [], .exportsChanged true 0, .unExportStart]

theorem debt_paid_by_unExport :
    (play (fresh [7] true 0 []) emptied).Paid .succeed
        (play (fresh [7] true 0 []) (emptied ++ [.succeed])) ∧
      ((play (fresh [7] true 0 []) emptied).AgentStops .succeed
          (play (fresh [7] true 0 []) (emptied ++ [.succeed])) →
        (play (fresh [7] true 0 []) emptied).GoodReason .succeed
          (play (fresh [7] true 0 []) (emptied ++ [.succeed]))) := by
  have run : RunWhere step (fun state event => state.slips event = false)
      (fresh [7] true 0 []) emptied (play (fresh [7] true 0 []) emptied) :=
    runWhere_of_follow (by rfl)
  exact debt_paid_before_cleared run (by rfl) (by rfl)

/-- An un-export whose attach fails stops the agent of a node that still serves. -/
theorem agent_stopped_while_served :
    ¬ ∀ (store served : List Int) (enabled : Bool) (debt : Nat) (events : List ExportEvent)
        (event : ExportEvent) (bridge next : ExportBridge),
      Run step (fresh store enabled debt served) events bridge → step bridge event = some next →
        bridge.Paid event next ∧ (bridge.AgentStops event next → next.ServesListed) := by
  intro claimed
  have run : Run step (fresh [7] true 0 []) (emptied ++ [.drop 0])
      (play (fresh [7] true 0 []) (emptied ++ [.drop 0])) := runWhere_of_follow (by rfl)
  have stopped := (claimed _ _ _ _ _ .finishUnExport _
    (play (fresh [7] true 0 []) (emptied ++ [.drop 0, .finishUnExport])) run (by rfl)).2
    ⟨by rfl, by rfl, by decide⟩ 7 (by decide)
  exact absurd stopped (by decide)

end ExportBridge

end IndigoMatter.Plugin
