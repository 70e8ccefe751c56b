import IndigoMatter.Bridge.IdentityKept
import IndigoMatter.Bridge.NodeLifecycle

/-!
# The identity of the node and the files behind it

The model of the node keeps of `identity.json` whether it is absent, usable or unusable,
and of the files beside it whether one was moved aside.  That is all a start needs: what
the files settle is what the node settles, as long as no call fails in a way the node's
model leaves out.
-/

namespace IndigoMatter.Bridge.Storage

open IndigoMatter.Library

variable {storagePath : String} {syntaxError : String → String} {files : Files}

/-! ## What the node keeps -/

/-- The text of a string property. -/
def textOf : Option Json → String
  | some (.string text) => text
  | _ => ""

/-- The value of an integer property. -/
def numberOf : Option Json → Nat
  | some (.number number) => (number.integer?.getD 0).toNat
  | _ => 0

/-- An identity as the node keeps it. -/
def Identity.kept (identity : Identity) : BridgeIdentity where
  installId := textOf (Json.property identity.fields "installId")
  passcode := numberOf (Json.property identity.fields "passcode")
  discriminator := numberOf (Json.property identity.fields "discriminator")
  commissionedAt := identity.commissionedAt.map fun witness => textOf (some witness)

/-- What there is at `identity.json`. -/
def identityFile (files : Files) : IdentityFile :=
  match files.get? IDENTITY_FILE with
  | none => .absent
  | some text =>
      match text.identity? with
      | some identity => .usable identity.kept
      | none => .unusable

/-- The node and the files tell of the same identity. -/
structure Kept (bridge : BridgeNode) (files : Files) : Prop where
  file : bridge.identityFile = identityFile files
  quarantined : bridge.quarantined = true ↔ HasMarker files

theorem identityFile_of_usable {text : FileText} {identity : Identity}
    (stored : files.get? IDENTITY_FILE = some text) (usable : text.identity? = some identity) :
    identityFile files = .usable identity.kept := by
  simp only [identityFile, stored, usable]

theorem identityFile_of_unusable {text : FileText} (stored : files.get? IDENTITY_FILE = some text)
    (unusable : text.identity? = none) : identityFile files = .unusable := by
  simp only [identityFile, stored, unusable]

theorem identityFile_of_absent (absent : files.get? IDENTITY_FILE = none) :
    identityFile files = .absent := by
  simp only [identityFile, absent]

/-! ## Calls that land or throw -/

/-- A replacement returns if it is to land, and throws otherwise. -/
def Settles (ends : Directory.ReplaceEnds FileText) (lands : Bool) : Prop :=
  (lands = true ∧ ends.write = .returns ∧ ends.rename = .returns) ∨
    (lands = false ∧ (∀ effective, ends.unlink ≠ .dies effective) ∧
      ∃ message, ends.write = .throws message ∨
        ends.write = .returns ∧ ends.rename = .throws message)

/-- Whether a rename returns or throws. -/
def Moves (ending : CallEnd) (lands : Bool) : Prop :=
  (lands = true ∧ ending = .returns) ∨ (lands = false ∧ ∃ message, ending = .throws message)

/-- A replacement that settles has returned, or it has thrown. -/
theorem attempt_of_settles {ends : Directory.ReplaceEnds FileText} {lands : Bool}
    (settles : Settles ends lands) (pid : Nat) (identity : Identity) (files : Files) :
    (lands = true ∧ (writeIdentity ends pid identity files).1 = .returned ()) ∨
      (lands = false ∧ ∃ error, (writeIdentity ends pid identity files).1 = .threw error) := by
  have thrown (error : FileError) (directory : Files)
      (alive : ∀ effective, ends.unlink ≠ .dies effective) :
      ∃ raised, (Directory.abandon ends.unlink (tempFile pid) error directory).1 =
        .threw raised := by
    unfold Directory.abandon Directory.unlink
    cases ending : ends.unlink with
    | returns => exact ⟨error, rfl⟩
    | throws message => exact ⟨error, rfl⟩
    | dies effective => exact absurd ending (alive effective)
  rcases settles with ⟨lands, wrote, renamed⟩ | ⟨lands, alive, message, wrote | ⟨wrote, renamed⟩⟩
  · left
    refine ⟨lands, ?_⟩
    simp only [writeIdentity, Directory.replace, Directory.write, wrote, Directory.rename,
      InsertionMap.get?_set_self, renamed]
  · right
    refine ⟨lands, ?_⟩
    simp only [writeIdentity, Directory.replace, Directory.write, wrote]
    exact thrown _ _ alive
  · right
    refine ⟨lands, ?_⟩
    simp only [writeIdentity, Directory.replace, Directory.write, wrote, Directory.rename,
      InsertionMap.get?_set_self, renamed]
    exact thrown _ _ alive

/-- The markers beside a file are as they were after it was replaced. -/
theorem hasMarker_writeIdentity_iff (ends : Directory.ReplaceEnds FileText) (pid : Nat)
    (identity : Identity) (files : Files) :
    HasMarker (writeIdentity ends pid identity files).2 ↔ HasMarker files := by
  have replaced := Directory.replaced_replace ends (tempFile_ne pid) identity.text files
  have beside {name : String} (marker : isMarker name = true) :
      (writeIdentity ends pid identity files).2.get? name = files.get? name :=
    replaced.others name (ne_tempFile_of_isMarker marker pid) (ne_of_isMarker marker)
  constructor
  · rintro ⟨name, text, marker, stored⟩
    exact ⟨name, text, marker, (beside marker).symm.trans stored⟩
  · exact fun moved => moved.writeIdentity ends pid identity

/-- A write that settles leaves what the node takes it to leave. -/
theorem identityFile_writeIdentity {ends : Directory.ReplaceEnds FileText} {lands : Bool}
    (settles : Settles ends lands) (pid : Nat) (identity : Identity) (files : Files) :
    identityFile (writeIdentity ends pid identity files).2 =
      (identityFile files).write lands identity.kept := by
  have replaced := Directory.replaced_replace ends (tempFile_ne pid) identity.text files
  rcases attempt_of_settles settles pid identity files with ⟨rfl, done⟩ | ⟨rfl, error, thrown⟩
  · exact identityFile_of_usable (replaced.returned done) (identity?_text identity)
  · have same := replaced.threw error thrown
    unfold identityFile
    rw [writeIdentity, same]
    rfl

/-! ## Starting -/

/-- What a start is answered when nothing happens that the node's model leaves out. -/
structure Calm (answers : StartAnswers) (boot : BridgeNode.Boot) : Prop where
  inspected : answers.inspected = none
  listed : answers.listed = true
  made : answers.made = .returns
  reread : answers.reread = none
  moves : Moves answers.moved boot.lands
  settles : Settles answers.written boot.lands
  minted : (mintIdentity answers.draw).kept = BridgeNode.mintIdentity boot

/-- The node finds a problem where the files show one. -/
theorem Kept.identityProblem {bridge : BridgeNode} (kept : Kept bridge files) :
    bridge.identityProblem =
      (Storage.identityProblem storagePath syntaxError none true files).isSome := by
  unfold BridgeNode.identityProblem
  cases stored : files.get? IDENTITY_FILE with
  | none =>
      rw [kept.file, identityFile_of_absent stored]
      dsimp only
      have bare : bridge.quarantined = !(markers files).isEmpty := by
        rw [Bool.eq_iff_iff, kept.quarantined, ← not_iff_not, ← markers_isEmpty_iff]
        simp
      rw [bare]
      cases empty : (markers files).isEmpty with
      | true => simp [Storage.identityProblem, inspectIdentityFile, stored,
          quarantinedIdentityProblem, empty]
      | false => simp [Storage.identityProblem, inspectIdentityFile, stored,
          quarantinedIdentityProblem, empty]
  | some text =>
      cases usable : text.identity? with
      | some identity =>
          rw [kept.file, identityFile_of_usable stored usable]
          cases text with
          | malformed bytes => cases usable
          | json value => simp [Storage.identityProblem, inspectIdentityFile, stored, usable]
      | none =>
          rw [kept.file, identityFile_of_unusable stored usable]
          cases text with
          | malformed bytes => simp [Storage.identityProblem, inspectIdentityFile, stored]
          | json value => simp [Storage.identityProblem, inspectIdentityFile, stored, usable]

/-- Moving the file aside is, for the node, what it takes it to be. -/
theorem Kept.quarantineIdentity {bridge : BridgeNode} {boot : BridgeNode.Boot} {ending : CallEnd}
    (kept : Kept bridge files) (problem : bridge.identityProblem = true)
    (moves : Moves ending boot.lands) (stamp : String) :
    (Storage.quarantineIdentity ending stamp files).1 ≠ .died ∧
      Kept (bridge.quarantineIdentity boot) (Storage.quarantineIdentity ending stamp files).2 := by
  have apart := (ne_of_isMarker (isMarker_quarantineFile stamp)).symm
  unfold BridgeNode.quarantineIdentity Storage.quarantineIdentity Directory.rename
  cases stored : files.get? IDENTITY_FILE with
  | none =>
      have absent : bridge.identityFile = .absent :=
        kept.file.trans (identityFile_of_absent stored)
      rw [if_neg (by simp [absent])]
      rcases moves with ⟨_, rfl⟩ | ⟨_, message, rfl⟩
      · exact ⟨by rintro ⟨⟩, kept⟩
      · exact ⟨by rintro ⟨⟩, kept⟩
  | some text =>
      have unusable : bridge.identityFile = .unusable := by
        cases usable : text.identity? with
        | none => exact kept.file.trans (identityFile_of_unusable stored usable)
        | some identity =>
            have file := kept.file.trans (identityFile_of_usable stored usable)
            rw [BridgeNode.identityProblem, file] at problem
            cases problem
      rcases moves with ⟨lands, rfl⟩ | ⟨stays, message, rfl⟩
      · rw [if_pos ⟨unusable, lands⟩]
        refine ⟨by rintro ⟨⟩, ?_, ?_⟩
        · exact (identityFile_of_absent (by simp [apart])).symm
        · refine iff_of_true rfl ⟨quarantineFile stamp, text, isMarker_quarantineFile stamp, ?_⟩
          simp
      · rw [if_neg (by simp [stays])]
        exact ⟨by rintro ⟨⟩, kept⟩

/-- The node is what runs over the files. -/
structure Follows (bridge : BridgeNode) (process : Process) (files : Files) : Prop where
  identity : bridge.identity = process.identity.kept
  kept : Kept bridge files

/-- The refusal that a fault gives the node. -/
def refusalOf (identityFault : Option String) : Option RefuseReason :=
  identityFault.map fun _ => .identityUnreadable

/-- A start that finds a problem refuses, for the node too. -/
theorem identify_of_problem {bridge : BridgeNode} {boot : BridgeNode.Boot}
    {answers : StartAnswers} {fault : String} (kept : Kept bridge files)
    (calm : Calm answers boot)
    (problem : identityProblem storagePath syntaxError none true files = some fault) :
    ∃ process identified,
      (settleIdentity storagePath syntaxError answers files).1 = .returned process ∧
      bridge.identify boot = some identified ∧
      Follows identified process (settleIdentity storagePath syntaxError answers files).2 ∧
      identified.refusal = refusalOf process.identityFault := by
  have found : bridge.identityProblem = true := by
    rw [kept.identityProblem, problem]
    rfl
  rcases kept.quarantineIdentity found calm.moves answers.stamp with ⟨alive, moved⟩
  rw [settleIdentity, calm.inspected, calm.listed, problem, BridgeNode.identify, if_pos found]
  dsimp only
  rcases result : Storage.quarantineIdentity answers.moved answers.stamp files with
    ⟨attempt, after⟩
  rw [result] at alive moved
  cases attempt with
  | died => exact absurd rfl alive
  | returned _ => exact ⟨_, _, rfl, rfl, ⟨calm.minted.symm, moved.file, moved.quarantined⟩, rfl⟩
  | threw _ => exact ⟨_, _, rfl, rfl, ⟨calm.minted.symm, moved.file, moved.quarantined⟩, rfl⟩

/-- A write that settles keeps the node and the files in step. -/
theorem Kept.writeIdentity {bridge written : BridgeNode} {lands : Bool}
    {ends : Directory.ReplaceEnds FileText} (kept : Kept bridge files)
    (settles : Settles ends lands) (pid : Nat) (identity : Identity)
    (file : written.identityFile = bridge.identityFile.write lands identity.kept)
    (quarantined : written.quarantined = bridge.quarantined) :
    Kept written (Storage.writeIdentity ends pid identity files).2 where
  file := by rw [file, kept.file, identityFile_writeIdentity settles pid identity files]
  quarantined := by
    rw [quarantined, hasMarker_writeIdentity_iff]
    exact kept.quarantined

/-- Both models give up, and then nothing has changed that the node knows of, or both go on
with what is related. -/
structure Settled {α : Type} (related : α → BridgeNode → Files → Prop) (bridge : BridgeNode)
    (result : Attempt α × Files) (settled : Option BridgeNode) : Prop where
  rel : Option.Rel (fun value node => related value node result.2) result.1.value? settled
  failed : result.1.value? = none → Kept bridge result.2

/-- The node has loaded the identity. -/
def Loaded (refusal : Option RefuseReason) (identity : Identity) (bridge : BridgeNode)
    (files : Files) : Prop :=
  bridge.identity = identity.kept ∧ bridge.refusal = refusal ∧ Kept bridge files

/-- The node is what runs over the files, and refuses if that does. -/
def Running (process : Process) (bridge : BridgeNode) (files : Files) : Prop :=
  Follows bridge process files ∧ bridge.refusal = refusalOf process.identityFault

/-- Where the file holds no usable identity, one is minted and written. -/
theorem settled_minted {bridge : BridgeNode} {boot : BridgeNode.Boot} {answers : StartAnswers}
    (kept : Kept bridge files) (calm : Calm answers boot) (unread : readIdentity none files = none)
    (unusable : ∀ identity, bridge.identityFile ≠ .usable identity) :
    Settled (Loaded bridge.refusal) bridge (loadOrCreateIdentity answers files)
      (bridge.loadOrCreateIdentity boot) := by
  have node : bridge.loadOrCreateIdentity boot =
      if boot.lands then some (bridge.applyWitness
        (BridgeNode.mintIdentity boot, .usable (BridgeNode.mintIdentity boot))) else none := by
    unfold BridgeNode.loadOrCreateIdentity
    cases file : bridge.identityFile with
    | usable identity => exact absurd file (unusable identity)
    | absent => rfl
    | unusable => rfl
  rw [loadOrCreateIdentity, calm.made, calm.reread, unread, node]
  dsimp only
  rcases attempt_of_settles calm.settles answers.pid (mintIdentity answers.draw) files with
    ⟨lands, done⟩ | ⟨stays, error, thrown⟩
  · rw [done, if_pos lands]
    refine ⟨.some ⟨calm.minted.symm, rfl, ?_⟩, by rintro ⟨⟩⟩
    refine kept.writeIdentity calm.settles _ _ ?_ rfl
    rw [lands, calm.minted]
    rfl
  · rw [thrown, if_neg (by simp [stays])]
    refine ⟨.none, fun _ => kept.writeIdentity calm.settles _ _ ?_ rfl⟩
    rw [stays]
    rfl

/-- What a start loads or mints, it does for the node too. -/
theorem settled_loadOrCreateIdentity {bridge : BridgeNode} {boot : BridgeNode.Boot}
    {answers : StartAnswers} (kept : Kept bridge files) (calm : Calm answers boot) :
    Settled (Loaded bridge.refusal) bridge (loadOrCreateIdentity answers files)
      (bridge.loadOrCreateIdentity boot) := by
  cases stored : files.get? IDENTITY_FILE with
  | none =>
      refine settled_minted kept calm (by simp [readIdentity, stored]) ?_
      rw [kept.file, identityFile_of_absent stored]
      rintro _ ⟨⟩
  | some text =>
      cases usable : text.identity? with
      | none =>
          refine settled_minted kept calm (by simp [readIdentity, stored, usable]) ?_
          rw [kept.file, identityFile_of_unusable stored usable]
          rintro _ ⟨⟩
      | some identity =>
          have read : readIdentity none files = some identity := by
            simp [readIdentity, stored, usable]
          have file := identityFile_of_usable stored usable
          rw [loadOrCreateIdentity, BridgeNode.loadOrCreateIdentity, calm.made, calm.reread, read,
            kept.file, file]
          exact ⟨.some ⟨rfl, rfl, ⟨file.symm, kept.quarantined⟩⟩, by rintro ⟨⟩⟩

theorem rel_map {α β γ : Type} {before : α → γ → Prop} {after : β → γ → Prop} {f : α → β}
    {value : Option α} {settled : Option γ} (rel : Option.Rel before value settled)
    (holds : ∀ found node, before found node → after (f found) node) :
    Option.Rel after (value.map f) settled := by
  cases rel with
  | none => exact .none
  | some related => exact .some (holds _ _ related)

/-- What a start settles over the files is what the node settles: both give up, or both go
on with the same identity and refusal. -/
theorem identify_refines {bridge : BridgeNode} {boot : BridgeNode.Boot} {answers : StartAnswers}
    (kept : Kept bridge files) (calm : Calm answers boot) :
    Settled Running bridge (settleIdentity storagePath syntaxError answers files)
      (bridge.identify boot) := by
  cases problem : identityProblem storagePath syntaxError none true files with
  | some fault =>
      rcases identify_of_problem kept calm problem with
        ⟨process, identified, settled, found, follows⟩
      constructor
      · rw [settled, found]
        exact .some follows
      · rw [settled]
        rintro ⟨⟩
  | none =>
      have fine : bridge.identityProblem = false := by
        rw [kept.identityProblem, problem]
        rfl
      have clean : Kept { bridge with refusal := none } files := ⟨kept.file, kept.quarantined⟩
      have settled := settled_loadOrCreateIdentity clean calm
      have found : identityProblem storagePath syntaxError answers.inspected answers.listed
          files = none := by
        rw [calm.inspected, calm.listed]
        exact problem
      rcases settleIdentity_of_fine found with ⟨after, process⟩
      rw [BridgeNode.identify, if_neg (by simp [fine])]
      constructor
      · rw [after, process]
        refine rel_map settled.rel ?_
        rintro identity node ⟨same, refusal, kept⟩
        exact ⟨⟨same, kept⟩, refusal⟩
      · rw [after, process]
        intro failed
        have kept' := settled.failed (Option.map_eq_none_iff.mp failed)
        exact ⟨kept'.file, kept'.quarantined⟩

/-- A damaged file is moved aside, and the node refuses. -/
theorem identify_refines_damaged :
    Settled Running (BridgeNode.installed "/bridge" .absent [] .unusable false)
      (settleIdentity "/bridge" id (smoothStart secondDraw)
        ((∅ : Files).set IDENTITY_FILE (.malformed "\x7b")))
      ((BridgeNode.installed "/bridge" .absent [] .unusable false).identify
        ⟨"b04d", 34567890, 17, true, ""⟩) ∧
    ((BridgeNode.installed "/bridge" .absent [] .unusable false).identify
      ⟨"b04d", 34567890, 17, true, ""⟩).map (·.refusal) = some (some .identityUnreadable) := by
  have alone : ¬HasMarker ((∅ : Files).set IDENTITY_FILE (.malformed "\x7b")) := by
    rintro ⟨name, text, marker, stored⟩
    simp [ne_of_isMarker marker] at stored
  have moved : Moves (smoothStart secondDraw).moved true := .inl ⟨rfl, rfl⟩
  have written : Settles (smoothStart secondDraw).written true := .inl ⟨rfl, rfl, rfl⟩
  refine ⟨identify_refines ⟨rfl, ?_⟩ ⟨rfl, rfl, rfl, rfl, moved, written, rfl⟩, rfl⟩
  exact iff_of_false (by rintro ⟨⟩) alone

/-! ## The witness -/

theorem kept_stamped (identity : Identity) (now : String) :
    (identity.stamped now).kept = { identity.kept with commissionedAt := some now } := by
  have stamp : (identity.stamped now).commissionedAt = some (.string now) := by
    simp [Identity.commissionedAt, Identity.stamped, property_append, property_cons, property_nil]
  simp only [Identity.kept, stamp, Option.map_some, textOf]
  simp only [Identity.stamped]
  rw [property_stamped _ _ (by decide), property_stamped _ _ (by decide),
    property_stamped _ _ (by decide)]

theorem kept_unstamped (identity : Identity) :
    identity.unstamped.kept = { identity.kept with commissionedAt := none } := by
  simp only [Identity.kept, Identity.commissionedAt_unstamped, Option.map_none]
  simp only [Identity.unstamped]
  rw [property_filter_ne _ (by decide), property_filter_ne _ (by decide),
    property_filter_ne _ (by decide)]

@[simp]
theorem isSome_commissionedAt_kept (identity : Identity) :
    identity.kept.commissionedAt.isSome = identity.commissionedAt.isSome := by
  simp [Identity.kept]

/-- What a process comes to that has written another identity. -/
theorem applyWitness_ofAttempt {bridge written : BridgeNode} {process : Process} {lands : Bool}
    {ends : Directory.ReplaceEnds FileText} (follows : Follows bridge process files)
    (settles : Settles ends lands) (identity : Identity) (doing : String)
    (file : written.identityFile = bridge.identityFile.write lands identity.kept)
    (quarantined : written.quarantined = bridge.quarantined)
    (same : written.identity = identity.kept) :
    ∃ after, (State.applyWitness process
        (WitnessWrite.ofAttempt identity doing (writeIdentity ends process.pid identity files).1,
          (writeIdentity ends process.pid identity files).2)).process = some after ∧
      Follows written after (writeIdentity ends process.pid identity files).2 := by
  have kept := follows.kept.writeIdentity settles process.pid identity file quarantined
  rcases attempt_of_settles settles process.pid identity files with
    ⟨_, done⟩ | ⟨_, error, thrown⟩
  · rw [done]
    exact ⟨_, rfl, same, kept⟩
  · rw [thrown]
    exact ⟨_, rfl, same, kept⟩

/-- Noting and dropping the witness over the files is what the node does. -/
theorem witness_refines {bridge : BridgeNode} {process : Process} {answers : Answers}
    {ends : Directory.ReplaceEnds FileText} (follows : Follows bridge process files)
    (settles : Settles ends answers.lands) :
    (bridge.fabrics ≠ [] → ∃ after,
      (State.applyWitness process
        (markCommissioned ends process.pid answers.now process.identity files)).process =
          some after ∧
      Follows (bridge.noteCommissioningWitness answers) after
        (markCommissioned ends process.pid answers.now process.identity files).2) ∧
    ∃ after,
      (State.applyWitness process
        (clearCommissioned ends process.pid process.identity files)).process = some after ∧
      Follows (bridge.clearWitness answers) after
        (clearCommissioned ends process.pid process.identity files).2 := by
  have same : bridge.identity.commissionedAt.isSome = process.identity.commissionedAt.isSome := by
    rw [follows.identity, isSome_commissionedAt_kept]
  constructor
  · intro paired
    unfold BridgeNode.noteCommissioningWitness markCommissioned
    by_cases marked : process.identity.commissionedAt.isSome = true
    · have noted := same.trans marked
      rw [if_pos marked, if_pos (.inl noted)]
      exact ⟨process, rfl, follows⟩
    · have noted : ¬bridge.identity.commissionedAt.isSome = true := by rwa [same]
      rw [if_neg marked, if_neg (by simp [noted, paired]), Bridge.markCommissioned, if_neg noted,
        follows.identity, ← kept_stamped]
      exact applyWitness_ofAttempt follows settles _ _ rfl rfl rfl
  · have absent : bridge.identity.commissionedAt.isNone =
        process.identity.commissionedAt.isNone := by
      rw [← Option.not_isSome, same, Option.not_isSome]
    unfold BridgeNode.clearWitness clearCommissioned Bridge.clearCommissioned
    rw [absent]
    by_cases unmarked : process.identity.commissionedAt.isNone = true
    · rw [if_pos unmarked, if_pos unmarked]
      exact ⟨process, rfl, follows⟩
    · rw [if_neg unmarked, if_neg unmarked, follows.identity, ← kept_unstamped]
      exact applyWitness_ofAttempt follows settles _ _ rfl rfl rfl

/-- A node that serves under the first identity and has just been paired. -/
def paired : BridgeNode :=
  { BridgeNode.installed "/bridge" .absent [1] (.usable (mintIdentity firstDraw).kept) false with
    identity := (mintIdentity firstDraw).kept }

/-- The first fabric is noted although the write fails. -/
theorem witness_refines_paired : ∃ after,
    (State.applyWitness ⟨7, mintIdentity firstDraw, none⟩
      (markCommissioned ⟨.throws "EIO", none, .returns, .returns⟩ 7 "2026-01-01T00:00:00.000Z"
        (mintIdentity firstDraw) installed.files)).process = some after ∧
    Follows (paired.noteCommissioningWitness ⟨true, false, "2026-01-01T00:00:00.000Z"⟩) after
      (markCommissioned ⟨.throws "EIO", none, .returns, .returns⟩ 7 "2026-01-01T00:00:00.000Z"
        (mintIdentity firstDraw) installed.files).2 := by
  have alone : ¬HasMarker installed.files := by
    rintro ⟨name, text, marker, stored⟩
    simp [installed, ne_of_isMarker marker] at stored
  have file : IdentityFile.usable (mintIdentity firstDraw).kept = identityFile installed.files :=
    (identityFile_of_usable (InsertionMap.get?_set_self _ _ _) (identity?_text _)).symm
  have follows : Follows paired ⟨7, mintIdentity firstDraw, none⟩ installed.files :=
    ⟨rfl, file, iff_of_false (by rintro ⟨⟩) alone⟩
  have settles : Settles ⟨.throws "EIO", none, .returns, .returns⟩ false :=
    .inr ⟨rfl, by rintro _ ⟨⟩, "EIO", .inl rfl⟩
  have refines := witness_refines follows
    (show Settles _ (Answers.mk true false "2026-01-01T00:00:00.000Z").lands from settles)
  exact refines.1 (by rintro ⟨⟩)

end IndigoMatter.Bridge.Storage
