import IndigoMatter.Bridge.IdentityStorage

/-!
# One bridge, one identity

The ecosystems take a bridge with another identity for another bridge.  Once a node has
served under an identity, every later one that serves does so under the same, whatever
is thrown and wherever a process dies, as long as the storage still tells that there was
an identity.  Until someone repairs the storage, an identity that cannot be used stays
where it is or beside it, and no node serves.

Three things are asked of a start and of a node: that a second read of the file does not
fail after the first one succeeded, that the directory can be listed when the file is
gone, and that no fabric is seen by a node that refuses, which would write the minted
identity out.
-/

namespace IndigoMatter.Bridge.Storage

open IndigoMatter.Library

variable {storagePath : String} {syntaxError : String → String} {files : Files}

/-! ## Names -/

theorem tempFile_ne (pid : Nat) : IDENTITY_FILE ≠ tempFile pid := by
  intro same
  have lengths := congrArg String.length same
  simp only [tempFile, String.length_append] at lengths
  have dot : ".".length = 1 := rfl
  omega

theorem isMarker_quarantineFile (stamp : String) : isMarker (quarantineFile stamp) = true := by
  rw [isMarker, List.isPrefixOf_iff_prefix, quarantineFile, String.toList_append]
  exact List.prefix_append _ _

theorem ne_of_isMarker {name : String} (marker : isMarker name = true) : name ≠ IDENTITY_FILE := by
  rintro rfl
  revert marker
  decide

/-- The name an identity is written under is not taken for a file moved aside. -/
theorem ne_tempFile_of_isMarker {name : String} (marker : isMarker name = true) (pid : Nat) :
    name ≠ tempFile pid := by
  rintro rfl
  rw [isMarker, List.isPrefixOf_iff_prefix] at marker
  have stem : QUARANTINE_PREFIX.toList = (IDENTITY_FILE ++ ".").toList ++ "unreadable-".toList := by
    decide
  have name : (tempFile pid).toList =
      (IDENTITY_FILE ++ ".").toList ++ (Nat.toDigits 10 pid ++ ".tmp".toList) := by
    simp [tempFile, List.append_assoc]
  rw [stem, name, List.prefix_append_right_inj] at marker
  cases digits : Nat.toDigits 10 pid with
  | nil =>
      rw [digits] at marker
      revert marker
      decide
  | cons digit rest =>
      rw [digits, List.cons_append] at marker
      have first : 'u' = digit := (List.cons_prefix_cons.mp marker).1
      have isDigit : digit.isDigit = true :=
        Nat.isDigit_of_mem_toDigits (b := 10) (n := pid) (by decide) (by decide)
          (digits ▸ List.mem_cons_self)
      rw [← first] at isDigit
      revert isDigit
      decide

/-! ## Evidence of an identity -/

/-- A file was moved aside. -/
def HasMarker (files : Files) : Prop :=
  ∃ name text, isMarker name = true ∧ files.get? name = some text

theorem markers_isEmpty_iff : (markers files).isEmpty = true ↔ ¬HasMarker files := by
  rw [List.isEmpty_iff, List.eq_nil_iff_forall_not_mem, HasMarker]
  simp only [markers, List.mem_mergeSort, List.mem_filter, InsertionMap.mem_keys_iff]
  constructor
  · rintro none_ ⟨name, text, marker, stored⟩
    exact none_ name ⟨⟨text, stored⟩, marker⟩
  · rintro none_ name ⟨⟨text, stored⟩, marker⟩
    exact none_ ⟨name, text, marker, stored⟩

/-- The storage tells of an identity: what can be used in it is that identity, and where
there is no file there is one that was moved aside. -/
structure Guarded (credentials : List (Option Json)) (files : Files) : Prop where
  own : ∀ text identity, files.get? IDENTITY_FILE = some text →
    text.identity? = some identity → identity.credentials = credentials
  known : files.get? IDENTITY_FILE = none → HasMarker files

variable {credentials : List (Option Json)}

/-- A file that is there tells of an identity if it is that one or cannot be used. -/
theorem guarded_of_stored {text : FileText} (stored : files.get? IDENTITY_FILE = some text)
    (own : ∀ identity, text.identity? = some identity → identity.credentials = credentials) :
    Guarded credentials files where
  own := by
    intro other identity there usable
    obtain rfl := Option.some.inj (stored.symm.trans there)
    exact own identity usable
  known := by
    intro absent
    rw [absent] at stored
    cases stored

/-- A usable file tells of its own identity. -/
theorem guarded_of_usable {text : FileText} {identity : Identity}
    (stored : files.get? IDENTITY_FILE = some text) (usable : text.identity? = some identity) :
    Guarded identity.credentials files := by
  refine guarded_of_stored stored ?_
  intro other usable'
  rw [Option.some.inj (usable.symm.trans usable')]

/-- A write leaves the files moved aside alone. -/
theorem HasMarker.writeIdentity (moved : HasMarker files)
    (ends : Directory.ReplaceEnds FileText) (pid : Nat) (identity : Identity) :
    HasMarker (writeIdentity ends pid identity files).2 := by
  rcases moved with ⟨name, text, marker, stored⟩
  refine ⟨name, text, marker, ?_⟩
  have replaced := Directory.replaced_replace ends (tempFile_ne pid) identity.text files
  exact (replaced.others name (ne_tempFile_of_isMarker marker pid) (ne_of_isMarker marker)).trans
    stored

theorem Guarded.writeIdentity (guarded : Guarded credentials files)
    (ends : Directory.ReplaceEnds FileText) (pid : Nat) {identity : Identity}
    (same : identity.credentials = credentials) :
    Guarded credentials (writeIdentity ends pid identity files).2 := by
  have replaced := Directory.replaced_replace ends (tempFile_ne pid) identity.text files
  constructor
  · intro text found stored usable
    rcases replaced.either with old | new
    · exact guarded.own text found (old.symm.trans stored) usable
    · obtain rfl : identity.text = text := Option.some.inj (new.symm.trans stored)
      obtain rfl : identity = found := Option.some.inj ((identity?_text identity).symm.trans usable)
      exact same
  · intro absent
    rcases replaced.either with old | new
    · exact (guarded.known (old.symm.trans absent)).writeIdentity ends pid identity
    · rw [Storage.writeIdentity, new] at absent
      cases absent

/-- Moving the file aside leaves a marker; otherwise nothing has happened. -/
theorem quarantineIdentity_cases (ending : CallEnd) (stamp : String) (files : Files) :
    (∃ text, files.get? IDENTITY_FILE = some text ∧
        (quarantineIdentity ending stamp files).2.get? IDENTITY_FILE = none ∧
        (quarantineIdentity ending stamp files).2.get? (quarantineFile stamp) = some text) ∨
      (quarantineIdentity ending stamp files).2 = files := by
  rcases Directory.rename_cases ending IDENTITY_FILE (quarantineFile stamp) files with
    ⟨text, stored, moved⟩ | ⟨same, _⟩
  · left
    have apart := (ne_of_isMarker (isMarker_quarantineFile stamp)).symm
    refine ⟨text, stored, ?_, ?_⟩
    · rw [quarantineIdentity, moved]
      simp [apart]
    · rw [quarantineIdentity, moved]
      simp
  · exact .inr same

theorem Guarded.quarantineIdentity (guarded : Guarded credentials files) (ending : CallEnd)
    (stamp : String) : Guarded credentials (quarantineIdentity ending stamp files).2 := by
  rcases quarantineIdentity_cases ending stamp files with ⟨text, _, gone, there⟩ | same
  · constructor
    · intro other identity stored
      rw [gone] at stored
      cases stored
    · exact fun _ => ⟨quarantineFile stamp, text, isMarker_quarantineFile stamp, there⟩
  · rw [same]
    exact guarded

/-! ## What a start settles -/

/-- No problem is reported of a usable file, or where there is neither a file nor, for
all a listing shows, one that was moved aside. -/
theorem of_identityProblem_eq_none {thrown : Option String} {listed : Bool}
    (fine : identityProblem storagePath syntaxError thrown listed files = none) :
    (∃ text identity, files.get? IDENTITY_FILE = some text ∧ text.identity? = some identity) ∨
      files.get? IDENTITY_FILE = none ∧ (listed = true → ¬HasMarker files) := by
  unfold identityProblem inspectIdentityFile at fine
  cases thrown with
  | some message => cases fine
  | none =>
      cases stored : files.get? IDENTITY_FILE with
      | none =>
          right
          refine ⟨rfl, ?_⟩
          rw [stored] at fine
          rintro rfl
          rw [← markers_isEmpty_iff]
          by_contra some_
          simp [quarantinedIdentityProblem, some_] at fine
      | some text =>
          left
          rw [stored] at fine
          cases text with
          | malformed bytes => cases fine
          | json value =>
              cases found : (FileText.json value).identity? with
              | some identity => exact ⟨_, identity, rfl, found⟩
              | none => simp [found] at fine

/-- A start that finds a problem refuses, with an identity of its own, and at most moves
the file aside. -/
theorem settleIdentity_of_problem {answers : StartAnswers} {fault : String}
    (problem : identityProblem storagePath syntaxError answers.inspected answers.listed files =
      some fault) :
    (settleIdentity storagePath syntaxError answers files).2 =
        (quarantineIdentity answers.moved answers.stamp files).2 ∧
      ∀ process, (settleIdentity storagePath syntaxError answers files).1.value? = some process →
        process.identityFault = some fault ∧ process.identity.commissionedAt = none := by
  rw [settleIdentity, problem]
  dsimp only
  rcases moved : quarantineIdentity answers.moved answers.stamp files with ⟨attempt, after⟩
  cases attempt with
  | died =>
      refine ⟨rfl, ?_⟩
      rintro _ ⟨⟩
  | returned _ =>
      refine ⟨rfl, ?_⟩
      rintro _ ⟨⟩
      exact ⟨rfl, commissionedAt_mintIdentity answers.draw⟩
  | threw _ =>
      refine ⟨rfl, ?_⟩
      rintro _ ⟨⟩
      exact ⟨rfl, commissionedAt_mintIdentity answers.draw⟩

/-- A start that finds no problem serves under the identity it loads. -/
theorem settleIdentity_of_fine {answers : StartAnswers}
    (fine : identityProblem storagePath syntaxError answers.inspected answers.listed files = none) :
    (settleIdentity storagePath syntaxError answers files).2 =
        (loadOrCreateIdentity answers files).2 ∧
      (settleIdentity storagePath syntaxError answers files).1.value? =
        (loadOrCreateIdentity answers files).1.value?.map fun identity =>
          ⟨answers.pid, identity, none⟩ := by
  rw [settleIdentity, fine]
  exact ⟨rfl, Attempt.value?_map _ _⟩

/-- An identity a start loads or mints is the one in the file afterwards. -/
theorem guarded_of_loaded {answers : StartAnswers} {identity : Identity}
    (loaded : (loadOrCreateIdentity answers files).1.value? = some identity) :
    Guarded identity.credentials (loadOrCreateIdentity answers files).2 := by
  unfold loadOrCreateIdentity at loaded ⊢
  cases made : answers.made with
  | throws message =>
      rw [made] at loaded
      cases loaded
  | dies effective =>
      rw [made] at loaded
      cases loaded
  | returns =>
      rw [made] at loaded
      dsimp only at loaded ⊢
      cases read : readIdentity answers.reread files with
      | some found =>
          rw [read] at loaded
          obtain rfl : found = identity := Option.some.inj loaded
          unfold readIdentity at read
          split at read
          · cases read
          · obtain ⟨text, stored, usable⟩ := Option.bind_eq_some_iff.mp read
            exact guarded_of_usable stored usable
      | none =>
          rw [read] at loaded
          dsimp only at loaded ⊢
          have replaced := Directory.replaced_replace answers.written (tempFile_ne answers.pid)
            (mintIdentity answers.draw).text files
          rcases wrote : writeIdentity answers.written answers.pid (mintIdentity answers.draw) files
            with ⟨attempt, after⟩
          rw [wrote] at loaded
          rw [writeIdentity] at wrote
          rw [wrote] at replaced
          cases attempt with
          | threw _ => cases loaded
          | died => cases loaded
          | returned _ =>
              obtain rfl : mintIdentity answers.draw = identity := Option.some.inj loaded
              exact guarded_of_usable (replaced.returned rfl) (identity?_text _)

/-- A usable file is loaded and left alone, unless the start ends first. -/
theorem loadOrCreateIdentity_of_usable {answers : StartAnswers} {text : FileText}
    {identity : Identity} (steady : answers.reread = none)
    (stored : files.get? IDENTITY_FILE = some text) (usable : text.identity? = some identity) :
    (loadOrCreateIdentity answers files).2 = files ∧
      ∀ found, (loadOrCreateIdentity answers files).1.value? = some found → found = identity := by
  have read : readIdentity answers.reread files = some identity := by
    rw [steady, readIdentity, stored]
    exact usable
  unfold loadOrCreateIdentity
  cases answers.made with
  | throws message =>
      refine ⟨rfl, ?_⟩
      rintro _ ⟨⟩
  | dies effective =>
      refine ⟨rfl, ?_⟩
      rintro _ ⟨⟩
  | returns =>
      rw [read]
      refine ⟨rfl, ?_⟩
      rintro _ ⟨⟩
      rfl

/-! ## The witness -/

/-- Moving the witness keeps what the storage tells, and the identity it is of. -/
structure MovesWitness (credentials : List (Option Json))
    (result : Attempt WitnessWrite × Files) : Prop where
  guarded : Guarded credentials result.2
  own : ∀ write, result.1.value? = some write → write.identity.credentials = credentials

theorem movesWitness_ofAttempt {attempt : Attempt Unit} {identity : Identity} {doing : String}
    (guarded : Guarded credentials files) (same : identity.credentials = credentials) :
    MovesWitness credentials (WitnessWrite.ofAttempt identity doing attempt, files) where
  guarded := guarded
  own := by
    intro write moved
    cases attempt with
    | returned _ =>
        cases moved
        exact same
    | threw error =>
        cases moved
        exact same
    | died => cases moved

theorem movesWitness_markCommissioned (guarded : Guarded credentials files)
    {identity : Identity} (same : identity.credentials = credentials)
    (ends : Directory.ReplaceEnds FileText) (pid : Nat) (now : String) :
    MovesWitness credentials (markCommissioned ends pid now identity files) := by
  unfold markCommissioned
  split
  · refine ⟨guarded, ?_⟩
    rintro _ ⟨⟩
    exact same
  · have stamped := (identity.credentials_stamped now).trans same
    exact movesWitness_ofAttempt (guarded.writeIdentity ends pid stamped) stamped

theorem movesWitness_clearCommissioned (guarded : Guarded credentials files)
    {identity : Identity} (same : identity.credentials = credentials)
    (ends : Directory.ReplaceEnds FileText) (pid : Nat) :
    MovesWitness credentials (clearCommissioned ends pid identity files) := by
  unfold clearCommissioned
  split
  · refine ⟨guarded, ?_⟩
    rintro _ ⟨⟩
    exact same
  · have unstamped := identity.credentials_unstamped.trans same
    exact movesWitness_ofAttempt (guarded.writeIdentity ends pid unstamped) unstamped

/-- Where there is no witness, none is dropped. -/
theorem clearCommissioned_of_none {ends : Directory.ReplaceEnds FileText} {pid : Nat}
    {identity : Identity} (unmarked : identity.commissionedAt = none) :
    clearCommissioned ends pid identity files = (.returned ⟨identity, true, none⟩, files) := by
  rw [clearCommissioned, unmarked]
  rfl

/-! ## Runs -/

/-- A node that serves does so under these credentials, and one that refuses carries no
witness. -/
structure Sound (credentials : List (Option Json)) (state : State) : Prop where
  guarded : Guarded credentials state.files
  serves : ∀ identity, state.serving = some identity → identity.credentials = credentials
  unmarked : ∀ process, state.process = some process → process.identityFault.isSome = true →
    process.identity.commissionedAt = none

/-- What is asked of an event: a start reads the file a second time as well, and can list
the directory when the file is gone; a node that sees a fabric serves; and an edit leaves
the storage telling of the identity. -/
def Steady (credentials : List (Option Json)) (state : State) : Event → Prop
  | .start answers =>
      answers.reread = none ∧ (state.files.get? IDENTITY_FILE = none → answers.listed = true)
  | .fabricSeen _ _ => state.serving.isSome = true
  | .witnessDropped _ | .exit => True
  | .edited name text => Guarded credentials (editFile name text state.files)

theorem serving_eq_some {state : State} {identity : Identity} :
    state.serving = some identity ↔ ∃ process, state.process = some process ∧
      process.identityFault = none ∧ process.identity = identity := by
  unfold State.serving
  rw [Option.bind_eq_some_iff]
  constructor
  · rintro ⟨process, running, served⟩
    split at served
    · rename_i fine
      exact ⟨process, running, Option.isNone_iff_eq_none.mp fine, Option.some.inj served⟩
    · cases served
  · rintro ⟨process, running, fine, rfl⟩
    exact ⟨process, running, by simp [fine]⟩

/-- A state with no process is sound if the storage is. -/
theorem sound_of_stopped (guarded : Guarded credentials files) :
    Sound credentials ⟨files, none⟩ where
  guarded := guarded
  serves := by rintro _ ⟨⟩
  unmarked := by rintro _ ⟨⟩

/-- A start that meets what is asked of it keeps the identity. -/
theorem Sound.start {answers : StartAnswers} (guarded : Guarded credentials files)
    (steady : answers.reread = none)
    (listed : files.get? IDENTITY_FILE = none → answers.listed = true) :
    Sound credentials ⟨(settleIdentity storagePath syntaxError answers files).2,
      (settleIdentity storagePath syntaxError answers files).1.value?⟩ := by
  cases problem : identityProblem storagePath syntaxError answers.inspected answers.listed
      files with
  | some fault =>
      rcases settleIdentity_of_problem problem with ⟨moved, refuses⟩
      rw [moved]
      constructor
      · exact guarded.quarantineIdentity answers.moved answers.stamp
      · intro identity serves
        rcases serving_eq_some.mp serves with ⟨process, running, fine, _⟩
        rw [(refuses process running).1] at fine
        cases fine
      · exact fun process running _ => (refuses process running).2
  | none =>
      rcases of_identityProblem_eq_none problem with
        ⟨text, identity, stored, usable⟩ | ⟨absent, bare⟩
      · rcases loadOrCreateIdentity_of_usable steady stored usable with ⟨left, loaded⟩
        rcases settleIdentity_of_fine problem with ⟨after, process⟩
        rw [after, left, process]
        constructor
        · exact guarded
        · intro served serves
          rcases serving_eq_some.mp serves with ⟨process, running, _, rfl⟩
          obtain ⟨found, value, rfl⟩ := Option.map_eq_some_iff.mp running
          rw [loaded found value]
          exact guarded.own text identity stored usable
        · intro process running faulty
          obtain ⟨found, _, rfl⟩ := Option.map_eq_some_iff.mp running
          cases faulty
      · exact absurd (guarded.known absent) (bare (listed absent))

/-- A node that moves the witness keeps its identity. -/
theorem Sound.applyWitness {process : Process} {result : Attempt WitnessWrite × Files}
    (moves : MovesWitness credentials result) (serves : process.identityFault = none) :
    Sound credentials (.applyWitness process result) where
  guarded := moves.guarded
  serves := by
    intro identity served
    rcases serving_eq_some.mp served with ⟨after, running, _, rfl⟩
    obtain ⟨write, moved, rfl⟩ := Option.map_eq_some_iff.mp running
    exact moves.own write moved
  unmarked := by
    intro after running faulty
    obtain ⟨write, _, rfl⟩ := Option.map_eq_some_iff.mp running
    rw [serves] at faulty
    cases faulty

/-- An event that meets what is asked of it keeps the identity. -/
theorem Sound.step {state next : State} {event : Event} (sound : Sound credentials state)
    (steady : Steady credentials state event)
    (taken : step storagePath syntaxError state event = some next) : Sound credentials next := by
  rcases state with ⟨files, _ | process⟩
  · cases event with
    | start answers =>
        obtain rfl := Option.some.inj taken
        exact Sound.start sound.guarded steady.1 steady.2
    | edited name text =>
        obtain rfl := Option.some.inj taken
        exact sound_of_stopped steady
    | fabricSeen _ _ => cases taken
    | witnessDropped _ => cases taken
    | exit => cases taken
  · have own (fine : process.identityFault = none) : process.identity.credentials = credentials :=
      sound.serves _ (serving_eq_some.mpr ⟨process, rfl, fine, rfl⟩)
    cases event with
    | start answers => cases taken
    | fabricSeen ends now =>
        obtain rfl := Option.some.inj taken
        obtain ⟨identity, serves⟩ := Option.isSome_iff_exists.mp steady
        rcases serving_eq_some.mp serves with ⟨_, running, fine, _⟩
        obtain rfl := Option.some.inj running
        exact .applyWitness (movesWitness_markCommissioned sound.guarded (own fine) ends _ now) fine
    | witnessDropped ends =>
        obtain rfl := Option.some.inj taken
        cases fault : process.identityFault with
        | none =>
            exact .applyWitness (movesWitness_clearCommissioned sound.guarded (own fault) ends _)
              fault
        | some problem =>
            rw [clearCommissioned_of_none (sound.unmarked process rfl (by rw [fault]; rfl))]
            exact sound
    | exit =>
        obtain rfl := Option.some.inj taken
        exact sound_of_stopped sound.guarded
    | edited name text =>
        obtain rfl := Option.some.inj taken
        exact ⟨steady, sound.serves, sound.unmarked⟩

theorem step_start (answers : StartAnswers) :
    Storage.step storagePath syntaxError ⟨files, none⟩ (.start answers) =
      some ⟨(settleIdentity storagePath syntaxError answers files).2,
        (settleIdentity storagePath syntaxError answers files).1.value?⟩ := rfl

/-- A start after which a node serves has left that identity in the storage. -/
theorem sound_of_first_start {answers : StartAnswers} {state served : State} {identity : Identity}
    (started : Storage.step storagePath syntaxError state (.start answers) = some served)
    (serves : served.serving = some identity) : Sound identity.credentials served := by
  rcases state with ⟨files, _ | process⟩
  · rw [step_start] at started
    obtain rfl := Option.some.inj started
    rcases serving_eq_some.mp serves with ⟨process, running, fine, rfl⟩
    dsimp only at running
    cases problem : identityProblem storagePath syntaxError answers.inspected answers.listed
        files with
    | some fault =>
        rw [((settleIdentity_of_problem problem).2 process running).1] at fine
        cases fine
    | none =>
        rcases settleIdentity_of_fine problem with ⟨after, loaded⟩
        rw [loaded] at running
        obtain ⟨found, value, rfl⟩ := Option.map_eq_some_iff.mp running
        rw [after, loaded, value]
        constructor
        · exact guarded_of_loaded value
        · intro other also
          rcases serving_eq_some.mp also with ⟨process, same, _, rfl⟩
          obtain rfl := Option.some.inj same
          rfl
        · intro process same faulty
          obtain rfl := Option.some.inj same
          cases faulty
  · cases started

/-- Once a node has served, every later one that serves has the same install id, passcode
and discriminator. -/
theorem one_identity {answers : StartAnswers} {events : List Event} {state served final : State}
    {identity other : Identity}
    (started : Storage.step storagePath syntaxError state (.start answers) = some served)
    (serves : served.serving = some identity)
    (run : RunWhere (Storage.step storagePath syntaxError) (Steady identity.credentials) served
      events final)
    (still : final.serving = some other) : other.credentials = identity.credentials := by
  have sound : Sound identity.credentials final := by
    clear still
    induction run with
    | nil => exact sound_of_first_start started serves
    | snoc _ steady taken sound => exact sound.step steady taken
  exact sound.serves other still

/-- An edit of `identity.json` keeps the identity if what it puts there is that one or
cannot be used. -/
theorem guarded_edited {text : FileText}
    (own : ∀ identity, text.identity? = some identity → identity.credentials = credentials) :
    Guarded credentials (editFile IDENTITY_FILE (some text) files) :=
  guarded_of_stored (InsertionMap.get?_set_self _ _ _) own

/-- A start on which every call returns. -/
def smoothStart (draw : Draw) : StartAnswers where
  inspected := none
  listed := true
  moved := .returns
  stamp := "2026-01-01T00-00-00-000Z"
  made := .returns
  reread := none
  written := ⟨.returns, none, .returns, .returns⟩
  pid := 7
  draw := draw

def firstDraw : Draw := ⟨"7c9e", 20202021, 3840, by decide, by decide, by decide⟩

def secondDraw : Draw := ⟨"b04d", 34567890, 17, by decide, by decide, by decide⟩

/-- The storage of an installed bridge. -/
def installed : State := ⟨(∅ : Files).set IDENTITY_FILE (mintIdentity firstDraw).text, none⟩

def firstServed : State :=
  (step "/bridge" id installed (.start (smoothStart secondDraw))).getD installed

/-- The file is damaged, a start refuses, and the file is put back. -/
def repairEvents : List Event :=
  [.exit, .edited IDENTITY_FILE (some (.malformed "\x7b")), .start (smoothStart secondDraw), .exit,
    .edited IDENTITY_FILE (some (mintIdentity firstDraw).text), .start (smoothStart secondDraw)]

def repaired : State :=
  repairEvents.foldl (fun state event => (step "/bridge" id state event).getD state) firstServed

theorem one_identity_repaired : ∃ identity other, firstServed.serving = some identity ∧
    repaired.serving = some other ∧ other.credentials = identity.credentials := by
  have damaged : ∀ identity, (FileText.malformed "\x7b").identity? = some identity →
      identity.credentials = (mintIdentity firstDraw).credentials := by
    rintro _ ⟨⟩
  have putBack : ∀ identity, (mintIdentity firstDraw).text.identity? = some identity →
      identity.credentials = (mintIdentity firstDraw).credentials := by
    intro identity usable
    rw [Option.some.inj ((identity?_text _).symm.trans usable)]
  have stopped : RunWhere (Storage.step "/bridge" id) (Steady (mintIdentity firstDraw).credentials)
      firstServed [.exit] ⟨firstServed.files, none⟩ := .snoc .nil trivial rfl
  have refused := (stopped.snoc
    (show Steady _ _ (.edited IDENTITY_FILE (some (.malformed "\x7b"))) from guarded_edited damaged)
    rfl).snoc (show Steady _ _ (.start (smoothStart secondDraw)) from ⟨rfl, fun _ => rfl⟩) rfl
  have run := ((refused.snoc (show Steady _ _ .exit from trivial) rfl).snoc
    (show Steady _ _ (.edited IDENTITY_FILE (some (mintIdentity firstDraw).text)) from
      guarded_edited putBack) rfl).snoc
    (show Steady _ _ (.start (smoothStart secondDraw)) from ⟨rfl, fun _ => rfl⟩) rfl
  exact ⟨mintIdentity firstDraw, mintIdentity firstDraw, rfl, rfl,
    one_identity (show Storage.step "/bridge" id installed (.start (smoothStart secondDraw)) = _
      from rfl) rfl run rfl⟩

/-! ### An identity that cannot be used -/

/-- A text is where the identity should be, or beside it with no identity there. -/
def Withheld (text : FileText) (files : Files) : Prop :=
  files.get? IDENTITY_FILE = some text ∨
    files.get? IDENTITY_FILE = none ∧ ∃ name, isMarker name = true ∧ files.get? name = some text

/-- What is asked of an event while nobody has repaired the storage: a start can list the
directory, a node that refuses sees no fabric, and an edit leaves the text where it was. -/
def Unrepaired (text : FileText) (state : State) : Event → Prop
  | .start answers => answers.listed = true
  | .fabricSeen _ _ => state.serving.isSome = true
  | .witnessDropped _ | .exit => True
  | .edited name edit => Withheld text (editFile name edit state.files)

/-- Nobody serves, and what runs carries no witness to write. -/
structure Refusing (text : FileText) (state : State) : Prop where
  withheld : Withheld text state.files
  refuses : ∀ process, state.process = some process →
    process.identityFault.isSome = true ∧ process.identity.commissionedAt = none

/-- Over a text that cannot be used there is a problem, and moving the file aside keeps
the text. -/
theorem Withheld.problem {text : FileText} (withheld : Withheld text files)
    (unusable : text.identity? = none) (thrown : Option String) :
    ∃ fault, identityProblem storagePath syntaxError thrown true files = some fault := by
  cases problem : identityProblem storagePath syntaxError thrown true files with
  | some fault => exact ⟨fault, rfl⟩
  | none =>
      rcases of_identityProblem_eq_none problem with
        ⟨other, identity, stored, usable⟩ | ⟨absent, bare⟩
      · rcases withheld with there | ⟨gone, _⟩
        · obtain rfl := Option.some.inj (there.symm.trans stored)
          rw [unusable] at usable
          cases usable
        · rw [gone] at stored
          cases stored
      · rcases withheld with there | ⟨_, name, marker, stored⟩
        · rw [absent] at there
          cases there
        · exact absurd ⟨name, text, marker, stored⟩ (bare rfl)

theorem Withheld.quarantineIdentity {text : FileText} (withheld : Withheld text files)
    (ending : CallEnd) (stamp : String) :
    Withheld text (quarantineIdentity ending stamp files).2 := by
  rcases quarantineIdentity_cases ending stamp files with ⟨moved, stored, gone, there⟩ | same
  · rcases withheld with was | ⟨absent, _⟩
    · obtain rfl := Option.some.inj (stored.symm.trans was)
      exact .inr ⟨gone, quarantineFile stamp, isMarker_quarantineFile stamp, there⟩
    · rw [absent] at stored
      cases stored
  · rw [same]
    exact withheld

theorem Refusing.step {text : FileText} {state next : State} {event : Event}
    (unusable : text.identity? = none) (refusing : Refusing text state)
    (unrepaired : Unrepaired text state event)
    (taken : Storage.step storagePath syntaxError state event = some next) :
    Refusing text next := by
  rcases state with ⟨files, _ | process⟩
  · cases event with
    | start answers =>
        rw [step_start] at taken
        obtain rfl := Option.some.inj taken
        have listed : answers.listed = true := unrepaired
        obtain ⟨fault, problem⟩ :
            ∃ fault, identityProblem storagePath syntaxError answers.inspected true files =
              some fault := refusing.withheld.problem unusable answers.inspected
        rw [← listed] at problem
        rcases settleIdentity_of_problem problem with ⟨moved, refuses⟩
        constructor
        · dsimp only
          rw [moved]
          exact refusing.withheld.quarantineIdentity answers.moved answers.stamp
        · intro process running
          rcases refuses process running with ⟨faulty, unmarked⟩
          exact ⟨by rw [faulty]; rfl, unmarked⟩
    | edited name edit =>
        obtain rfl := Option.some.inj taken
        exact ⟨unrepaired, refusing.refuses⟩
    | fabricSeen _ _ => cases taken
    | witnessDropped _ => cases taken
    | exit => cases taken
  · rcases refusing.refuses process rfl with ⟨faulty, unmarked⟩
    cases event with
    | start answers => cases taken
    | fabricSeen ends now =>
        obtain ⟨identity, serves⟩ := Option.isSome_iff_exists.mp unrepaired
        rcases serving_eq_some.mp serves with ⟨_, running, fine, _⟩
        obtain rfl := Option.some.inj running
        rw [fine] at faulty
        cases faulty
    | witnessDropped ends =>
        obtain rfl := Option.some.inj taken
        rw [clearCommissioned_of_none unmarked]
        exact refusing
    | exit =>
        obtain rfl := Option.some.inj taken
        refine ⟨refusing.withheld, ?_⟩
        rintro _ ⟨⟩
    | edited name edit =>
        obtain rfl := Option.some.inj taken
        exact ⟨unrepaired, refusing.refuses⟩

/-- Until someone repairs the storage, no start serves over an identity that cannot be
used, and its text is kept, in its place or moved aside. -/
theorem refusal_lasts {text : FileText} {events : List Event} {files : Files} {final : State}
    (unusable : text.identity? = none) (withheld : Withheld text files)
    (run : RunWhere (Storage.step storagePath syntaxError) (Unrepaired text) ⟨files, none⟩ events
      final) : final.serving = none ∧ Withheld text final.files := by
  have refusing : Refusing text final := by
    induction run with
    | nil =>
        refine ⟨withheld, ?_⟩
        rintro _ ⟨⟩
    | snoc _ unrepaired taken refusing => exact refusing.step unusable unrepaired taken
  refine ⟨?_, refusing.withheld⟩
  rw [Option.eq_none_iff_forall_ne_some]
  intro identity serves
  rcases serving_eq_some.mp serves with ⟨process, running, fine, _⟩
  have faulty := (refusing.refuses process running).1
  rw [fine] at faulty
  cases faulty

/-- A damaged file is moved aside by one start and keeps the next one from serving. -/
theorem refusal_lasts_restarted : ∃ moved final,
    Storage.step "/bridge" id ⟨(∅ : Files).set IDENTITY_FILE (.malformed "\x7b"), none⟩
      (.start (smoothStart firstDraw)) = some moved ∧
    Storage.step "/bridge" id ⟨moved.files, none⟩ (.start (smoothStart secondDraw)) = some final ∧
    final.serving = none ∧ Withheld (.malformed "\x7b") final.files := by
  refine ⟨_, _, rfl, step_start _, ?_⟩
  have stopped : RunWhere (Storage.step "/bridge" id) (Unrepaired (.malformed "\x7b"))
      ⟨(∅ : Files).set IDENTITY_FILE (.malformed "\x7b"), none⟩ [.start (smoothStart firstDraw)] _ :=
    .snoc .nil (show Unrepaired _ _ (.start _) from rfl) rfl
  have run := (stopped.snoc (show Unrepaired _ _ .exit from trivial) rfl).snoc
    (show Unrepaired _ _ (.start (smoothStart secondDraw)) from rfl) (step_start _)
  exact refusal_lasts rfl (.inl (InsertionMap.get?_set_self _ _ _)) run

end IndigoMatter.Bridge.Storage
