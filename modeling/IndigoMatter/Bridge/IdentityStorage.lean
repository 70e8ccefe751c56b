import IndigoMatter.Bridge.EndpointMapFile
import IndigoMatter.Library.FileReplace
import IndigoMatter.Library.Transition
import Mathlib.Data.List.Lex
import Mathlib.Data.List.Sort

/-!
# The storage of the bridge identity

`identity.json` holds what every paired ecosystem knows the bridge by.  A first start
mints an identity and writes it; a start over a file that cannot be used moves the file
aside, serves nothing and keeps a minted identity in memory only, and so does every
start that finds a file moved aside and no `identity.json`.  While a node runs, the
commissioning witness is written into the file and dropped from it.

A file is text that `JSON.parse` reads, or text it does not read.  The directory can be
edited from outside between any two steps.  The log lines are left out, and so are the
directories beside the files.
-/

namespace IndigoMatter.Bridge.Storage

open IndigoMatter.Library

/-! ## Identities -/

def PASSCODE_MIN : Int := 1

def PASSCODE_MAX : Int := 99999998

def INVALID_PASSCODES : List Int :=
  [0, 11111111, 22222222, 33333333, 44444444, 55555555, 66666666, 77777777, 88888888, 99999999,
    12345678, 87654321]

def DISCRIMINATOR_MAX : Int := 0xfff

def IDENTITY_FILE : String := "identity.json"

def QUARANTINE_PREFIX : String := IDENTITY_FILE ++ ".unreadable-"

/-- A passcode inside the legal range and not on the trivial list. -/
def isValidPasscode (passcode : JsNumber) : Bool :=
  match passcode.integer? with
  | none => false
  | some value =>
      PASSCODE_MIN ≤ value && value ≤ PASSCODE_MAX && !INVALID_PASSCODES.contains value

def isUsableInstallId : Option Json → Bool
  | some (.string installId) => installId ≠ ""
  | _ => false

def isUsablePasscode : Option Json → Bool
  | some (.number passcode) => isValidPasscode passcode
  | _ => false

def isUsableDiscriminator : Option Json → Bool
  | some (.number discriminator) =>
      match discriminator.integer? with
      | none => false
      | some value => 0 ≤ value && value ≤ DISCRIMINATOR_MAX
  | _ => false

/-- Whether the properties of an object are those of an identity. -/
def isUsableIdentity (fields : Struct) : Bool :=
  isUsableInstallId (Json.property fields "installId") &&
    isUsablePasscode (Json.property fields "passcode") &&
    isUsableDiscriminator (Json.property fields "discriminator")

/-- A usable identity, with every property its file has. -/
structure Identity where
  fields : Struct
  usable : isUsableIdentity fields = true

namespace Identity

/-- What the ecosystems and the setup code know a bridge by. -/
def credentials (identity : Identity) : List (Option Json) :=
  ["installId", "passcode", "discriminator"].map (Json.property identity.fields)

/-- The commissioning witness. -/
def commissionedAt (identity : Identity) : Option Json :=
  Json.property identity.fields "commissionedAt"

end Identity

theorem property_nil (name : String) : Json.property [] name = none := rfl

theorem isUsableIdentity_congr {first second : Struct}
    (same : ∀ name, name ≠ "commissionedAt" →
      Json.property first name = Json.property second name) :
    isUsableIdentity first = isUsableIdentity second := by
  unfold isUsableIdentity
  rw [same "installId" (by decide), same "passcode" (by decide), same "discriminator" (by decide)]

theorem property_stamped (fields : Struct) (value : Json) {name : String}
    (other : name ≠ "commissionedAt") :
    Json.property (fields ++ [("commissionedAt", value)]) name = Json.property fields name := by
  rw [property_append, property_cons]
  simp [Json.property, other]

theorem property_filter_ne (fields : Struct) {dropped name : String} (other : name ≠ dropped) :
    Json.property (fields.filter fun field => field.1 ≠ dropped) name =
      Json.property fields name := by
  induction fields with
  | nil => rfl
  | cons field rest ih =>
      rcases field with ⟨head, value⟩
      by_cases removed : head = dropped
      · subst head
        rw [List.filter_cons_of_neg (by simp), property_cons, if_neg other, ih, Option.or_none]
      · rw [List.filter_cons_of_pos (by simpa using removed), property_cons, property_cons, ih]

theorem property_filter_self (fields : Struct) (dropped : String) :
    Json.property (fields.filter fun field => field.1 ≠ dropped) dropped = none := by
  induction fields with
  | nil => rfl
  | cons field rest ih =>
      rcases field with ⟨head, value⟩
      by_cases removed : head = dropped
      · rw [List.filter_cons_of_neg (by simpa using removed), ih]
      · rw [List.filter_cons_of_pos (by simpa using removed), property_cons, ih,
          if_neg (Ne.symm removed), Option.none_or]

namespace Identity

/-- The identity with the commissioning witness, which it does not have yet. -/
def stamped (identity : Identity) (now : String) : Identity where
  fields := identity.fields ++ [("commissionedAt", .string now)]
  usable := (isUsableIdentity_congr fun _ other => property_stamped identity.fields _ other).trans
    identity.usable

/-- The identity without the commissioning witness. -/
def unstamped (identity : Identity) : Identity where
  fields := identity.fields.filter fun field => field.1 ≠ "commissionedAt"
  usable := (isUsableIdentity_congr fun _ other => property_filter_ne identity.fields other).trans
    identity.usable

@[simp]
theorem credentials_stamped (identity : Identity) (now : String) :
    (identity.stamped now).credentials = identity.credentials := by
  simp [credentials, stamped, property_stamped]

@[simp]
theorem credentials_unstamped (identity : Identity) :
    identity.unstamped.credentials = identity.credentials := by
  simp only [credentials, unstamped, List.map_cons, List.map_nil]
  rw [property_filter_ne _ (by decide), property_filter_ne _ (by decide),
    property_filter_ne _ (by decide)]

@[simp]
theorem commissionedAt_unstamped (identity : Identity) :
    identity.unstamped.commissionedAt = none :=
  property_filter_self identity.fields "commissionedAt"

end Identity

/-- What a new identity is drawn as. -/
structure Draw where
  installId : String
  passcode : Int
  discriminator : Int
  installId_ne : installId ≠ ""
  passcode_valid : isValidPasscode (.ofInt passcode) = true
  discriminator_valid : isUsableDiscriminator (some (.number (.ofInt discriminator))) = true

/-- Fresh random identity values; nothing is written. -/
def mintIdentity (draw : Draw) : Identity where
  fields :=
    [("installId", .string draw.installId), ("passcode", .number (.ofInt draw.passcode)),
      ("discriminator", .number (.ofInt draw.discriminator))]
  usable := by
    simp [isUsableIdentity, property_cons, property_nil, isUsableInstallId, isUsablePasscode,
      draw.installId_ne, draw.passcode_valid, draw.discriminator_valid]

@[simp]
theorem commissionedAt_mintIdentity (draw : Draw) : (mintIdentity draw).commissionedAt = none := by
  simp [mintIdentity, Identity.commissionedAt, property_cons, property_nil]

/-! ## Files -/

/-- What a file holds. -/
inductive FileText
  | json (value : Json)
  | malformed (text : String)

/-- The files of the storage directory. -/
abbrev Files := InsertionMap String FileText

/-- The identity a text holds, if it holds a usable one. -/
def FileText.identity? : FileText → Option Identity
  | .json (.object fields) =>
      if usable : isUsableIdentity fields = true then some ⟨fields, usable⟩ else none
  | _ => none

/-- The text of an identity. -/
def Identity.text (identity : Identity) : FileText := .json (.object identity.fields)

@[simp]
theorem identity?_text (identity : Identity) : identity.text.identity? = some identity := by
  rcases identity with ⟨fields, usable⟩
  simp [Identity.text, FileText.identity?, usable]

/-- The name an identity is written under before it is renamed. -/
def tempFile (pid : Nat) : String := IDENTITY_FILE ++ "." ++ toString pid ++ ".tmp"

/-- The name a file is moved aside to. -/
def quarantineFile (stamp : String) : String := QUARANTINE_PREFIX ++ stamp

/-- Whether a name is one a file was moved aside to. -/
def isMarker (name : String) : Bool := QUARANTINE_PREFIX.toList.isPrefixOf name.toList

/-- A text as the code units it is sorted by. -/
def codeUnits (text : String) : List Nat :=
  text.toList.flatMap fun character =>
    if character.toNat < 0x10000 then [character.toNat]
    else
      let beyond := character.toNat - 0x10000
      [0xd800 + beyond / 0x400, 0xdc00 + beyond % 0x400]

/-- The files moved aside, as a listing gives them. -/
def markers (files : Files) : List String :=
  (files.keys.filter isMarker).mergeSort fun first second =>
    decide (codeUnits first ≤ codeUnits second)

/-- Write an identity over `identity.json`. -/
def writeIdentity (ends : Directory.ReplaceEnds FileText) (pid : Nat) (identity : Identity)
    (files : Files) : Attempt Unit × Files :=
  Directory.replace ends (tempFile pid) IDENTITY_FILE identity.text files

/-- Absent, fine, or there and unusable. -/
inductive IdentityFileState
  | absent
  | usable
  | unusable (problem : String)
deriving DecidableEq

section Reading

variable (storagePath : String) (syntaxError : String → String)

/-- The path of a file of the storage directory. -/
def filePath (name : String) : String := storagePath ++ "/" ++ name

/-- Look at `identity.json`; `thrown` is what reading it throws, if it throws. -/
def inspectIdentityFile (thrown : Option String) (files : Files) : IdentityFileState :=
  let file := filePath storagePath IDENTITY_FILE
  match thrown with
  | some message => .unusable s!"{file} is unreadable ({message})"
  | none =>
      match files.get? IDENTITY_FILE with
      | none => .absent
      | some (.malformed text) => .unusable s!"{file} is unreadable ({syntaxError text})"
      | some (.json value) =>
          if (FileText.json value).identity?.isSome then .usable
          else .unusable
            s!"{file} is present but not a usable identity (missing or out-of-range fields)"

/-- The refusal a file that was moved aside carries; a directory that cannot be listed
carries none. -/
def quarantinedIdentityProblem (listed : Bool) (files : Files) : Option String :=
  if !listed then none
  else
    let names := markers files
    if names.isEmpty then none
    else
      let one := names.length = 1
      some (s!"{filePath storagePath IDENTITY_FILE} is missing, but " ++
        (if one then "a" else toString names.length) ++ " quarantined identit" ++
        (if one then "y" else "ies") ++ " (" ++ ", ".intercalate names ++ ") still sit" ++
        (if one then "s" else "") ++ " beside it — an earlier start could not read the identity " ++
        s!"and moved it aside. Restore or repair one of them as {IDENTITY_FILE} in " ++
        s!"{storagePath} and restart. Deleting them all is the deliberate \"start fresh as a " ++
        "brand-new bridge\" choice, and it loses every pairing this bridge already has.")

/-- Why the storage cannot hand back a usable identity, a first run apart. -/
def identityProblem (thrown : Option String) (listed : Bool) (files : Files) : Option String :=
  match inspectIdentityFile storagePath syntaxError thrown files with
  | .usable => none
  | .unusable problem => some problem
  | .absent => quarantinedIdentityProblem storagePath listed files

end Reading

/-- Move an unusable `identity.json` aside. -/
def quarantineIdentity (ending : CallEnd) (stamp : String) (files : Files) :
    Attempt Unit × Files :=
  Directory.rename ending IDENTITY_FILE (quarantineFile stamp) files

/-! ## Starting -/

/-- What a start is answered and draws: what the two reads throw, whether the directory
can be listed, and how its other calls end. -/
structure StartAnswers where
  inspected : Option String
  listed : Bool
  moved : CallEnd
  stamp : String
  made : CallEnd
  reread : Option String
  written : Directory.ReplaceEnds FileText
  pid : Nat
  draw : Draw

/-- What a read of `identity.json` hands back. -/
def readIdentity (thrown : Option String) (files : Files) : Option Identity :=
  match thrown with
  | some _ => none
  | none => (files.get? IDENTITY_FILE).bind FileText.identity?

/-- Read `identity.json`, or mint an identity and write it. -/
def loadOrCreateIdentity (answers : StartAnswers) (files : Files) : Attempt Identity × Files :=
  match answers.made with
  | .throws message => (.threw ⟨false, message⟩, files)
  | .dies _ => (.died, files)
  | .returns =>
      match readIdentity answers.reread files with
      | some identity => (.returned identity, files)
      | none =>
          let minted := mintIdentity answers.draw
          let (attempt, files) := writeIdentity answers.written answers.pid minted files
          (attempt.map fun _ => minted, files)

/-- A node that runs: its identity, and why it serves nothing, if it does not. -/
structure Process where
  pid : Nat
  identity : Identity
  identityFault : Option String

/-- What `main.ts` settles before it builds the node. -/
def settleIdentity (storagePath : String) (syntaxError : String → String) (answers : StartAnswers)
    (files : Files) : Attempt Process × Files :=
  match identityProblem storagePath syntaxError answers.inspected answers.listed files with
  | none =>
      let (attempt, files) := loadOrCreateIdentity answers files
      (attempt.map fun identity => ⟨answers.pid, identity, none⟩, files)
  | some fault =>
      match quarantineIdentity answers.moved answers.stamp files with
      | (.died, files) => (.died, files)
      | (_, files) => (.returned ⟨answers.pid, mintIdentity answers.draw, some fault⟩, files)

/-! ## The witness -/

/-- The outcome of moving the commissioning witness. -/
structure WitnessWrite where
  identity : Identity
  persisted : Bool
  problem : Option String

/-- Adopt what a write came to. -/
def WitnessWrite.ofAttempt (identity : Identity) (doing : String) :
    Attempt Unit → Attempt WitnessWrite
  | .returned _ => .returned ⟨identity, true, none⟩
  | .threw error => .returned ⟨identity, false,
      some s!"Could not {doing} the commissioning marker in identity.json: {error.message}"⟩
  | .died => .died

/-- Record that the bridge has been commissioned, if it is not recorded already. -/
def markCommissioned (ends : Directory.ReplaceEnds FileText) (pid : Nat) (now : String)
    (identity : Identity) (files : Files) : Attempt WitnessWrite × Files :=
  if identity.commissionedAt.isSome then (.returned ⟨identity, true, none⟩, files)
  else
    let updated := identity.stamped now
    let (attempt, files) := writeIdentity ends pid updated files
    (WitnessWrite.ofAttempt updated "record" attempt, files)

/-- Drop the commissioning witness. -/
def clearCommissioned (ends : Directory.ReplaceEnds FileText) (pid : Nat) (identity : Identity)
    (files : Files) : Attempt WitnessWrite × Files :=
  if identity.commissionedAt.isNone then (.returned ⟨identity, true, none⟩, files)
  else
    let rest := identity.unstamped
    let (attempt, files) := writeIdentity ends pid rest files
    (WitnessWrite.ofAttempt rest "clear" attempt, files)

/-! ## Steps -/

/-- The storage directory, and the node that runs over it. -/
structure State where
  files : Files
  process : Option Process

/-- The node has moved the witness, or died over it. -/
def State.applyWitness (process : Process) (result : Attempt WitnessWrite × Files) : State where
  files := result.2
  process := result.1.value?.map fun write => { process with identity := write.identity }

/-- What can happen to the storage: a start; a fabric seen by a node that runs, which is
when it notes the commissioning witness; the witness dropped, after the last fabric has
gone, a reset or a rebuilt map; the end of a node; and a file edited from outside. -/
inductive Event
  | start (answers : StartAnswers)
  | fabricSeen (ends : Directory.ReplaceEnds FileText) (now : String)
  | witnessDropped (ends : Directory.ReplaceEnds FileText)
  | exit
  | edited (name : String) (text : Option FileText)

/-- The files after one was written or deleted from outside. -/
def editFile (name : String) (text : Option FileText) (files : Files) : Files :=
  match text with
  | some text => files.set name text
  | none => files.delete name

/-- One event. -/
def step (storagePath : String) (syntaxError : String → String) : LabelledStep State Event
  | ⟨files, none⟩, .start answers =>
      let (attempt, files) := settleIdentity storagePath syntaxError answers files
      some ⟨files, attempt.value?⟩
  | ⟨files, some process⟩, .fabricSeen ends now =>
      some (.applyWitness process (markCommissioned ends process.pid now process.identity files))
  | ⟨files, some process⟩, .witnessDropped ends =>
      some (.applyWitness process (clearCommissioned ends process.pid process.identity files))
  | ⟨files, some _⟩, .exit => some ⟨files, none⟩
  | ⟨files, process⟩, .edited name text => some ⟨editFile name text files, process⟩
  | _, _ => none

/-- The identity a node serves under; a node that refuses serves under none. -/
def State.serving (state : State) : Option Identity :=
  state.process.bind fun process =>
    if process.identityFault.isNone then some process.identity else none

end IndigoMatter.Bridge.Storage
