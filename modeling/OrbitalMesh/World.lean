import OrbitalMesh.Base.Atomic
import OrbitalMesh.Authority.FileStore
import OrbitalMesh.Patch.Postimage

/-!
# The shared state and its atomic sections

Everything the repo-patch services share is in two JSON documents, each behind
its own lock, and in the file system.  `worldStep` says what one section can answer
and do.  The documents answer as their models compute.  A file-system call may
always fail with an `OSError`, before or after its write took place.  The clock, the
random tokens and the collaborators answer anything.
-/

namespace OrbitalMesh

/-- What stands at a path that is not a directory. -/
inductive Node where
  | file (content : Bytes)
  | link
deriving DecidableEq

structure World where
  authority : AuthorityRoot
  ledger : Ledger
  files : Table Node

/-- The calls made on paths; `createExclusive` and `writeAll` are the halves of a new file. -/
inductive FileCall where
  | isSymlink (path : String)
  | isFile (path : String)
  | pathExists (path : String)
  | readBytes (path : String)
  | replaceBytes (path : String) (content : Bytes)
  | createExclusive (path : String)
  | writeAll (path : String) (content : Bytes)
  | unlink (path : String)
  | upkeep (path : String)

abbrev FileCall.Value : FileCall → Type
  | .isSymlink _ => Bool
  | .isFile _ => Bool
  | .pathExists _ => Bool
  | .readBytes _ => Bytes
  | .replaceBytes _ _ => Unit
  | .createExclusive _ => Unit
  | .writeAll _ _ => Unit
  | .unlink _ => Unit
  | .upkeep _ => Unit

/-- The call has raised an `OSError`. -/
def OsFailure {α : Type} (answer : Except PyError α) : Prop :=
  ∃ e, answer = .error e ∧ e.cls = .osError

def fileStep : (call : FileCall) → Table Node → Except PyError call.Value → Table Node → Prop
  | .isSymlink path, files, answer, files' =>
    files' = files ∧ (OsFailure answer ∨ answer = .ok (decide (files[path]? = some .link)))
  | .isFile path, files, answer, files' =>
    files' = files ∧ (OsFailure answer ∨ ∃ found, answer = .ok found ∧
      (files[path]? = some .link ∨ found = (files[path]?).isSome))
  | .pathExists path, files, answer, files' =>
    files' = files ∧ (OsFailure answer ∨ ∃ found, answer = .ok found ∧
      (files[path]? = some .link ∨ found = (files[path]?).isSome))
  | .readBytes path, files, answer, files' =>
    files' = files ∧ (OsFailure answer ∨ ∃ content, answer = .ok content ∧
      (files[path]? = some (.file content) ∨ files[path]? = some .link))
  | .replaceBytes path content, files, answer, files' =>
    OsFailure answer ∧ files' = files ∨
      (files[path]?).isSome ∧ files' = files.insert path (.file content) ∧
        (OsFailure answer ∨ answer = .ok ())
  | .createExclusive path, files, answer, files' =>
    OsFailure answer ∧ files' = files ∨
      files[path]? = none ∧ answer = .ok () ∧ files' = files.insert path (.file [])
  | .writeAll path content, files, answer, files' =>
    answer = .ok () ∧ files' = files.insert path (.file content) ∨
      OsFailure answer ∧ ∃ written, written <+: content ∧
        files' = files.insert path (.file written)
  | .unlink path, files, answer, files' =>
    OsFailure answer ∧ files' = files ∨ answer = .ok () ∧ files' = files.erase path
  | .upkeep _, files, answer, files' =>
    files' = files ∧ (OsFailure answer ∨ answer = .ok ())

/-- `subprocess.CompletedProcess`, as far as it is read. -/
structure CompletedProcess where
  returncode : Int
  stdout : String
  stderr : String

/-- A test command that the policy of the authority service has authorised. -/
structure AuthorizedTestCommand where
  argv : List String
  executablePath : String
  executableDigest : String
  commandDigest : String

/-- A question to the admission adapter, a test command, or the workspace manager and verifier. -/
inductive Consultation where
  | admission (request : Dict)
  | executable (name : String)
  | prepare (parameters : Dict) (commands : List AuthorizedTestCommand) (workspaceId : String)
  | close (prepared : PreparedRepoPatch)
  | testCommand (arguments : List String) (cwd : String)

abbrev Consultation.Value : Consultation → Type
  | .admission _ => Dict
  | .executable _ => String × String
  | .prepare _ _ _ => PreparedRepoPatch
  | .close _ => Unit
  | .testCommand _ _ => CompletedProcess

/-- A test command may change any file; the other collaborators work in
directories of their own. -/
def consultStep (question : Consultation) (files files' : Table Node) : Prop :=
  match question with
  | .testCommand _ _ => True
  | _ => files' = files

/-- The sections.  `promote` is `PreparedRepoPatch.promote`; it carries the
idempotency key and the permit for which it is reached. -/
inductive Section where
  | now
  | token
  | authorityClock
  | authority (call : AuthorityCall)
  | ledger (call : LedgerSection)
  | file (call : FileCall)
  | consult (question : Consultation)
  | promote (idempotencyKey permitId : String) (prepared : PreparedRepoPatch)

abbrev Section.Answer : Section → Type
  | .now => Instant
  | .token => String
  | .authorityClock => Reading
  | .authority _ => Except PyError AuthorityAnswer
  | .ledger call => Except PyError call.Value
  | .file call => Except PyError call.Value
  | .consult question => Except PyError question.Value
  | .promote _ _ _ => Except PyError Unit

/-- What the services take from `hsai_bridge`: two checks against a decision, and the admission
request that a decision with its receipt makes. -/
structure HsaiBridge where
  validateExecutionContext : Decision → Except PyError Unit
  validateGate : Dict → Decision → Except PyError Unit
  buildAdmissionRequestV2 : Decision → EvaluationResult → Json → String → Except PyError Dict

/-- The machine: the hash, the permit authority, the HSAI bridge, path resolution, and the
allowlist of test commands. -/
structure Host where
  sha : Sha256
  permits : PermitAuthority
  bridge : HsaiBridge
  backupDirectory : String
  resolve : String → String
  allowedTestCommands : List (List String)

def PreparedRepoPatch.targetPath (prepared : PreparedRepoPatch) : String :=
  prepared.sourceRepo ++ "/" ++ prepared.relativeTarget

/-- `PreparedRepoPatch.promote` replaces the target, where it still has the authorised preimage,
or raises, before or after the replacement. -/
def promoteStep (sha : Sha256) (prepared : PreparedRepoPatch) (files : Table Node)
    (answer : Except PyError Unit) (files' : Table Node) : Prop :=
  (∃ e, answer = .error e) ∧ files' = files ∨
    (∃ content, files[prepared.targetPath]? = some (.file content) ∧
      bytesDigest sha content = prepared.targetPreimageDigest sha) ∧
      files' = files.insert prepared.targetPath (.file prepared.updatedBytes)

variable (host : Host)

def worldStep :
    (op : Section) → World → op.Answer → World → Prop
  | .now, w, _, w' => w' = w
  | .token, w, _, w' => w' = w
  | .authorityClock, w, _, w' => w' = w
  | .authority call, w, answer, w' =>
    match fileCall host.sha w.authority call with
    | .ok (value, root) => answer = .ok value ∧ w' = { w with authority := root }
    | .error e => answer = .error e ∧ w' = w
  | .ledger call, w, answer, w' =>
    match ledgerCall host.sha host.permits w.ledger call with
    | .ok (value, ledger) => answer = .ok value ∧ w' = { w with ledger }
    | .error e => answer = .error e ∧ w' = w
  | .file call, w, answer, w' =>
    ∃ files, fileStep call w.files answer files ∧ w' = { w with files }
  | .consult question, w, _, w' =>
    ∃ files, consultStep question w.files files ∧ w' = { w with files }
  | .promote _ _ prepared, w, answer, w' =>
    ∃ files, promoteStep host.sha prepared w.files answer files ∧ w' = { w with files }

variable (guard : Ledger → LedgerSection → Prop)

def guardedStep (op : Section) (w : World) (answer : op.Answer) (w' : World) : Prop :=
  worldStep host op w answer w' ∧ ∀ call, op = .ledger call → guard w.ledger call

/-- A file system on which nothing fails. -/
def fileAnswer :
    (call : FileCall) → Table Node → Except PyError call.Value × Table Node
  | .isSymlink path, files => (.ok (decide (files[path]? = some .link)), files)
  | .isFile path, files => (.ok (files[path]?).isSome, files)
  | .pathExists path, files => (.ok (files[path]?).isSome, files)
  | .readBytes path, files =>
    match files[path]? with
    | some (.file content) => (.ok content, files)
    | _ => (.error ⟨.osError, "No such file or directory"⟩, files)
  | .replaceBytes path content, files =>
    if (files[path]?).isSome then (.ok (), files.insert path (.file content))
    else (.error ⟨.osError, "No such file or directory"⟩, files)
  | .createExclusive path, files =>
    if (files[path]?).isSome then (.error ⟨.osError, "File exists"⟩, files)
    else (.ok (), files.insert path (.file []))
  | .writeAll path content, files => (.ok (), files.insert path (.file content))
  | .unlink path, files => (.ok (), files.erase path)
  | .upkeep _, files => (.ok (), files)

theorem fileAnswer_step (call : FileCall) (files : Table Node) :
    fileStep call files (fileAnswer call files).1 (fileAnswer call files).2 := by
  cases call with
  | isSymlink path => exact ⟨rfl, .inr rfl⟩
  | isFile path | pathExists path => exact ⟨rfl, .inr ⟨_, rfl, .inr rfl⟩⟩
  | readBytes path =>
    simp only [fileAnswer]
    split
    · next content hcontent => exact ⟨rfl, .inr ⟨content, rfl, .inl hcontent⟩⟩
    · exact ⟨rfl, .inl ⟨_, rfl, rfl⟩⟩
  | replaceBytes path content =>
    simp only [fileAnswer]
    split
    · next hpresent => exact .inr ⟨hpresent, rfl, .inr rfl⟩
    · exact .inl ⟨⟨_, rfl, rfl⟩, rfl⟩
  | createExclusive path =>
    simp only [fileAnswer]
    split
    · exact .inl ⟨⟨_, rfl, rfl⟩, rfl⟩
    · next hfree =>
      have hnone := eq_none_of_isSome_eq_false (Bool.eq_false_of_not_eq_true hfree)
      exact .inr ⟨hnone, rfl, rfl⟩
  | writeAll path content => exact .inl ⟨rfl, rfl⟩
  | unlink path => exact .inr ⟨rfl, rfl⟩
  | upkeep path => exact ⟨rfl, .inr rfl⟩

/-- The time, the random tokens and the collaborators' answers of a computed
run. -/
structure Script where
  now : Instant
  token : String
  reply : (question : Consultation) → Except PyError question.Value

def scripted [∀ ledger call, Decidable (guard ledger call)] (script : Script) :
    (op : Section) → World → Option (op.Answer × World)
  | .now, w => some (script.now, w)
  | .token, w => some (script.token, w)
  | .authorityClock, w => some (some script.now, w)
  | .authority call, w =>
    match fileCall host.sha w.authority call with
    | .ok (value, root) => some (.ok value, { w with authority := root })
    | .error e => some (.error e, w)
  | .ledger call, w =>
    if guard w.ledger call then
      match ledgerCall host.sha host.permits w.ledger call with
      | .ok (value, ledger) => some (.ok value, { w with ledger })
      | .error e => some (.error e, w)
    else none
  | .file call, w =>
    some ((fileAnswer call w.files).1, { w with files := (fileAnswer call w.files).2 })
  | .consult question, w => some (script.reply question, w)
  | .promote _ _ prepared, w =>
    match w.files[prepared.targetPath]? with
    | some (.file content) =>
      if bytesDigest host.sha content = prepared.targetPreimageDigest host.sha then
        some (.ok (), { w with
          files := w.files.insert prepared.targetPath (.file prepared.updatedBytes) })
      else some (.error ⟨.valueError, "source target preimage changed after preparation"⟩, w)
    | _ => some (.error ⟨.valueError, "source target is unavailable"⟩, w)

theorem scripted_step {host : Host} {guard : Ledger → LedgerSection → Prop}
    [∀ ledger call, Decidable (guard ledger call)] {script : Script} (op : Section) (w : World)
    (answer : op.Answer) (w' : World)
    (h : scripted host guard script op w = some (answer, w')) :
    guardedStep host guard op w answer w' := by
  cases op with
  | now | token | authorityClock =>
    obtain ⟨-, rfl⟩ := Prod.mk.inj (Option.some.inj h)
    exact ⟨rfl, by simp⟩
  | authority call =>
    refine ⟨?_, by simp⟩
    simp only [scripted] at h
    simp only [worldStep]
    split at h <;>
    · obtain ⟨rfl, rfl⟩ := Prod.mk.inj (Option.some.inj h)
      exact ⟨rfl, rfl⟩
  | ledger call =>
    simp only [scripted] at h
    split at h
    · next hguard =>
      refine ⟨?_, ?_⟩
      · simp only [worldStep]
        split at h <;>
        · obtain ⟨rfl, rfl⟩ := Prod.mk.inj (Option.some.inj h)
          exact ⟨rfl, rfl⟩
      · rintro _ ⟨rfl⟩
        exact hguard
    · cases h
  | file call =>
    obtain ⟨rfl, rfl⟩ := Prod.mk.inj (Option.some.inj h)
    exact ⟨⟨_, fileAnswer_step call w.files, rfl⟩, by simp⟩
  | consult question =>
    obtain ⟨-, rfl⟩ := Prod.mk.inj (Option.some.inj h)
    refine ⟨⟨w.files, ?_, rfl⟩, by simp⟩
    cases question <;> simp [consultStep]
  | promote idempotencyKey permitId prepared =>
    refine ⟨?_, by simp⟩
    simp only [scripted] at h
    split at h
    · next content hcontent =>
      split at h
      · next hdigest =>
        obtain ⟨rfl, rfl⟩ := Prod.mk.inj (Option.some.inj h)
        exact ⟨_, .inr ⟨⟨content, hcontent, hdigest⟩, rfl⟩, rfl⟩
      · obtain ⟨rfl, rfl⟩ := Prod.mk.inj (Option.some.inj h)
        exact ⟨w.files, .inl ⟨⟨_, rfl⟩, rfl⟩, rfl⟩
    · obtain ⟨rfl, rfl⟩ := Prod.mk.inj (Option.some.inj h)
      exact ⟨w.files, .inl ⟨⟨_, rfl⟩, rfl⟩, rfl⟩

abbrev Program (α : Type) := Atomic.Prog Section Section.Answer α

/-- A program that may raise. -/
abbrev Py (α : Type) := Atomic.Raising Section Section.Answer PyError α

/-- A computation on private data. -/
def pure? {α : Type} (x : Except PyError α) : Py α := Atomic.Raising.ofExcept x

/-- `clock().astimezone(timezone.utc)`. -/
def clockNow : Py Instant := Atomic.Raising.perform Section.now

def tokenHex : Py String := Atomic.Raising.perform Section.token

def onLedger (call : LedgerSection) : Py call.Value :=
  (Atomic.Prog.issue (Section.ledger call) : Program (Except PyError call.Value))

def onAuthority (call : Reading → AuthorityCall) : Py AuthorityAnswer := do
  let now ← (Atomic.Raising.perform Section.authorityClock : Py Reading)
  (Atomic.Prog.issue (Section.authority (call now)) : Program (Except PyError AuthorityAnswer))

def consult (question : Consultation) : Py question.Value :=
  (Atomic.Prog.issue (Section.consult question) : Program (Except PyError question.Value))

def onFiles (call : FileCall) : Py call.Value :=
  (Atomic.Prog.issue (Section.file call) : Program (Except PyError call.Value))

def isSymlink (path : String) : Py Bool := onFiles (.isSymlink path)

def isFile (path : String) : Py Bool := onFiles (.isFile path)

/-- `path.exists()`. -/
def pathExists (path : String) : Py Bool := onFiles (.pathExists path)

def readBytes (path : String) : Py Bytes := onFiles (.readBytes path)

def atomicReplaceBytes (path : String) (content : Bytes) : Py Unit :=
  onFiles (.replaceBytes path content)

def fileDigest (path : String) : Py String := do
  let content ← readBytes path
  return bytesDigest host.sha content

end OrbitalMesh
