import OrbitalMesh.World

/-!
# The methods of the permit store

The methods of `RepoPatchPermitStore` as programs: what they do before they take
the ledger's lock, the locked sections, and the file-system calls between the
sections.  Target files are only ever written through `_atomic_replace_bytes`,
and a preimage is restored from the backup named in the record's transaction
details.
-/

namespace OrbitalMesh

def pathNames (text : List Char) : List (List Char) :=
  (text.splitOn '/').filter fun name => name != [] && name != ['.']

/-- `Path(text).is_absolute()`. -/
def isAbsolutePath (text : String) : Bool := text.toList.head? == some '/'

def pathRoot : List Char → List Char
  | '/' :: '/' :: '/' :: _ => ['/']
  | '/' :: '/' :: _ => ['/', '/']
  | '/' :: _ => ['/']
  | _ => []

/-- `str(Path(text))`. -/
def pathText (text : String) : String :=
  let names := pathNames text.toList
  let root := pathRoot text.toList
  if root = [] ∧ names = [] then "."
  else String.ofList (root ++ ['/'].intercalate names)

/-- `base / Path(relative)`, for a relative path. -/
def joinPath (base relative : String) : String := pathText (base ++ "/" ++ relative)

/-- `str(path.relative_to(base))`. -/
def relativeTo? (path base : String) : Option String :=
  let names := pathNames path.toList
  let start := pathNames base.toList
  if pathRoot path.toList = pathRoot base.toList ∧ start <+: names then
    some (pathText (String.ofList (['/'].intercalate (names.drop start.length))))
  else none

/-- `raise ValueError(text)`. -/
def raise {α : Type} (text : String) : Py α := pure? (valueError text)

/-- `if condition: raise ValueError(text)`. -/
def raiseIf (condition : Bool) (text : String) : Py Unit :=
  pure? (rejectIf condition ⟨.valueError, text⟩)

/-- `try: body` with `except classes as exc`: the exception as a value, where
it is one of the listed classes. -/
def tryExcept {α : Type} (classes : List ErrorClass) (body : Py α) :
    Py (Except PyError α) :=
  Atomic.Prog.bind body fun
    | .ok a => .ret (.ok (.ok a))
    | .error e => .ret (if e.caughtBy classes then .ok (.error e) else .error e)

/-- `{str(Path(path)) for path in parameters.get("allowed_paths", [])}`. -/
def allowedPaths (parameters : Dict) : Except PyError (List String) :=
  match parameters.get? "allowed_paths" with
  | none => .ok []
  | some (.arr items) => items.mapM fun
      | .str text => .ok (pathText text)
      | _ => .error ⟨.typeError, "expected str, bytes or os.PathLike object"⟩
  | some (.str text) => .ok (text.toList.map fun c => pathText (String.ofList [c]))
  | some (.obj members) => .ok (members.map fun member => pathText member.1)
  | some _ => .error ⟨.typeError, "object is not iterable"⟩

/-- `not root.is_absolute() or root.is_symlink()`. -/
def rootRefused (root : String) : Py Bool :=
  if isAbsolutePath root then isSymlink root else pure true

variable (host : Host)

/-- `repo_patch_target_binding`: the resolved root, the resolved target and the
digest of the target. -/
def repoPatchTargetBinding (parameters : Dict) : Py (String × String × String) := do
  let given ← pure? (requireKey parameters "repo_path")
  let root := pathText (pyStr given)
  let refused ← rootRefused root
  raiseIf refused "repo patch root must be an absolute non-symlink path"
  let repoPath := host.resolve root
  match parameters.get? "patch_template" with
  | some (.obj template) =>
    let named := pathText (textOrEmpty template "target_file")
    let unresolved := if isAbsolutePath named then named else joinPath repoPath named
    let linked ← isSymlink unresolved
    raiseIf linked "repo patch target must not be a symlink"
    let targetPath := host.resolve unresolved
    match relativeTo? targetPath repoPath with
    | none => raise "repo patch target escapes repo scope"
    | some relative =>
      let allowed ← pure? (allowedPaths parameters)
      raiseIf (!allowed.contains relative)
        "repo patch target falls outside allowed patch scope"
      let regular ← isFile targetPath
      raiseIf (!regular) "repo patch target must be an existing regular file"
      let digest ← fileDigest host targetPath
      return (repoPath, targetPath, digest)
  | _ => raise "repo patch template is missing"

/-- `repo_patch_postimage`, reading the target. -/
def readPostimage (parameters : Dict) (targetPath : String) :
    Py (Bytes × String) := do
  let read ← tryExcept [.osError] (readBytes targetPath)
  pure? (repoPatchPostimage host.sha parameters read)

/-- `gate.get("decision", {}).get("decision")`. -/
def gateDecision (gate : Dict) : Except PyError (Option Json) :=
  match gate.get? "decision" with
  | none => .ok none
  | some (.obj decision) => .ok (Dict.get? decision "decision")
  | some _ => .error ⟨.exception, "object has no attribute 'get'"⟩

/-- The checks of `issue` on its arguments. -/
def requireAdmitted (decision : Decision) (evaluation : EvaluationResult)
    (gate : Dict) (idempotencyKey : String) (ttlSeconds : Int) : Except PyError Unit := do
  requireAuthorityConfiguration host.permits
  host.permits.validateBridgeGate gate decision evaluation
  rejectIf (!(decide (1 ≤ ttlSeconds) && decide (ttlSeconds ≤ 300)))
    ⟨.valueError, "repo patch permit ttl must be between 1 and 300 seconds"⟩
  let admitted ← if truthyAt gate "allowed" then gateDecision gate else .ok none
  rejectIf (!Json.pyEqOpt admitted (some (.str "allow")))
    ⟨.valueError, "repo patch permit requires an allowed HSAI decision"⟩
  rejectIf (decide (gate.get? "authority_eligible" ≠ some (.bool true)))
    ⟨.valueError, "repo patch permit requires an authority-eligible HSAI adapter"⟩
  rejectIf (!evaluation.passed || evaluation.finalRecommendation != "execute")
    ⟨.valueError, "repo patch permit requires Mesh execute approval"⟩
  rejectIf (idempotencyKey != decision.decisionId ++ ":" ++ decision.action)
    ⟨.valueError, "repo patch permit idempotency key mismatch"⟩

/-- `issue`. -/
def issuePermit (decision : Decision) (evaluation : EvaluationResult)
    (gate : Dict) (idempotencyKey : String) (ttlSeconds : Int)
    (permitId authorityNonce : Option String) : Py Permit := do
  pure? (requireAdmitted host decision evaluation gate idempotencyKey ttlSeconds)
  let parameters := canonicalActuationParameters decision.parameters
  let (repoPath, targetPath, targetPreimageDigest) ← repoPatchTargetBinding host parameters
  let (_, targetPostimageDigest) ← readPostimage host parameters targetPath
  let now ← clockNow
  let expiresAt ← pure? (addSeconds now ttlSeconds)
  let randomPermitId ← tokenHex
  let randomNonce ← tokenHex
  let outcome ← onLedger (.issue
    { idempotencyKey, parameters, gate, evaluation, repoPath, targetPath,
      targetPreimageDigest, targetPostimageDigest, now, expiresAt, permitId,
      authorityNonce, randomPermitId, randomNonce })
  return outcome.permit

/-- `REPO_PATCH_PERMIT_SIGNING_PROFILE`. -/
def permitSigningProfile : String := "mesh-repo-patch-execution-permit-hmac-sha256-v1"

/-- The checks of `_validate_permit` on the permit alone. -/
def requireAuthentic (permit : Permit) : Except PyError Unit := do
  requireAuthorityConfiguration host.permits
  host.permits.validatePayload permit.toDict
  host.permits.validateSemantics permit.toDict
  rejectIf (permit.issuer != host.permits.issuer)
    ⟨.valueError, "repo patch permit issuer mismatch"⟩
  rejectIf (permit.executorAudience != host.permits.executorAudience)
    ⟨.valueError, "repo patch permit executor audience mismatch"⟩
  match permit.authorizationProof with
  | .obj proof =>
    rejectIf (!Json.pyEqOpt (Dict.get? proof "key_id") (some (.str host.permits.signingKeyId)))
      ⟨.valueError, "repo patch permit signing key id mismatch"⟩
    rejectIf
      (!Json.pyEqOpt (Dict.get? proof "signing_profile") (some (.str permitSigningProfile)))
      ⟨.valueError, "repo patch permit signing profile mismatch"⟩
    rejectIf (!host.permits.verifyProof permit.signedPayload (.obj proof))
      ⟨.valueError, "repo patch permit HMAC verification failed"⟩
  | _ => valueError "repo patch permit authorization proof missing"
  rejectIf (permit.permitDigest != canonicalDigest host.sha (.obj permit.digestedDict))
    ⟨.valueError, "repo patch permit digest mismatch"⟩

/-- The checks of `_validate_permit` against the decision, its parameters, the
clock and the current target. -/
def requireBound (permit : Permit) (decision : Decision)
    (idempotencyKey : String) (parameters : Dict) (now : Instant)
    (repoPath targetPath preimageDigest : String) : Except PyError Unit := do
  rejectIf (decide (now < permit.notBefore))
    ⟨.valueError, "repo patch permit is not active yet"⟩
  rejectIf (decide (permit.expiresAt < now)) ⟨.valueError, "repo patch permit expired"⟩
  rejectIf (permit.idempotencyKey != idempotencyKey)
    ⟨.valueError, "repo patch permit idempotency key mismatch"⟩
  rejectIf (idempotencyKey != decision.decisionId ++ ":" ++ decision.action)
    ⟨.valueError, "repo patch decision idempotency binding mismatch"⟩
  rejectIf (!Json.pyEq permit.meshActionId (.str decision.decisionId))
    ⟨.valueError, "repo patch permit action mismatch"⟩
  rejectIf (permit.canonicalActuationPayloadDigest != canonicalDigest host.sha (.obj parameters))
    ⟨.valueError, "repo patch permit actuation payload mismatch"⟩
  rejectIf (permit.repoPath != repoPath || permit.targetPath != targetPath)
    ⟨.valueError, "repo patch permit target path mismatch"⟩
  rejectIf (permit.targetPreimageDigest != preimageDigest)
    ⟨.valueError, "repo patch permit target preimage mismatch"⟩

/-- `request.get("actor_ref", {}).get("team_id")`. -/
def actorTeam (request : Dict) : Except PyError (Option Json) :=
  match request.get? "actor_ref" with
  | none => .ok none
  | some (.obj actor) => .ok (Dict.get? actor "team_id")
  | some _ => .error ⟨.exception, "object has no attribute 'get'"⟩

variable (permit : Permit)

/-- The checks of `_validate_permit` against the attached execution context. -/
def requireContext (decision : Decision) : Except PyError Unit :=
  match decision.parameters.get? hsaiExecutionContextKey with
  | some (.obj context) =>
    match Dict.get? context "request" with
    | some (.obj request) => do
      let team ← actorTeam request
      rejectIf (!Json.pyEqOpt (some permit.tenant) team)
        ⟨.valueError, "repo patch permit tenant mismatch"⟩
      rejectIf
        (!Json.pyEqOpt (some permit.hsaiRequestDigest) (Dict.get? context "request_digest"))
        ⟨.valueError, "repo patch permit hsai_request_digest mismatch"⟩
      rejectIf
        (!Json.pyEqOpt (some permit.hsaiDecisionDigest) (Dict.get? context "decision_digest"))
        ⟨.valueError, "repo patch permit hsai_decision_digest mismatch"⟩
      rejectIf
        (!Json.pyEqOpt (some permit.candidatePayloadDigest)
          (Dict.get? context "candidate_digest"))
        ⟨.valueError, "repo patch permit candidate_payload_digest mismatch"⟩
    | _ => valueError "repo patch permit tenant mismatch"
  | _ => valueError "repo patch permit missing HSAI execution context"

def validatePermit (permit : Permit) (decision : Decision)
    (idempotencyKey : String) (actuationParameters : Dict) : Py Unit := do
  pure? (requireAuthentic host permit)
  let parameters := canonicalActuationParameters actuationParameters
  let (repoPath, targetPath, preimageDigest) ← repoPatchTargetBinding host parameters
  let now ← clockNow
  pure? (requireBound host permit decision idempotencyKey parameters now repoPath targetPath
    preimageDigest)
  let (_, postimageDigest) ← readPostimage host parameters targetPath
  raiseIf (permit.targetPostimageDigest != postimageDigest)
    "repo patch permit target postimage mismatch"
  pure? (requireContext permit decision)

/-- The receipt that `consume` returns. -/
def authorityReceipt : Dict :=
  [("permit_id", .str permit.permitId),
   ("permit_digest", .str permit.permitDigest),
   ("authority_entry_digest", .str permit.authorityEntryDigest),
   ("ledger_tip_after", .str permit.ledgerTipAfter),
   ("target_preimage_digest", .str permit.targetPreimageDigest),
   ("target_postimage_digest", .str permit.targetPostimageDigest),
   ("transaction_version", .str transactionVersion)]

/-- `consume`. -/
def consumePermit (permit : Permit) (decision : Decision)
    (idempotencyKey : String) (actuationParameters : Dict) : Py Dict := do
  validatePermit host permit decision idempotencyKey actuationParameters
  let now ← clockNow
  let _ ← onLedger (.consume permit now)
  return authorityReceipt permit

/-- `record_transition`. -/
def transitionPermit (permitId : String) (expectedState newState : PermitState)
    (details terminalResult : Option Dict) : Py PermitRecord := do
  let now ← clockNow
  onLedger (.recordTransition permitId expectedState newState details terminalResult now)

def validatedBackupPath (details : Dict) (permit : Permit) : Py String := do
  let backupPath := host.resolve (pathText (textOrEmpty details "backup_path"))
  raiseIf (relativeTo? backupPath (host.resolve host.backupDirectory)).isNone
    "authority backup escapes the configured backup directory"
  let regular ← isFile backupPath
  raiseIf (!regular) "authority backup is missing"
  let digest ← fileDigest host backupPath
  raiseIf (digest != permit.targetPreimageDigest)
    "authority backup does not match the authorized preimage"
  return backupPath

/-- The common part of `abort_with_restoration` and `recover_incomplete_actions`. -/
def restorePreimage (permit : Permit) (details : Option Dict)
    (symlinkMessage : String) : Py String :=
  match details with
  | none => raise "authority transaction metadata is missing"
  | some details => do
    let backupPath ← validatedBackupPath host details permit
    let linked ← isSymlink permit.targetPath
    raiseIf linked symlinkMessage
    let digest ← fileDigest host permit.targetPath
    raiseIf (digest != permit.targetPreimageDigest && digest != permit.targetPostimageDigest)
      "target state does not match the authorized preimage or postimage"
    let backup ← readBytes backupPath
    atomicReplaceBytes permit.targetPath backup
    let restored ← fileDigest host permit.targetPath
    raiseIf (restored != permit.targetPreimageDigest)
      "restored target does not match the authorized preimage"
    return backupPath

def fenceRecovery (permitId : String) (expectedState : PermitState) (permit : Permit)
    (reason : String) : Py Dict := do
  let now ← clockNow
  let _ ← onLedger (.fenceRecovery permitId expectedState permit.repoPath reason now)
  return fencedResult permitId permit.repoPath reason

def abortedResult (reason backupPath : String) (testResults : List Json) :
    Dict :=
  [("status", .str "failed"),
   ("external_refs", .obj
      [("permit_id", .str permit.permitId),
       ("backup_path", .str backupPath),
       ("test_results", .arr testResults),
       ("target_restored", .bool true)]),
   ("failure", .obj [("reason", .str reason)]),
   ("retryable", .bool false)]

def restorationErrors : List ErrorClass := [.keyError, .osError, .typeError, .valueError]

def abortWithRestoration (permit : Permit) (expectedState : PermitState)
    (reason : String) (testResults : List Json) : Py Dict := do
  let restored ← tryExcept restorationErrors do
    let details ← onLedger (.restorationDetails permit.permitId expectedState)
    restorePreimage host permit details "repo patch restoration target became a symlink"
  match restored with
  | .error e => fenceRecovery permit.permitId expectedState permit e.text
  | .ok backupPath =>
    let terminal := abortedResult permit reason backupPath testResults
    let restoredAt ← clockNow
    let _ ← transitionPermit permit.permitId expectedState .aborted
      (some [("restored", .bool true), ("restored_at", .str (formatTime restoredAt))])
      (some terminal)
    return terminal

/-- An entry of the list that `recover_incomplete_actions` returns. -/
structure RecoveredAction where
  permitId : String
  state : PermitState
  result : Dict

/-- One round of the loop of `recover_incomplete_actions`. -/
def recoverCandidate (candidate : Candidate) : Py RecoveredAction := do
  let permit := candidate.record.permit
  let restored ← tryExcept restorationErrors
    (restorePreimage host permit candidate.record.transaction
      "repo patch recovery target became a symlink")
  match restored with
  | .error e =>
    let result ← fenceRecovery candidate.permitId candidate.record.state permit e.text
    return ⟨candidate.permitId, .recoveryRequired, result⟩
  | .ok backupPath =>
    let terminal := abortedResult permit
      "incomplete repo patch authority transaction restored during recovery" backupPath []
    let recoveredAt ← clockNow
    let _ ← transitionPermit candidate.permitId candidate.record.state .aborted
      (some [("recovered_at", .str (formatTime recoveredAt)), ("restored", .bool true)])
      (some terminal)
    return ⟨candidate.permitId, .aborted, terminal⟩

/-- The loop of `recover_incomplete_actions`. -/
def recoverCandidates (host : Host) : List Candidate → Py (List RecoveredAction)
  | [] => pure []
  | candidate :: rest => do
    let first ← recoverCandidate host candidate
    let others ← recoverCandidates host rest
    return first :: others

def recoverIncompleteActions : Py (List RecoveredAction) := do
  let candidates ← onLedger .incompleteActions
  recoverCandidates host candidates

variable (path : String) (content : Bytes)

def holdsContent : Py Bool := do
  let linked ← isSymlink path
  if linked then
    return false
  else
    let regular ← isFile path
    if regular then
      let found ← readBytes path
      return found == content
    else
      return false

/-- `write_immutable_backup` on a path that is taken. -/
def requireSameBackup : Py Unit := do
  let same ← holdsContent path content
  raiseIf (!same) "authority backup path already exists with different content"

def dropPartialBackup : Py Unit := do
  let present ← pathExists path
  if present then
    let written ← readBytes path
    if written != content then onFiles (.unlink path) else return ()
  else
    return ()

/-- The handler of `write_immutable_backup`. -/
def removePartialBackup (e : PyError) : Py Unit := do
  dropPartialBackup path content
  pure? (.error e)

def writeImmutableBackup : Py Unit := do
  let _ ← onFiles (.upkeep path)
  let present ← pathExists path
  if present then
    requireSameBackup path content
  else
    tryCatch
      (do
        let _ ← onFiles (.createExclusive path)
        let _ ← onFiles (.writeAll path content)
        let _ ← onFiles (.upkeep path))
      (removePartialBackup path content)

end OrbitalMesh
