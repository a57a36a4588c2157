import OrbitalMesh.Authority.FileStore

/-!
# The Postgres authority store

`PostgresRepoPatchAuthorityStore` over the two tables of migration 006.  A
call is one transaction: an exception discards everything the transaction has
written, which is what returning an error without a database says here.

Two things are left to the server (`PostgresServer`): which of several
matching rows `fetchone` returns, and in which order a JSONB column lists the
members of the objects it returns.
-/

namespace OrbitalMesh

/-- A row of `repo_patch_authority_records`. -/
structure RecordRow where
  authorityId : String
  idempotencyKey : String
  nonce : String
  actionBindingDigest : String
  state : AuthorityState
  version : Nat
  eventSequence : Nat
  latestEventDigest : String
  record : AuthorityRecord
  createdAt : Instant
  updatedAt : Instant

/-- A row of `repo_patch_authority_events`. -/
structure EventRow where
  authorityId : String
  sequence : Nat
  eventId : String
  eventType : EventType
  stateVersion : Nat
  previousEventDigest : String
  eventDigest : String
  recordedAt : Instant
  receipt : EventReceipt

structure Database where
  records : List RecordRow
  events : List EventRow

def Database.empty : Database := ⟨[], []⟩

/-- The freedom of the server during one call: which matching row `fetchone` returns, and the
order of the members of a JSONB value. -/
structure PostgresServer where
  fetchone : List RecordRow → Option RecordRow
  jsonb : Json → Json
  fetchone_mem : ∀ rows row, fetchone rows = some row → row ∈ rows
  fetchone_none : ∀ rows, fetchone rows = none → rows = []
  jsonb_canon : ∀ value, (jsonb value).canon = value.canon

variable (server : PostgresServer)

/-- `_decoded_json` of the `record` column. -/
def PostgresServer.decodedRecord (record : AuthorityRecord) :
    AuthorityRecord :=
  { record with
    actionBinding := server.jsonb record.actionBinding
    terminalResult := record.terminalResult.map server.jsonb }

/-- `_decoded_json` of the `receipt` column. -/
def PostgresServer.decodedReceipt (receipt : EventReceipt) :
    EventReceipt :=
  { receipt with payload := (server.jsonb (.obj receipt.payload)).asObj?.getD [] }

def constraintViolation (violated : Bool) (constraint : String) : Except PyError Unit :=
  rejectIf violated ⟨.exception, "row violates constraint " ++ pyRepr constraint⟩

/-- The row that `issue_or_get` inserts. -/
def recordRow (record : AuthorityRecord) : RecordRow where
  authorityId := record.authorityId
  idempotencyKey := record.idempotencyKey
  nonce := record.nonce
  actionBindingDigest := record.actionBindingDigest
  state := record.state
  version := record.version
  eventSequence := record.eventSequence
  latestEventDigest := record.latestEventDigest
  record := record
  createdAt := record.issuedAt
  updatedAt := record.updatedAt

/-- The row that `_append_event` inserts. -/
def eventRow (event : EventReceipt) : EventRow where
  authorityId := event.authorityId
  sequence := event.sequence
  eventId := event.eventId
  eventType := event.eventType
  stateVersion := event.stateVersion
  previousEventDigest := event.previousEventDigest
  eventDigest := event.eventDigest
  recordedAt := event.recordedAt
  receipt := event

/-- `INSERT INTO repo_patch_authority_records`. -/
def insertRecord (db : Database) (row : RecordRow) : Except PyError Database := do
  constraintViolation (decide (row.version = 0)) "repo_patch_authority_records_version_check"
  constraintViolation (decide (row.eventSequence = 0))
    "repo_patch_authority_records_event_sequence_check"
  constraintViolation (db.records.any fun other => other.authorityId == row.authorityId)
    "repo_patch_authority_records_pkey"
  constraintViolation (db.records.any fun other => other.idempotencyKey == row.idempotencyKey)
    "repo_patch_authority_records_idempotency_key_key"
  constraintViolation (db.records.any fun other => other.nonce == row.nonce)
    "repo_patch_authority_records_nonce_key"
  return { db with records := db.records ++ [row] }

def appendEvent (db : Database) (event : EventReceipt) : Except PyError Database := do
  let row := eventRow event
  constraintViolation (decide (row.sequence = 0)) "repo_patch_authority_events_sequence_check"
  constraintViolation (decide (row.stateVersion = 0))
    "repo_patch_authority_events_state_version_check"
  constraintViolation (!db.records.any fun other => other.authorityId == row.authorityId)
    "repo_patch_authority_events_authority_id_fkey"
  constraintViolation
    (db.events.any fun other =>
      other.authorityId == row.authorityId && other.sequence == row.sequence)
    "repo_patch_authority_events_pkey"
  constraintViolation (db.events.any fun other => other.eventId == row.eventId)
    "repo_patch_authority_events_event_id_key"
  constraintViolation (db.events.any fun other => other.eventDigest == row.eventDigest)
    "repo_patch_authority_events_event_digest_key"
  return { db with events := db.events ++ [row] }

variable (sha : Sha256)

/-- `PostgresRepoPatchAuthorityStore.issue_or_get`. -/
def pgIssueOrGet (server : PostgresServer) (db : Database)
    (authorityId idempotencyKey nonce : String) (actionBinding : Json) (now : Reading) :
    Except PyError (AuthorityRecord × Database) := do
  let request ← validatedIssueRequest sha authorityId idempotencyKey nonce actionBinding
  match server.fetchone (db.records.filter fun row => row.authorityId == authorityId ||
      row.idempotencyKey == idempotencyKey || row.nonce == nonce) with
  | some row =>
    let existing := server.decodedRecord row.record
    requireSameIssue sha existing request
    return (existing, db)
  | none =>
    let (record, event) ← newIssue sha request now
    let db ← insertRecord db (recordRow record)
    let db ← appendEvent db event
    return (record, db)

/-- The assignments of the `UPDATE` in `_transition`. -/
def updatedRow (updated : AuthorityRecord) (row : RecordRow) : RecordRow :=
  { row with
    state := updated.state
    version := updated.version
    eventSequence := updated.eventSequence
    latestEventDigest := updated.latestEventDigest
    record := updated
    updatedAt := updated.updatedAt }

/-- `UPDATE ... WHERE authority_id = %s AND version = %s AND state = %s
RETURNING authority_id`. -/
def compareAndSet (db : Database) (authorityId : String) (expectedVersion : Int)
    (state : AuthorityState) (updated : AuthorityRecord) : Except PyError Database := do
  let matching (row : RecordRow) : Bool := row.authorityId == authorityId &&
    decide ((row.version : Int) = expectedVersion) && row.state == state
  rejectIf (!db.records.any matching)
    ⟨.authorityConflictError, "authority compare-and-set failed"⟩
  constraintViolation (decide (updated.version = 0))
    "repo_patch_authority_records_version_check"
  constraintViolation (decide (updated.eventSequence = 0))
    "repo_patch_authority_records_event_sequence_check"
  return { db with
    records := db.records.map fun row => if matching row then updatedRow updated row else row }

/-- `PostgresRepoPatchAuthorityStore._transition`. -/
def pgTransition (db : Database) (authorityId : String)
    (expectedVersion : Int)
    (transition : AuthorityRecord → Except PyError (AuthorityRecord × EventReceipt)) :
    Except PyError (AuthorityRecord × Database) := do
  requiredText authorityId "authority_id"
  requiredVersion expectedVersion
  match server.fetchone (db.records.filter fun row => row.authorityId == authorityId) with
  | none => .error ⟨.authorityNotFoundError,
      "authority record " ++ pyRepr authorityId ++ " does not exist"⟩
  | some row =>
    let current := server.decodedRecord row.record
    let (updated, event) ← transition current
    let db ← compareAndSet db authorityId expectedVersion current.state updated
    let db ← appendEvent db event
    return (updated, db)

/-- `PostgresRepoPatchAuthorityStore.read_for_reconciliation`. -/
def pgReadForReconciliation (server : PostgresServer) (db : Database)
    (authorityId : String) : Except PyError (Option Dict) :=
  match server.fetchone (db.records.filter fun row => row.authorityId == authorityId) with
  | none => .ok none
  | some row => do
    let rows := (db.events.filter fun row => row.authorityId == authorityId).insertionSort
      fun a b => a.sequence ≤ b.sequence
    let view ← reconciliationPayload sha (server.decodedRecord row.record).toDict
      (receiptsJson (some (rows.map fun row => server.decodedReceipt row.receipt)))
    return some view

def pgCall (server : PostgresServer) (db : Database) :
    AuthorityCall → Except PyError (AuthorityAnswer × Database)
  | .issueOrGet authorityId idempotencyKey nonce actionBinding now =>
    answerRecord
      (pgIssueOrGet sha server db authorityId idempotencyKey nonce actionBinding now)
  | .leaseForDispatch authorityId expectedVersion leaseId leaseSeconds now =>
    answerRecord (pgTransition server db authorityId expectedVersion fun current =>
      leaseTransition sha current expectedVersion leaseId leaseSeconds now)
  | .markDispatched authorityId expectedVersion leaseId now =>
    answerRecord (pgTransition server db authorityId expectedVersion fun current =>
      dispatchTransition sha current expectedVersion leaseId now)
  | .completeTerminal authorityId expectedVersion leaseId outcome result now =>
    answerRecord (pgTransition server db authorityId expectedVersion fun current =>
      terminalTransition sha current expectedVersion leaseId outcome result now)
  | .readForReconciliation authorityId =>
    (pgReadForReconciliation sha server db authorityId).map fun view => (.view view, db)

def pgNext (db : Database) (call : AuthorityCall × PostgresServer) : Database :=
  match pgCall sha call.2 db call.1 with
  | .ok (_, db') => db'
  | .error _ => db

def pgRun (db : Database) (calls : List (AuthorityCall × PostgresServer)) :
    Database :=
  calls.foldl (pgNext sha) db

end OrbitalMesh
