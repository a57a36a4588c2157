import OrbitalMesh.Runtime
import OrbitalMesh.Base.Atomic

/-!
# The outbox of the Helix memory projection

Every record that is to be projected into the graph database is first written to an
outbox, then projected, then marked as applied or failed; what is not applied is
replayed later.  The process may stop between any two of these steps, and a projection
may fail.

The projection is a map from records to the version written last.  A version is
what `json.dumps(..., sort_keys=True)` tells apart (`SameVersion`).
-/

namespace OrbitalMesh.Helix

open Atomic

/-- `_PROJECTION_OPERATIONS`. -/
inductive Operation where
  | upsertObservation
  | upsertClaim
  | upsertRelationship
  | upsertSupersession
  | recordRetrieval
  | upsertMemoryPacket
deriving DecidableEq

def Operation.name : Operation → String
  | .upsertObservation => "upsert_observation"
  | .upsertClaim => "upsert_claim"
  | .upsertRelationship => "upsert_relationship"
  | .upsertSupersession => "upsert_supersession"
  | .recordRetrieval => "record_retrieval"
  | .upsertMemoryPacket => "upsert_memory_packet"

/-- `_PROJECTION_ID_KEYS`. -/
def Operation.idKey : Operation → String
  | .upsertObservation => "observation_id"
  | .upsertClaim => "claim_id"
  | .upsertRelationship => "relationship_id"
  | .upsertSupersession => "supersession_id"
  | .recordRetrieval => "retrieval_id"
  | .upsertMemoryPacket => "packet_id"

/-- What the outbox and the projection are built with.  `isAlnum` is
`str.isalnum` of one character. -/
structure HelixConfig where
  sha : Sha256
  isAlnum : Char → Bool
  raiseOnFailure : Bool := false

variable (config : HelixConfig)

def safeEventIdPart (raw : String) : String :=
  String.ofList (raw.toList.map fun c =>
    if config.isAlnum c || c == '-' || c == '_' || c == '.' then c else '_')

variable (operation : Operation) (record : Dict)

def projectionEventId : String :=
  let value := (record.get? operation.idKey).getD .null
  let identity := safeEventIdPart config (if truthy value then pyStr value else "unknown")
  let payloadHash := (config.sha.ofJson (Json.obj record).canon).take 24
  operation.name ++ ":" ++ identity ++ ":" ++ payloadHash

theorem projectionEventId_ne_empty : projectionEventId config operation record ≠ "" := by
  intro h
  have hchars := congrArg String.toList h
  simp [projectionEventId] at hchars

def recordKey : Operation × String :=
  (operation, pyStr ((record.get? operation.idKey).getD .null))

/-- The two records are written down alike. -/
def SameVersion (a b : Dict) : Prop := (Json.obj a).canon = (Json.obj b).canon

instance (a b : Dict) : Decidable (SameVersion a b) := inferInstanceAs (Decidable (_ = _))

inductive Status where
  | pending
  | failed
  | applied
deriving DecidableEq

structure OutboxEvent where
  eventId : String
  operation : Operation
  record : Dict
  status : Status := .pending
  attempts : Nat := 0
  lastError : Option String := none
  createdAt : String
  updatedAt : String
  appliedAt : Option String := none
deriving DecidableEq

/-- `event.get("status") in {"pending", "failed"}`. -/
def OutboxEvent.waits (event : OutboxEvent) : Bool := event.status ≠ .applied

/-- `build_helix_memory_projection_event`. -/
def buildEvent (now : String) :
    OutboxEvent where
  eventId := projectionEventId config operation record
  operation
  record
  createdAt := now
  updatedAt := now

/-- The outbox, and what the projection holds. -/
structure HelixStore where
  outbox : List OutboxEvent := []
  projection : Operation × String → Option Dict := fun _ => none

def updateFirst (eventId : String) (change : OutboxEvent → OutboxEvent) :
    List OutboxEvent → List OutboxEvent
  | [] => []
  | event :: rest =>
    if event.eventId = eventId then change event :: rest
    else event :: updateFirst eventId change rest

/-- The counters of `_outbox_status`. -/
structure OutboxStatus where
  total : Nat
  pending : Nat
  failed : Nat
  applied : Nat
  lastError : Option String

namespace HelixStore

/-- `enqueue`: an event that is listed already stays in its place, and keeps its
status if it has been applied. -/
def enqueue (config : HelixConfig) (operation : Operation) (record : Dict) (now : String)
    (s : HelixStore) : String × HelixStore :=
  let event := buildEvent config operation record now
  let renew (existing : OutboxEvent) : OutboxEvent :=
    if existing.status ≠ .applied then
      { existing with
        operation := event.operation
        record := event.record
        status := .pending
        updatedAt := event.updatedAt }
    else existing
  if s.outbox.any fun existing => existing.eventId = event.eventId then
    (event.eventId, { s with outbox := updateFirst event.eventId renew s.outbox })
  else (event.eventId, { s with outbox := s.outbox ++ [event] })

def project (operation : Operation) (record : Dict) (s : HelixStore) : HelixStore :=
  { s with
    projection := Function.update s.projection (recordKey operation record) (some record) }

def markApplied (eventId now : String) (s : HelixStore) : HelixStore :=
  { s with
    outbox := updateFirst eventId (fun event =>
      { event with
        status := .applied
        updatedAt := now
        lastError := none
        appliedAt := some now
        attempts := event.attempts + 1 }) s.outbox }

def markFailed (eventId errorMessage now : String) (s : HelixStore) : HelixStore :=
  { s with
    outbox := updateFirst eventId (fun event =>
      { event with
        status := .failed
        updatedAt := now
        lastError := some errorMessage
        appliedAt := none
        attempts := event.attempts + 1 }) s.outbox }

def pendingEvents (limit : Option Int) (s : HelixStore) : List OutboxEvent :=
  let events := s.outbox.filter OutboxEvent.waits
  match limit with
  | none => events
  | some limit => events.take (max limit 0).toNat

def status (s : HelixStore) : OutboxStatus where
  total := s.outbox.length
  pending := s.outbox.countP fun event => event.status = .pending
  failed := s.outbox.countP fun event => event.status = .failed
  applied := s.outbox.countP fun event => event.status = .applied
  lastError := (s.outbox.filterMap OutboxEvent.lastError).filter (· ≠ "") |>.getLast?

end HelixStore

/-- The classes of exceptions that the projection tells apart; the last is what is no
`Exception`. -/
inductive FailureClass where
  | recordError
  | projectionError
  | exception
  | interrupt
deriving DecidableEq

/-- An exception raised by a projection call. -/
structure Failure where
  cls : FailureClass
  text : String

/-- `except HelixMemoryProjectionError`. -/
def Failure.isProjectionError (failure : Failure) : Bool :=
  failure.cls = .recordError || failure.cls = .projectionError

/-- One step of the outbox or of the projection. -/
inductive HelixOp where
  | enqueue (operation : Operation) (record : Dict)
  | call (operation : Operation) (record : Dict)
  | markApplied (eventId : String)
  | markFailed (eventId errorMessage : String)
  | pendingEvents (limit : Option Int)
  | status

def HelixResp : HelixOp → Type
  | .enqueue _ _ => String
  | .call _ _ => Except Failure Unit
  | .markApplied _ => Unit
  | .markFailed _ _ => Unit
  | .pendingEvents _ => List OutboxEvent
  | .status => OutboxStatus

def helixStep :
    (op : HelixOp) → HelixStore → HelixResp op → HelixStore → Prop
  | .enqueue operation record, s, eventId, t =>
    ∃ now, s.enqueue config operation record now = (eventId, t)
  | .call operation record, s, .ok (), t => t = s.project operation record
  | .call _ _, s, .error _, t => t = s
  | .markApplied eventId, s, _, t => ∃ now, t = s.markApplied eventId now
  | .markFailed eventId errorMessage, s, _, t => ∃ now, t = s.markFailed eventId errorMessage now
  | .pendingEvents limit, s, events, t => events = s.pendingEvents limit ∧ t = s
  | .status, s, counts, t => counts = s.status ∧ t = s

/-- A method of the projection. -/
abbrev HelixProg (α : Type) := Prog HelixOp HelixResp α

namespace DurableHelixMemoryProjection

def issue (op : HelixOp) : HelixProg (HelixResp op) := Prog.issue op

def enqueue (operation : Operation) (record : Dict) : HelixProg String :=
  issue (.enqueue operation record)

def callOperation (operation : Operation) (record : Dict) : HelixProg (Except Failure Unit) :=
  issue (.call operation record)

def markApplied (eventId : String) : HelixProg Unit := issue (.markApplied eventId)

def markFailed (eventId errorMessage : String) : HelixProg Unit :=
  issue (.markFailed eventId errorMessage)

variable (limit : Option Int)

def pendingEvents : HelixProg (List OutboxEvent) :=
  issue (.pendingEvents limit)

def status : HelixProg OutboxStatus := issue .status

/-- The handlers of `_project`. -/
def projectFailed (config : HelixConfig) (eventId : String) (operation : Operation)
    (failure : Failure) : HelixProg (Except Failure Unit) :=
  match failure.cls with
  | .recordError => do
    markFailed eventId failure.text
    pure (.error failure)
  | .projectionError => do
    markFailed eventId failure.text
    pure (if config.raiseOnFailure then .error failure else .ok ())
  | .exception => do
    let wrapped : Failure :=
      ⟨.projectionError, "HelixDB memory projection operation '" ++ operation.name ++
        "' failed: " ++ failure.text⟩
    markFailed eventId wrapped.text
    pure (if config.raiseOnFailure then .error wrapped else .ok ())
  | .interrupt => pure (.error failure)

def project (config : HelixConfig) (operation : Operation) (record : Dict) :
    HelixProg (Except Failure Unit) := do
  let eventId ← enqueue operation record
  match ← callOperation operation record with
  | .ok () => do
    markApplied eventId
    pure (.ok ())
  | .error failure => projectFailed config eventId operation failure

/-- The counters of `replay_pending`. -/
structure ReplayResult where
  attempted : Nat := 0
  applied : Nat := 0
  failed : Nat := 0
  failures : List (String × String) := []

/-- The loop of `replay_pending`.  The record of an event is always a
dictionary. -/
def replayEvents : List OutboxEvent → ReplayResult → HelixProg (Except Failure ReplayResult)
  | [], result => pure (.ok result)
  | event :: rest, result =>
    if event.eventId = "" then
      replayEvents rest { result with
        attempted := result.attempted + 1
        failed := result.failed + 1
        failures := result.failures ++
          [(event.eventId, "HelixDB projection outbox event is malformed")] }
    else do
      match ← callOperation event.operation event.record with
      | .ok () => do
        markApplied event.eventId
        replayEvents rest { result with
          attempted := result.attempted + 1
          applied := result.applied + 1 }
      | .error failure =>
        if failure.isProjectionError then do
          markFailed event.eventId failure.text
          replayEvents rest { result with
            attempted := result.attempted + 1
            failed := result.failed + 1
            failures := result.failures ++ [(event.eventId, failure.text)] }
        else pure (.error failure)

/-- The end of `replay_pending`. -/
def withStatus : Except Failure ReplayResult →
    HelixProg (Except Failure (ReplayResult × OutboxStatus))
  | .ok result => do
    let counts ← status
    pure (.ok (result, counts))
  | .error failure => pure (.error failure)

def replayPending : HelixProg (Except Failure (ReplayResult × OutboxStatus)) := do
  let events ← pendingEvents limit
  let outcome ← replayEvents events {}
  withStatus outcome

end DurableHelixMemoryProjection

abbrev Trace := List (Event HelixOp HelixResp)

def awaitsAfter (eventId : String) (before : Bool) :
    Event HelixOp HelixResp → Bool
  | ⟨.enqueue operation record, _⟩ =>
    before || projectionEventId config operation record == eventId
  | ⟨.call operation record, .ok ()⟩ =>
    before && projectionEventId config operation record != eventId
  | _ => before

variable (trace past : Trace) (key : Operation × String)

/-- The event was enqueued, and no projection call for it has succeeded since. -/
def awaits (eventId : String) : Bool :=
  past.foldl (awaitsAfter config eventId) false

/-- The version that one step makes the newest. -/
def newestAfter (before : Option Dict) :
    Event HelixOp HelixResp → Option Dict
  | ⟨.enqueue operation record, _⟩ =>
    if recordKey operation record = key then some record else before
  | _ => before

/-- The version of a record that was enqueued last. -/
def newest : Option Dict :=
  past.foldl (newestAfter key) none

def called : List (Operation × Dict) :=
  trace.filterMap fun step =>
    match step with
    | ⟨.call operation record, _⟩ => some (operation, record)
    | _ => none

/-- The exceptions that projection calls raised. -/
def raised : List Failure :=
  trace.filterMap fun step =>
    match step with
    | ⟨.call _ _, .error failure⟩ => some failure
    | _ => none

/-- Upserts and replays, each to its end or up to where the process stopped; `whole` is asked of
an upsert. -/
inductive History (config : HelixConfig)
    (step : (op : HelixOp) → HelixStore → HelixResp op → HelixStore → Prop)
    (whole : Operation → Dict → HelixStore → Trace → Prop) : Trace → HelixStore → Prop
  | start : History config step whole [] {}
  | upsert {past trace : Trace} {s t : HelixStore} {operation : Operation} {record : Dict}
      {p : HelixProg (Except Failure Unit)} (earlier : History config step whole past s)
      (run : Runs step (DurableHelixMemoryProjection.project config operation record) s trace p t)
      (hwhole : whole operation record s trace) : History config step whole (past ++ trace) t
  | replay {past trace : Trace} {s t : HelixStore} {limit : Option Int}
      {p : HelixProg (Except Failure (DurableHelixMemoryProjection.ReplayResult × OutboxStatus))}
      (earlier : History config step whole past s)
      (run : Runs step (DurableHelixMemoryProjection.replayPending limit) s trace p t) :
      History config step whole (past ++ trace) t

/-- After a history each event not yet projected is pending, and a replay whose calls all succeed
leaves the newest version of every record. -/
structure Converges (step : (op : HelixOp) → HelixStore → HelixResp op → HelixStore → Prop)
    (handled : Failure → Prop) (past : Trace) (s : HelixStore) : Prop where
  kept : ∀ eventId, awaits config past eventId = true →
    ∃ event ∈ s.pendingEvents none, event.eventId = eventId
  attempted : ∀ limit trace outcome t,
    Runs step (DurableHelixMemoryProjection.replayPending limit) s trace (.ret outcome) t →
    (∀ failure ∈ raised trace, handled failure) →
    called trace = (s.pendingEvents limit).map fun event => (event.operation, event.record)
  converges : ∀ limit trace outcome t,
    Runs step (DurableHelixMemoryProjection.replayPending limit) s trace (.ret outcome) t →
    raised trace = [] → s.pendingEvents limit = s.pendingEvents none →
    ∀ key record, newest past key = some record →
      ∃ held, t.projection key = some held ∧ SameVersion held record

end OrbitalMesh.Helix
