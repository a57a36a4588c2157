import OrbitalMesh.Base.Interleaving
import OrbitalMesh.Bridge.Admission

/-!
# Execution attempts

`OrchestratorService.execute` hands a decision to its adapter, again while the
failure is transient.  An action that restarts a host is guarded by a durable ledger:
before the adapter is called the record of the attempt is marked as dispatched; a
record that is marked already, or finished, stops the call.

Any number of calls may run over one ledger, and any of them may die between two
sections.
-/

namespace OrbitalMesh.Orchestrator

open Atomic

structure CliExecutionResult where
  status : String
  externalRefs : Dict
  failure : Option Dict
  retryable : Bool

/-- The members of an attempt's record that are read again. -/
structure AttemptRecord where
  idempotencyKey : String
  status : String
  attemptCount : Nat
  externalRefs : Dict
  failure : Option Dict

structure ExecutionRecord where
  executionId : String
  decisionId : String
  startedAt : String
  completedAt : String
  executor : String
  status : String
  idempotencyKey : String
  appliedAction : Dict
  externalRefs : Dict
  failure : Option Dict

/-- The members of the configuration that `execute` reads. -/
structure OrchestratorConfig where
  orchestrationMode : String
  maxTransientRetries : Int

/-- `execution-record.schema.json`. -/
def executionRecordSchema : Schema :=
  .record
    ["execution_id", "decision_id", "started_at", "completed_at", "executor", "status",
     "idempotency_key", "applied_action", "external_refs"]
    [("execution_id", .text),
     ("decision_id", .text),
     ("started_at", .text),
     ("completed_at", .text),
     ("executor", .text),
     ("status", .textIn ["succeeded", "failed", "rejected"]),
     ("idempotency_key", .text),
     ("applied_action", .record ["system", "action", "parameters"]
        [("system", .text), ("action", .text), ("parameters", .object)]),
     ("external_refs", .object),
     ("failure", { types := [.object, .null] })]

def ExecutionRecord.asDict (record : ExecutionRecord) : Dict :=
  [("execution_id", .str record.executionId),
   ("decision_id", .str record.decisionId),
   ("started_at", .str record.startedAt),
   ("completed_at", .str record.completedAt),
   ("executor", .str record.executor),
   ("status", .str record.status),
   ("idempotency_key", .str record.idempotencyKey),
   ("applied_action", .obj record.appliedAction),
   ("external_refs", .obj record.externalRefs),
   ("failure", (record.failure.map Json.obj).getD .null)]

/-- `record.validate()`, and the record. -/
def ExecutionRecord.validated (record : ExecutionRecord) : Except PyError ExecutionRecord := do
  validatePayload executionRecordSchema (.obj record.asDict)
  return record

def terminalStatuses : List String := ["succeeded", "failed", "rejected"]

variable (record : Option AttemptRecord)

def hasTerminalOutcome : Bool :=
  record.any fun record => terminalStatuses.contains record.status

def dispatchedWithoutOutcome : Bool :=
  record.any fun record => record.status == "remote_command_dispatched"

variable (key : String)

/-- The record that `_update` and `begin` write where there is none. -/
def newAttempt (count : Nat) : AttemptRecord :=
  { idempotencyKey := key, status := "attempt_started", attemptCount := count,
    externalRefs := [], failure := none }

variable (attempts : Table AttemptRecord)

/-- `ExecutionAttemptStore.begin`. -/
def beginAttempt (key : String) : Table AttemptRecord :=
  match attempts[key]? with
  | some record => attempts.insert key { record with attemptCount := record.attemptCount + 1 }
  | none => attempts.insert key (newAttempt key 1)

/-- `ExecutionAttemptStore._update`. -/
def updateAttempt (key : String)
    (updates : AttemptRecord → AttemptRecord) : Table AttemptRecord :=
  attempts.insert key (updates ((attempts[key]?).getD (newAttempt key 0)))

def markDispatched (key : String) : Table AttemptRecord :=
  updateAttempt attempts key fun record => { record with status := "remote_command_dispatched" }

/-- `ExecutionAttemptStore.complete`. -/
def completeAttempt (key status : String)
    (externalRefs : Dict) (failure : Option Dict) : Table AttemptRecord :=
  updateAttempt attempts key fun record => { record with status, externalRefs, failure }

/-- The methods of the ledger, the calls of the adapter, and the clocks. -/
inductive AttemptOp where
  | get (key : String)
  | begin (key : String)
  | markDispatched (key : String)
  | complete (key status : String) (externalRefs : Dict) (failure : Option Dict)
  /-- `adapter.execute_decision(decision, idempotency_key)` -/
  | executeDecision (decision : ContractDecision) (key : String)
  /-- `adapter.open_execution_incident(decision, reason)` -/
  | openExecutionIncident (decision : ContractDecision) (reason : Json)
  /-- `datetime.now(timezone.utc).isoformat()` -/
  | now
  /-- the delay before the next attempt: slept through, or past the window -/
  | awaitRetry (attempts : Nat) (failure : Option Dict)

abbrev AttemptOp.Answer : AttemptOp → Type
  | .get _ => Option AttemptRecord
  | .executeDecision _ _ => Except PyError CliExecutionResult
  | .openExecutionIncident _ _ => Except PyError Dict
  | .now => String
  | .awaitRetry _ _ => Except PyError Bool
  | _ => Unit

/-- What each section does to the ledger.  Adapter and clocks answer
anything. -/
def attemptStep : (op : AttemptOp) → Table AttemptRecord → op.Answer →
    Table AttemptRecord → Prop
  | .get key, s, answer, t => answer = s[key]? ∧ t = s
  | .begin key, s, _, t => t = beginAttempt s key
  | .markDispatched key, s, _, t => t = markDispatched s key
  | .complete key status externalRefs failure, s, _, t =>
    t = completeAttempt s key status externalRefs failure
  | .executeDecision _ _, s, _, t => t = s
  | .openExecutionIncident _ _, s, _, t => t = s
  | .now, s, _, t => t = s
  | .awaitRetry _ _, s, _, t => t = s

/-- A part of a call of `execute`. -/
abbrev Orch (α : Type) := Raising AttemptOp AttemptOp.Answer PyError α

def perform (op : AttemptOp) : Orch op.Answer := Raising.perform op

def executeDecision (decision : ContractDecision) (key : String) : Orch CliExecutionResult :=
  (Prog.issue (AttemptOp.executeDecision decision key) :
    Prog AttemptOp AttemptOp.Answer (Except PyError CliExecutionResult))

def openExecutionIncident (decision : ContractDecision) (reason : Json) : Orch Dict :=
  (Prog.issue (AttemptOp.openExecutionIncident decision reason) :
    Prog AttemptOp AttemptOp.Answer (Except PyError Dict))

def awaitRetry (attempts : Nat) (failure : Option Dict) : Orch Bool :=
  (Prog.issue (AttemptOp.awaitRetry attempts failure) :
    Prog AttemptOp AttemptOp.Answer (Except PyError Bool))

variable (decision : ContractDecision)

/-- `decision.execution_plan[member]`. -/
def planMember (member : String) : Except PyError Json :=
  match decision.executionPlan.get? member with
  | some value => .ok value
  | none => .error ⟨.keyError, pyRepr member⟩

/-- `f"{decision.decision_id}:{decision.execution_plan['action']}"`. -/
def idempotencyKey : Except PyError String := do
  let action ← planMember decision "action"
  return decision.decisionId ++ ":" ++ pyStr action

/-- `decision.execution_plan.get(...)` names this system and this action. -/
def plans (system action : String) : Bool :=
  Json.pyEqOpt (decision.executionPlan.get? "system") (some (.str system)) &&
    Json.pyEqOpt (decision.executionPlan.get? "action") (some (.str action))

def repoPatchRequiresHsai : Bool :=
  plans decision "repo_patch_service" "investigate_and_patch"

def requiresReplayGuard : Bool :=
  repoPatchRequiresHsai decision || plans decision "systemd_service" "restart_systemd_service"

/-- The `applied_action` of a record. -/
def appliedAction : Except PyError Dict := do
  let system ← planMember decision "system"
  let action ← planMember decision "action"
  let parameters ← planMember decision "parameters"
  return [("system", system), ("action", action), ("parameters", parameters)]

def resultFromPriorAttempt (record : AttemptRecord) : CliExecutionResult :=
  { status := record.status
    externalRefs := record.externalRefs.set "idempotency_replayed" (.bool true)
    failure := record.failure
    retryable := false }

/-- The mark that `_unknown_after_dispatch` leaves in the references. -/
def withoutOutcome : String := "remote_command_dispatched_without_outcome"

def unknownAfterDispatch : CliExecutionResult :=
  { status := "failed"
    externalRefs :=
      [("idempotency_guard", .str withoutOutcome),
       ("idempotency_key", (record.map fun record => .str record.idempotencyKey).getD .null)]
    failure := some
      [("reason", .str "outcome_unknown_after_dispatch"),
       ("detail", .str ("remote command may already have executed; " ++
          "refusing to retry side-effecting action"))]
    retryable := false }

section

variable (config : OrchestratorConfig) (decision : ContractDecision) (key : String)

/-- `begin(...)` and `mark_dispatched(...)`, then the adapter, then `complete(...)`. -/
def dispatch : Orch CliExecutionResult := do
  let guarded := requiresReplayGuard decision
  if guarded then
    perform (.begin key)
    perform (.markDispatched key)
  let candidate ← executeDecision decision key
  if guarded then
    perform (.complete key candidate.status candidate.externalRefs candidate.failure)
  return candidate

/-- What the ledger answers in the adapter's place. -/
def priorResult (prior : Option AttemptRecord) : Option CliExecutionResult :=
  match prior with
  | none => none
  | some record =>
    if hasTerminalOutcome prior then some (resultFromPriorAttempt record)
    else if dispatchedWithoutOutcome prior then some (unknownAfterDispatch prior)
    else none

/-- The attempts, with the number of them and the last result.  At most `rounds`
are left. -/
def attemptLoop : (rounds attempts : Nat) → Option CliExecutionResult →
    Orch (Option CliExecutionResult × Nat)
  | 0, attempts, result => return (result, attempts)
  | rounds + 1, attempts, _ => do
    let attempts := attempts + 1
    let prior ← if requiresReplayGuard decision then perform (.get key) else pure none
    match priorResult prior with
    | some result => return (some result, attempts)
    | none =>
      let candidate ← dispatch decision key
      if candidate.status == "succeeded" || !candidate.retryable ||
          decide (config.maxTransientRetries < (attempts : Int)) then
        return (some candidate, attempts)
      if ← awaitRetry attempts candidate.failure then return (some candidate, attempts)
      attemptLoop rounds attempts (some candidate)

/-- `failure` where it is not empty. -/
def givenFailure (failure : Option Dict) : Option Dict := failure.filter fun d => !d.isEmpty

/-- `failure["reason"] if failure else "transient_execution_failure"`. -/
def failureReason (failure : Option Dict) : Except PyError Json :=
  match givenFailure failure with
  | none => .ok (.str "transient_execution_failure")
  | some failure => (failure.get? "reason").elim (.error ⟨.keyError, "'reason'"⟩) .ok

/-- The references and the failure that go into the record.  A transient failure
that is given up opens an incident. -/
def settleFailure (result : CliExecutionResult) (attempts : Nat) :
    Orch (Dict × Option Dict) := do
  if result.status != "succeeded" && result.retryable then
    let reason ← Raising.ofExcept (failureReason result.failure)
    let incident ← openExecutionIncident decision reason
    let failure := (givenFailure result.failure).getD
      [("reason", .str "transient_execution_failure")]
    return (result.externalRefs.update incident, some (failure.update
      [("human_review_route", .str "human_review"), ("attempts", .int attempts),
       ("orchestration_mode", .str config.orchestrationMode)]))
  else
    match givenFailure result.failure with
    | none => return (result.externalRefs, result.failure)
    | some failure => return (result.externalRefs, some (failure.update
        [("attempts", .int attempts), ("orchestration_mode", .str config.orchestrationMode)]))

/-- The last `self.attempt_store.complete(...)`, unless the ledger itself gave
the result. -/
def closeAttempt (result : CliExecutionResult) (externalRefs : Dict) (failure : Option Dict) :
    Orch Unit := do
  if requiresReplayGuard decision && !truthyAt externalRefs "idempotency_replayed" &&
      !Json.pyEqOpt (externalRefs.get? "idempotency_guard") (some (.str withoutOutcome)) then
    perform (.complete key result.status externalRefs failure)

/-- The validated `ExecutionRecord` of a call. -/
def executionRecord (startedAt status : String) (externalRefs : Dict)
    (failure : Option Dict) : Orch ExecutionRecord := do
  let completedAt ← perform .now
  let appliedAction ← Raising.ofExcept (appliedAction decision)
  Raising.ofExcept (ExecutionRecord.validated {
    executionId := "exe_" ++ decision.decisionId
    decisionId := decision.decisionId
    startedAt
    completedAt
    executor := config.orchestrationMode
    status
    idempotencyKey := key
    appliedAction
    externalRefs
    failure })

/-- `OrchestratorService.execute`, for a decision that is not a repository patch. -/
def execute (evaluation : EvaluationResult) : Orch ExecutionRecord := do
  let startedAt ← perform .now
  let key ← Raising.ofExcept (idempotencyKey decision)
  if !evaluation.passed || evaluation.finalRecommendation != "execute" then
    executionRecord config decision key startedAt "rejected" []
      (some [("reason", .str evaluation.finalRecommendation),
        ("blocking_reasons", .arr (evaluation.blockingReasons.map .str))])
  else
    let (result, attempts) ← attemptLoop config decision key
      (config.maxTransientRetries + 1).toNat 0 none
    match result with
    | none => Raising.ofExcept (.error ⟨.runtimeError, "execution did not produce a result"⟩)
    | some result =>
      let (externalRefs, failure) ← settleFailure config decision result attempts
      closeAttempt decision key result externalRefs failure
      executionRecord config decision key startedAt result.status externalRefs failure

end

def closed (key : String) : Bool :=
  hasTerminalOutcome attempts[key]? || dispatchedWithoutOutcome attempts[key]?

/-- What the guard relies on: nobody dispatches the attempt or ends it in between, and the adapter
reports an outcome that the ledger knows. -/
def Undisturbed : (op : AttemptOp) → Table AttemptRecord → op.Answer → Prop
  | .markDispatched other, s, _ => other = key → closed s key = false
  | .executeDecision _ _, _, answer =>
    ∀ result, answer = .ok result → result.status ∈ terminalStatuses
  | _, _, _ => True

/-- The right to call the adapter under a key: whoever marks the attempt as dispatched earns it. -/
def dispatchRight : Discipline AttemptOp AttemptOp.Answer (Table AttemptRecord)
    where
  step op s r t := Undisturbed key op s r ∧ attemptStep op s r t
  rely s t := closed s key = true → closed t key = true
  allowed
    | .complete _ status _ _, _ => status ∈ terminalStatuses
    | _, _ => True
  earn
    | .markDispatched other, _ => if other = key then 1 else 0
    | _, _ => 0
  spend
    | .executeDecision _ other, _ => if other = key then 1 else 0
    | _, _ => 0
  rely_refl _ := id
  rely_trans hst htu hs := htu (hst hs)

section

variable {key other : String} {s : Table AttemptRecord}

theorem closed_of_eq {t : Table AttemptRecord} (h : t[key]? = s[key]?) :
    closed t key = closed s key := by
  unfold closed
  rw [h]

theorem closed_beginAttempt (h : closed s key = true) :
    closed (beginAttempt s other) key = true := by
  by_cases hkey : key = other
  · subst hkey
    unfold beginAttempt
    split
    · next record hfound =>
      simpa [closed, hfound, hasTerminalOutcome, dispatchedWithoutOutcome] using h
    · next hfound => simp [closed, hfound, hasTerminalOutcome, dispatchedWithoutOutcome] at h
  · have hsame : (beginAttempt s other)[key]? = s[key]? := by
      unfold beginAttempt
      split <;> exact Table.get_insert_of_ne _ _ hkey
    rw [closed_of_eq hsame]
    exact h

theorem closed_updateAttempt {updates : AttemptRecord → AttemptRecord}
    (hstatus : ∀ record, (updates record).status ∈ terminalStatuses ∨
      (updates record).status = "remote_command_dispatched")
    (h : other = key ∨ closed s key = true) :
    closed (updateAttempt s other updates) key = true := by
  by_cases hkey : key = other
  · subst hkey
    have hupdated := hstatus ((s[key]?).getD (newAttempt key 0))
    simpa [closed, updateAttempt, hasTerminalOutcome, dispatchedWithoutOutcome] using hupdated
  · have hsame : (updateAttempt s other updates)[key]? = s[key]? :=
      Table.get_insert_of_ne _ _ hkey
    rw [closed_of_eq hsame]
    exact h.resolve_left fun heq => hkey heq.symm

theorem closed_markDispatched (h : other = key ∨ closed s key = true) :
    closed (markDispatched s other) key = true :=
  closed_updateAttempt (fun _ => .inr rfl) h

theorem closed_completeAttempt {status : String} {externalRefs : Dict} {failure : Option Dict}
    (hstatus : status ∈ terminalStatuses) (h : closed s key = true) :
    closed (completeAttempt s other status externalRefs failure) key = true :=
  closed_updateAttempt (fun _ => .inl hstatus) (.inr h)

end

theorem dispatchRight_rely (op : AttemptOp) (s : Table AttemptRecord)
    (r : op.Answer) (t : Table AttemptRecord) (hallowed : (dispatchRight key).allowed op s)
    (hstep : (dispatchRight key).step op s r t) : (dispatchRight key).rely s t := by
  obtain ⟨-, hstep⟩ := hstep
  intro hclosed
  cases op with
  | begin other =>
    obtain rfl : t = beginAttempt s other := hstep
    exact closed_beginAttempt hclosed
  | markDispatched other =>
    obtain rfl : t = markDispatched s other := hstep
    exact closed_markDispatched (.inr hclosed)
  | complete other status externalRefs failure =>
    obtain rfl : t = completeAttempt s other status externalRefs failure := hstep
    exact closed_completeAttempt hallowed hclosed
  | get _ =>
    obtain ⟨-, rfl⟩ : _ ∧ t = s := hstep
    exact hclosed
  | executeDecision _ _ | openExecutionIncident _ _ | now | awaitRetry _ _ =>
    obtain rfl : t = s := hstep
    exact hclosed

theorem earned_le_one {key : String} {startable : Orch ExecutionRecord → Prop}
    {s : Table AttemptRecord} {trace : List (Event AttemptOp AttemptOp.Answer)}
    {pool : Pool AttemptOp AttemptOp.Answer (Table AttemptRecord) (Except PyError ExecutionRecord)}
    (hrun : PoolRun
      (fun op s r t => (dispatchRight key).allowed op s ∧ (dispatchRight key).step op s r t)
      startable ⟨[], s⟩ trace pool) : earned (dispatchRight key) trace ≤ 1 := by
  have hhistory := hrun.history
    (fun trace s => earned (dispatchRight key) trace = 0 ∨
      earned (dispatchRight key) trace = 1 ∧ closed s key = true)
    (.inl rfl) ?_
  · omega
  · rintro trace op s r t hbefore ⟨hallowed, hstep⟩
    have hrely := dispatchRight_rely key op s r t hallowed hstep
    have hsum : earned (dispatchRight key) (trace ++ [⟨op, r⟩]) =
        earned (dispatchRight key) trace + (dispatchRight key).earn op r := by
      simp [earned]
    rw [hsum]
    by_cases hmark : op = .markDispatched key
    · subst hmark
      -- the mark finds the attempt open, so it is the first one
      have hopen : closed s key = false := hstep.1 rfl
      obtain rfl : t = markDispatched s key := hstep.2
      have hfirst : earned (dispatchRight key) trace = 0 := by
        rcases hbefore with hzero | ⟨-, hclosed⟩
        · exact hzero
        · rw [hclosed] at hopen
          cases hopen
      refine .inr ⟨?_, closed_markDispatched (.inl rfl)⟩
      rw [hfirst]
      simp [dispatchRight]
    · have hfree : (dispatchRight key).earn op r = 0 := by
        cases op with
        | markDispatched other =>
          have hne : other ≠ key := fun heq => hmark (by rw [heq])
          simp [dispatchRight, hne]
        | _ => rfl
      rw [hfree, Nat.add_zero]
      rcases hbefore with hzero | ⟨hone, hclosed⟩
      · exact .inl hzero
      · exact .inr ⟨hone, hrely hclosed⟩

section

variable {config : OrchestratorConfig} {decision : ContractDecision} {key : String}

theorem respects_free {op : AttemptOp}
    (hdispatch : ∀ decision other, op ≠ .executeDecision decision other)
    (hcomplete : ∀ other status refs failure, op ≠ .complete other status refs failure) :
    Raising.Respects (dispatchRight key) (perform op) fun _ => True := by
  refine Raising.respects_perform (fun s => ?_) (fun r => ?_) fun _ _ _ _ => trivial
  · cases op with
    | complete other status refs failure => exact absurd rfl (hcomplete other status refs failure)
    | _ => trivial
  · cases op with
    | executeDecision decision other => exact absurd rfl (hdispatch decision other)
    | _ => rfl

theorem dispatch_respects (hguard : requiresReplayGuard decision = true) :
    Raising.Respects (dispatchRight key) (dispatch decision key)
      fun candidate => candidate.status ∈ terminalStatuses := by
  unfold dispatch
  simp only [hguard, ↓reduceIte]
  refine Raising.respects_then (respects_free (by simp) (by simp)) fun _ => ?_
  intro c s
  refine Raising.wp_andThen ?_
  intro t _
  refine ⟨trivial, fun r u _ => ⟨Nat.zero_le _, ?_⟩⟩
  have hearn : (dispatchRight key).earn (.markDispatched key) r = 1 := if_pos rfl
  have hfree : (dispatchRight key).spend (.markDispatched key) r = 0 := rfl
  intro u' _
  refine Raising.wp_andThen ?_
  intro v _
  refine ⟨trivial, fun answer w hanswer => ⟨?_, ?_⟩⟩
  · have hspend : (dispatchRight key).spend (.executeDecision decision key) answer = 1 :=
      if_pos rfl
    omega
  · intro w' _
    cases answer with
    | error e =>
      intro x _ a ha
      cases ha
    | ok candidate =>
      have hstatus : candidate.status ∈ terminalStatuses := hanswer.1 candidate rfl
      refine Raising.respects_then ?_ (fun _ => ?_) _ _
      · exact Raising.respects_perform (fun _ => hstatus) (fun _ => rfl) fun _ _ _ _ => trivial
      · exact Raising.respects_pure hstatus

variable {result : CliExecutionResult}

theorem priorResult_status {prior : Option AttemptRecord} (h : priorResult prior = some result) :
    result.status ∈ terminalStatuses := by
  cases prior with
  | none => cases h
  | some record =>
    simp only [priorResult] at h
    split at h
    · next hterminal =>
      cases h
      simpa [hasTerminalOutcome, resultFromPriorAttempt] using hterminal
    · split at h
      · cases h
        simp [unknownAfterDispatch, terminalStatuses]
      · cases h

theorem attemptLoop_respects (hguard : requiresReplayGuard decision = true) {rounds : Nat} :
    ∀ {attempts : Nat} {result : Option CliExecutionResult},
      (∀ candidate ∈ result, candidate.status ∈ terminalStatuses) →
      Raising.Respects (dispatchRight key) (attemptLoop config decision key rounds attempts result)
        fun outcome => ∀ candidate ∈ outcome.1, candidate.status ∈ terminalStatuses := by
  induction rounds with
  | zero =>
    intro attempts result hresult
    exact Raising.respects_pure hresult
  | succ rounds ih =>
    intro attempts result _
    unfold attemptLoop
    simp only [hguard, ↓reduceIte]
    refine Raising.respects_then (respects_free (by simp) (by simp)) fun prior => ?_
    split
    · next replayed hprior =>
      refine Raising.respects_pure ?_
      simpa using priorResult_status hprior
    · refine Raising.respects_andThen (dispatch_respects hguard) fun candidate hstatus => ?_
      have hended : ∀ other ∈ some candidate, other.status ∈ terminalStatuses := by
        simpa using hstatus
      split
      · exact Raising.respects_pure hended
      · refine Raising.respects_then ?_ fun expired => ?_
        · intro c s t _
          exact ⟨trivial, fun r u _ => ⟨Nat.zero_le _, fun _ _ _ _ => trivial⟩⟩
        · split
          · exact Raising.respects_pure hended
          · exact ih hended

theorem settleFailure_respects {attempts : Nat} :
    Raising.Respects (dispatchRight key) (settleFailure config decision result attempts)
      fun _ => True := by
  unfold settleFailure
  split
  · refine Raising.respects_then (Raising.respects_ofExcept fun _ _ => trivial) fun reason => ?_
    refine Raising.respects_then ?_ fun incident => ?_
    · intro c s t _
      exact ⟨trivial, fun r u _ => ⟨Nat.zero_le _, fun _ _ _ _ => trivial⟩⟩
    · exact Raising.respects_pure trivial
  · split <;> exact Raising.respects_pure trivial

variable {externalRefs : Dict} {failure : Option Dict}

theorem closeAttempt_respects (hstatus : result.status ∈ terminalStatuses) :
    Raising.Respects (dispatchRight key) (closeAttempt decision key result externalRefs failure)
      fun _ => True := by
  unfold closeAttempt
  split
  · exact Raising.respects_perform (fun _ => hstatus) (fun _ => rfl) fun _ _ _ _ => trivial
  · exact Raising.respects_pure trivial

theorem executionRecord_respects {startedAt status : String} :
    Raising.Respects (dispatchRight key)
      (executionRecord config decision key startedAt status externalRefs failure)
      fun _ => True := by
  refine Raising.respects_then (respects_free (by simp) (by simp)) fun _ => ?_
  refine Raising.respects_then (Raising.respects_ofExcept fun _ _ => trivial) fun _ => ?_
  exact Raising.respects_ofExcept fun _ _ => trivial

theorem execute_respects (hguard : requiresReplayGuard decision = true)
    (hkey : idempotencyKey decision = .ok key) {evaluation : EvaluationResult} :
    Raising.Respects (dispatchRight key) (execute config decision evaluation) fun _ => True := by
  refine Raising.respects_then (respects_free (by simp) (by simp)) fun startedAt => ?_
  have hfound : ∀ found, idempotencyKey decision = .ok found → found = key := by
    intro found hfound
    rw [hkey] at hfound
    exact (Except.ok.inj hfound).symm
  refine Raising.respects_andThen (Raising.respects_ofExcept hfound) ?_
  rintro _ rfl
  split
  · exact executionRecord_respects
  · refine Raising.respects_andThen (attemptLoop_respects hguard (by simp)) ?_
    rintro ⟨result, attempts⟩ hended
    cases result with
    | none => exact Raising.respects_ofExcept fun _ _ => trivial
    | some result =>
      refine Raising.respects_then settleFailure_respects ?_
      rintro ⟨externalRefs, failure⟩
      refine Raising.respects_then (closeAttempt_respects (hended result rfl)) fun _ => ?_
      exact executionRecord_respects

end

/-- The section calls the adapter under this key. -/
def isDispatch : AttemptOp → Bool
  | .executeDecision _ other => other == key
  | _ => false

variable (trace : List (Event AttemptOp AttemptOp.Answer))

/-- How often the adapter was called under a key. -/
def dispatches : Nat :=
  trace.countP fun e => isDispatch key e.op

/-- The calls of the adapter are the rights used. -/
theorem dispatches_eq_spent : dispatches key trace = spent (dispatchRight key) trace := by
  induction trace with
  | nil => rfl
  | cons e rest ih =>
    have hspend : (dispatchRight key).spend e.op e.resp =
        if isDispatch key e.op then 1 else 0 := by
      obtain ⟨op, resp⟩ := e
      cases op with
      | executeDecision decision other => simp [dispatchRight, isDispatch]
      | _ => rfl
    simp only [dispatches, spent, List.countP_cons, List.map_cons, List.sum_cons] at ih ⊢
    omega

def restartKey : String :=
  decision.decisionId ++ ":" ++ "restart_systemd_service"

theorem idempotencyKey_restart {decision : ContractDecision}
    (h : plans decision "systemd_service" "restart_systemd_service" = true) :
    idempotencyKey decision = .ok (restartKey decision) := by
  have haction : decision.executionPlan.get? "action" = some (.str "restart_systemd_service") := by
    simp only [plans, Bool.and_eq_true] at h
    exact Json.pyEqOpt_str_iff.mp h.2
  simp [idempotencyKey, planMember, haction, restartKey, pyStr]

/-- **One restart for each decision.**  However many calls run and die, the adapter is called at
most once if nothing disturbs the attempt. -/
theorem dispatched_at_most_once {decision : ContractDecision}
    (hrestart : plans decision "systemd_service" "restart_systemd_service" = true)
    {attempts : Table AttemptRecord} {trace : List (Event AttemptOp AttemptOp.Answer)}
    {pool : Pool AttemptOp AttemptOp.Answer (Table AttemptRecord)
      (Except PyError ExecutionRecord)}
    (hrun : PoolRun
      (fun op s r t => Undisturbed (restartKey decision) op s r ∧ attemptStep op s r t)
      (fun p => ∃ config evaluation, p = execute config decision evaluation)
      ⟨[], attempts⟩ trace pool) : dispatches (restartKey decision) trace ≤ 1 := by
  have hguard : requiresReplayGuard decision = true := by simp [requiresReplayGuard, hrestart]
  have hfunded := @PoolRun.funded _ _ _ _ (dispatchRight (restartKey decision)) _ _ _ _
    (by
      rintro p ⟨config, evaluation, rfl⟩ s -
      have hcall := @execute_respects config _ _ hguard (idempotencyKey_restart hrestart) evaluation
      exact (hcall 0 s).mono fun _ _ _ _ => trivial)
    (fun op s r t _ => dispatchRight_rely _ op s r t) hrun
  obtain ⟨-, hallowed, total, -, hsum⟩ := hfunded
  have hearned := earned_le_one hallowed
  rw [dispatches_eq_spent]
  omega

def sampleRestart : ContractDecision :=
  { decisionId := "d1"
    triggerId := "t1"
    summary := "restart the validator"
    decisionType := "restart_systemd_service"
    autonomyTier := "approval_required"
    reasoning := []
    expectedOutcome := []
    risk := []
    confidence := .int 1
    executionPlan :=
      [("system", .str "systemd_service"), ("action", .str "restart_systemd_service"),
       ("parameters", .obj []), ("rollback_plan", .str "none")] }

def sampleEvaluation : EvaluationResult :=
  { evaluationId := "e1"
    decisionId := "d1"
    passed := true
    finalRecommendation := "execute"
    stageResults := .obj []
    blockingReasons := []
    reviewRoute := none }

def sampleCall : Orch ExecutionRecord :=
  execute { orchestrationMode := "native_hermes", maxTransientRetries := 0 } sampleRestart
    sampleEvaluation

def sampleOutcome : CliExecutionResult :=
  { status := "succeeded", externalRefs := [], failure := none, retryable := false }

def sampleAnswer (guarded : Bool) : (op : AttemptOp) → Table AttemptRecord →
    Option (op.Answer × Table AttemptRecord)
  | .get key, s => some (s[key]?, s)
  | .begin key, s => some ((), beginAttempt s key)
  | .markDispatched key, s =>
    if guarded && closed s key then none else some ((), markDispatched s key)
  | .complete key status externalRefs failure, s =>
    some ((), completeAttempt s key status externalRefs failure)
  | .executeDecision _ _, s => some (.ok sampleOutcome, s)
  | .openExecutionIncident _ _, s => some (.ok [], s)
  | .now, s => some ("2026-07-12T16:00:00Z", s)
  | .awaitRetry _ _, s => some (.ok true, s)

theorem sampleAnswer_step (guarded : Bool) (op : AttemptOp) (s : Table AttemptRecord)
    (r : op.Answer) (t : Table AttemptRecord) (h : sampleAnswer guarded op s = some (r, t)) :
    attemptStep op s r t ∧ (guarded = true → Undisturbed (restartKey sampleRestart) op s r) := by
  cases op with
  | markDispatched key =>
    simp only [sampleAnswer] at h
    split at h
    · cases h
    · next hopen =>
      cases h
      refine ⟨rfl, ?_⟩
      rintro rfl hkey
      rw [hkey] at hopen
      simpa using hopen
  | executeDecision decision key =>
    cases h
    refine ⟨rfl, ?_⟩
    rintro - result hresult
    cases hresult
    simp [sampleOutcome, terminalStatuses]
  | get key =>
    cases h
    exact ⟨⟨rfl, rfl⟩, fun _ => trivial⟩
  | begin key | complete key status externalRefs failure | openExecutionIncident _ _ | now
  | awaitRetry _ _ =>
    cases h
    exact ⟨rfl, fun _ => trivial⟩

theorem two_calls_run {guarded : Bool} {turns : List Nat} {n : Nat}
    (h : (scheduleTrace (sampleAnswer guarded) turns [sampleCall, sampleCall] ∅).map
      (fun run => dispatches (restartKey sampleRestart) run.1) = some n) :
    ∃ trace pool, PoolRun
        (fun op s r t =>
          (guarded = true → Undisturbed (restartKey sampleRestart) op s r) ∧ attemptStep op s r t)
        (fun p => ∃ config evaluation, p = execute config sampleRestart evaluation)
        ⟨[], ∅⟩ trace pool ∧
      dispatches (restartKey sampleRestart) trace = n := by
  obtain ⟨⟨trace, threads, s⟩, hrun, hcount⟩ := Option.map_eq_some_iff.mp h
  have hinterleaves := scheduleTrace_interleaves
    (fun op s r t hanswer => (sampleAnswer_step guarded op s r t hanswer).symm) hrun
  refine ⟨trace, _, (PoolRun.startAll ∅ ?_).trans hinterleaves.poolRun, hcount⟩
  simp only [List.mem_cons, List.not_mem_nil, or_false, forall_eq_or_imp, forall_eq]
  exact ⟨⟨_, _, rfl⟩, _, _, rfl⟩

/-- A call after the other finds the attempt ended and does not restart
again. -/
theorem dispatched_at_most_once_sample :
    ∃ trace pool, PoolRun
        (fun op s r t =>
          Undisturbed (restartKey sampleRestart) op s r ∧ attemptStep op s r t)
        (fun p => ∃ config evaluation, p = execute config sampleRestart evaluation)
        ⟨[], ∅⟩ trace pool ∧
      0 < dispatches (restartKey sampleRestart) trace ∧
      dispatches (restartKey sampleRestart) trace ≤ 1 := by
  obtain ⟨trace, pool, hrun, hcount⟩ := @two_calls_run true
    [0, 0, 0, 0, 0, 0, 0, 0, 1, 1, 1] 1 (by decide +kernel)
  simp only [forall_const] at hrun
  exact ⟨trace, pool, hrun, by omega, dispatched_at_most_once (by decide) hrun⟩

/-- **Two restarts.**  Two calls look the attempt up before either of them has
marked it; both go on to the adapter. -/
theorem dispatched_twice :
    ∃ trace pool, PoolRun attemptStep
        (fun p => ∃ config evaluation, p = execute config sampleRestart evaluation)
        ⟨[], ∅⟩ trace pool ∧
      dispatches (restartKey sampleRestart) trace = 2 := by
  obtain ⟨trace, pool, hrun, hcount⟩ := @two_calls_run false
    [0, 0, 1, 1, 0, 0, 0, 1, 1, 1] 2 (by decide +kernel)
  exact ⟨trace, pool, hrun.mono fun op s r t hstep => hstep.2, hcount⟩

end OrbitalMesh.Orchestrator
