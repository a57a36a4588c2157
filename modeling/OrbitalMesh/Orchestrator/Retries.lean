import Mathlib.Data.Rat.Defs
import Mathlib.Algebra.Order.Ring.Rat
import Mathlib.Tactic.Linarith
import OrbitalMesh.Orchestrator.Attempts

/-!
# Retries and what becomes of the last failure

`OrchestratorService.execute` calls its adapter again while the failure is
transient, within a number of retries and a window of time.  A transient failure
that is given up is for a human to see: an incident is opened, and the record of
the execution says so.  The state keeps the answers, the delays and the incidents.
Times are exact.
-/

namespace OrbitalMesh.Orchestrator

open Atomic Raising

/-- A number of seconds as `float` reads it. -/
inductive Seconds where
  | finite (value : ℚ)
  | infinite (neg : Bool)
  | nan

variable (readText : String → Option Seconds)

/-- `float(value)`.  How texts are read is left open. -/
def pyFloat : Json → Except PyError Seconds
  | .null => .error ⟨.typeError,
      "float() argument must be a string or a real number, not 'NoneType'"⟩
  | .bool b => .ok (.finite (if b then 1 else 0))
  | .int n =>
    if 2 ^ 1024 - 2 ^ 970 ≤ n.natAbs then
      .error ⟨.overflowError, "int too large to convert to float"⟩
    else .ok (.finite n)
  | .float neg mant exp =>
    let magnitude := (mant : ℚ) * (10 : ℚ) ^ exp
    .ok (.finite (if neg then -magnitude else magnitude))
  | .str text =>
    match readText text with
    | some value => .ok value
    | none => valueError ("could not convert string to float: " ++ pyRepr text)
  | .arr _ => .error ⟨.typeError, "float() argument must be a string or a real number, not 'list'"⟩
  | .obj _ => .error ⟨.typeError, "float() argument must be a string or a real number, not 'dict'"⟩

def retryDelaySeconds (attempts : Nat)
    (failure : Option Dict) : Except PyError Seconds :=
  match failure.bind fun failure => failure.get? "retry_after_seconds" with
  | none | some .null => .ok (.finite (min (2 ^ (attempts - 1)) 8))
  | some value => pyFloat readText value

/-- `elapsed + delay > window`.  Nothing is greater than a window because of a
NaN. -/
def Seconds.exceeds (elapsed : ℚ) (window : Int) : Seconds → Bool
  | .finite value => decide ((window : ℚ) < elapsed + value)
  | .infinite neg => !neg
  | .nan => false

/-- What `if retry_after_seconds > 0: self.sleeper(retry_after_seconds)` sleeps
through, with the reading of the clock before it. -/
def Seconds.slept (now : ℚ) : Seconds → List (ℚ × ℚ)
  | .finite value => if 0 < value then [(now, value)] else []
  | _ => []

/-- The ledger, and what has happened in a call: the answers, the delays with the readings of the
clock, the sleeps, and the incidents. -/
structure RetryState where
  attempts : Table AttemptRecord
  calls : List (Except PyError CliExecutionResult)
  checks : List (ℚ × Seconds)
  sleeps : List (ℚ × ℚ)
  incidents : List Json

def RetryState.fresh (attempts : Table AttemptRecord) : RetryState :=
  { attempts, calls := [], checks := [], sleeps := [], incidents := [] }

section

variable (window : Int) (readText : String → Option Seconds) (start : ℚ)

/-- What each section does.  `start` is the reading of the clock before the first
attempt. -/
def retryStep : (op : AttemptOp) → RetryState → op.Answer → RetryState → Prop
  | .executeDecision _ _, s, answer, t => t = { s with calls := s.calls ++ [answer] }
  | .openExecutionIncident _ reason, s, _, t =>
    t = { s with incidents := s.incidents ++ [reason] }
  | .awaitRetry attempts failure, s, answer, t =>
    match retryDelaySeconds readText attempts failure with
    | .error e => answer = .error e ∧ t = s
    | .ok delay => ∃ now : ℚ,
        answer = .ok (delay.exceeds (now - start) window) ∧
        t = { s with
          checks := s.checks ++ [(now, delay)]
          sleeps := s.sleeps ++
            if delay.exceeds (now - start) window then [] else delay.slept now }
  | op, s, answer, t =>
    attemptStep op s.attempts answer t.attempts ∧ t = { s with attempts := t.attempts }

end

/-- What the checks, gates and services on the way of a repository patch answer.
A call asks each of them at most once. -/
structure PatchSurroundings where
  /-- `_repo_patch_parameter_contract_failure(decision)` -/
  parameterFailure : Option String
  /-- `getattr(self.hsai_admission_adapter, "authority_eligible", False) is True` -/
  authorityEligible : Bool
  /-- the gate for a request that is refused before the loop -/
  initialGate : Except PyError Dict
  /-- `build_repo_patch_authority_client(self.config)`, where there is no client yet -/
  authorityClient : Except PyError Unit
  /-- `preflight(...)`: the receipt, or the text of a `RepoPatchAuthorityError` -/
  preflight : Except PyError (Except String Json)
  /-- `build_hsai_admission_request_v2(...)` -/
  finalRequest : Except PyError Dict
  /-- the gate for a request that cannot be built -/
  fallbackGate : Except PyError Dict
  /-- `evaluate_hsai_gate(...)` and `validate_bridge_gate(...)` -/
  finalGate : Dict → Except PyError Dict
  /-- references and failure of `_repo_patch_admission_rejected` -/
  admissionRejection : Dict → String → Except PyError (Dict × Dict)
  /-- `_repo_patch_review_contract_failure(review)` -/
  reviewFailure : CliExecutionResult → Option String
  /-- `execute(...)` of the authority: its response, or a `RepoPatchAuthorityError` -/
  authorityExecute : Except PyError (Option Dict)
  /-- `_authority_response_contract_failure(response)` -/
  responseFailure : Dict → Option String
  /-- `_hsai_external_refs(...)` of the combined proof -/
  proofRefs : Dict → String → Dict → Option Dict → Except PyError Dict

/-- How the attempt at a patch ends: with a record that is returned at once, or
with a result and the gate that let it through. -/
inductive PatchRound where
  | returned (record : ExecutionRecord)
  | result (result : CliExecutionResult) (gate : Option Dict)

def failedResult (externalRefs failure : Dict) : CliExecutionResult :=
  { status := "failed", externalRefs, failure := some failure, retryable := false }

/-- `authority_response["execution_result"]` as a result. -/
def authorityCandidate (review : CliExecutionResult) (response executionResult : Dict) :
    CliExecutionResult :=
  let authorityRefs := match executionResult.get? "external_refs" with
    | some (.obj refs) => refs
    | _ => []
  let status := textOrEmpty executionResult "status"
  { status := if status = "" then "failed" else status
    externalRefs := (review.externalRefs.update authorityRefs).set "repo_patch_authority" (.obj
      [("state_slice", .str "mesh.repo_patch_authority_orchestration.v1"),
       ("schema_version", (response.get? "schema_version").getD .null),
       ("status", (response.get? "status").getD .null),
       ("receipt", (response.get? "receipt").getD .null),
       ("rejection", (response.get? "rejection").getD .null),
       ("authorization_proof", (response.get? "authorization_proof").getD .null)])
    failure := (executionResult.get? "failure").bind Json.asObj?
    retryable := false }

section

variable (surroundings : PatchSurroundings) (config : OrchestratorConfig)
  (decision : ContractDecision) (key startedAt : String)

def repoPatchReviewRejected (review : CliExecutionResult) : Orch ExecutionRecord :=
  let failure := (givenFailure review.failure).getD [("reason", .str "repo_patch_review_rejected")]
  executionRecord config decision key startedAt "rejected" review.externalRefs
    (some (failure.set "orchestration_mode" (.str config.orchestrationMode)))

def repoPatchAdmissionRejected (gate : Dict) (reason : String) : Orch ExecutionRecord := do
  let (externalRefs, failure) ← Raising.ofExcept (surroundings.admissionRejection gate reason)
  executionRecord config decision key startedAt "rejected" externalRefs (some failure)

def executeReviewedPatch (gate : Dict) (review : CliExecutionResult) : Orch PatchRound := do
  perform (.begin key)
  perform (.markDispatched key)
  match ← Raising.ofExcept surroundings.authorityExecute with
  | none =>
    let current ← perform (.get key)
    return .result (unknownAfterDispatch current) (some gate)
  | some response =>
    match surroundings.responseFailure response,
        (response.get? "execution_result").bind Json.asObj? with
    | none, some executionResult =>
      let candidate := authorityCandidate review response executionResult
      perform (.complete key candidate.status candidate.externalRefs candidate.failure)
      return .result candidate (some gate)
    | _, _ =>
      let current ← perform (.get key)
      return .result (unknownAfterDispatch current) (some gate)

def reviewPatch (gate : Dict) : Orch PatchRound := do
  let review ← executeDecision decision key
  if review.status != "succeeded" then
    return .returned (← repoPatchReviewRejected config decision key startedAt review)
  else
    match surroundings.reviewFailure review with
    | some reason =>
      return .returned (← repoPatchReviewRejected config decision key startedAt
        (failedResult [] [("reason", .str reason)]))
    | none => executeReviewedPatch surroundings key gate review

def admitPatch : Orch PatchRound := do
  match surroundings.finalRequest with
  | .error e =>
    if e.caughtBy [.typeError, .valueError] then
      let gate ← Raising.ofExcept surroundings.fallbackGate
      return .returned (← repoPatchAdmissionRejected surroundings config decision key startedAt
        gate "hsai_pre_execution_request_invalid")
    else Raising.ofExcept (.error e)
  | .ok request =>
    let gate ← Raising.ofExcept (surroundings.finalGate request)
    if gate.get? "allowed" = some (.bool true) ∧
        gate.get? "authority_eligible" = some (.bool true) then
      reviewPatch surroundings config decision key startedAt gate
    else
      return .returned (← repoPatchAdmissionRejected surroundings config decision key startedAt
        gate "hsai_admission_blocked")

def patchRound : Orch PatchRound := do
  let prior ← perform (.get key)
  match priorResult prior with
  | some result => return .result result none
  | none =>
    match surroundings.authorityClient with
    | .error e =>
      if e.caughtBy [.osError, .typeError, .valueError] then
        return .result (failedResult []
          [("reason", .str "repo_patch_authority_configuration_rejected"),
           ("detail", .str e.text)]) none
      else Raising.ofExcept (.error e)
    | .ok () =>
      match ← Raising.ofExcept surroundings.preflight with
      | .error detail =>
        return .result (failedResult []
          [("reason", .str "repo_patch_authority_preflight_rejected"),
           ("detail", .str detail)]) none
      | .ok _ => admitPatch surroundings config decision key startedAt

def withProof (gate : Option Dict) (result : CliExecutionResult) (externalRefs : Dict)
    (failure : Option Dict) : Orch Dict :=
  match gate with
  | none => return externalRefs
  | some gate =>
    if truthyAt externalRefs "idempotency_replayed" then return externalRefs
    else do
      let refs ← Raising.ofExcept
        (surroundings.proofRefs gate result.status externalRefs failure)
      return externalRefs.update refs

/-- The loop of `execute` for a patch, and what follows it. -/
def executeAdmittedPatch : Orch ExecutionRecord := do
  if config.maxTransientRetries < 0 then
    Raising.ofExcept (.error ⟨.runtimeError, "execution did not produce a result"⟩)
  else
    match ← patchRound surroundings config decision key startedAt with
    | .returned record => return record
    | .result result gate =>
      let (externalRefs, failure) ← settleFailure config decision result 1
      let externalRefs ← withProof surroundings gate result externalRefs failure
      closeAttempt decision key result externalRefs failure
      executionRecord config decision key startedAt result.status externalRefs failure

/-- `OrchestratorService.execute` for a repository patch. -/
def executePatch (evaluation : EvaluationResult) : Orch ExecutionRecord := do
  let startedAt ← perform .now
  let key ← Raising.ofExcept (idempotencyKey decision)
  match surroundings.parameterFailure with
  | some reason =>
    repoPatchReviewRejected config decision key startedAt
      (failedResult [] [("reason", .str reason)])
  | none =>
    let meshAllowed := meshPolicyAllows evaluation
    if !meshAllowed || !surroundings.authorityEligible then
      let gate ← Raising.ofExcept surroundings.initialGate
      let reason :=
        if !meshAllowed then "mesh_policy_blocked"
        else if gate.get? "allowed" ≠ some (.bool true) then "hsai_admission_blocked"
        else "hsai_adapter_not_authority_eligible: authority-eligible HSAI adapter required"
      repoPatchAdmissionRejected surroundings config decision key startedAt gate reason
    else if !evaluation.passed || evaluation.finalRecommendation != "execute" then
      executionRecord config decision key startedAt "rejected" []
        (some [("reason", .str evaluation.finalRecommendation),
          ("blocking_reasons", .arr (evaluation.blockingReasons.map .str))])
    else executeAdmittedPatch surroundings config decision key startedAt

end

/-- `OrchestratorService.execute`, for every decision. -/
def executeDecisionPlan (surroundings : PatchSurroundings) (config : OrchestratorConfig)
    (decision : ContractDecision) (evaluation : EvaluationResult) : Orch ExecutionRecord :=
  if repoPatchRequiresHsai decision then executePatch surroundings config decision evaluation
  else execute config decision evaluation

section

variable {window : Int} {readText : String → Option Seconds} {start : ℚ}
  {α β : Type} {s t u : RetryState} {config : OrchestratorConfig} {decision : ContractDecision}
  {key startedAt : String}

/-- Nothing but the ledger has changed. -/
structure Quiet (s t : RetryState) : Prop where
  calls : t.calls = s.calls
  checks : t.checks = s.checks
  sleeps : t.sleeps = s.sleeps
  incidents : t.incidents = s.incidents

theorem Quiet.refl (s : RetryState) : Quiet s s := ⟨rfl, rfl, rfl, rfl⟩

theorem Quiet.trans (h : Quiet s t) (h' : Quiet t u) : Quiet s u :=
  ⟨h'.calls.trans h.calls, h'.checks.trans h.checks, h'.sleeps.trans h.sleeps,
    h'.incidents.trans h.incidents⟩

/-- Every complete run of the program leaves a state in the given relation, and
returns only values with the given property. -/
def Leaves (window : Int) (readText : String → Option Seconds) (start : ℚ)
    (R : RetryState → RetryState → Prop) (ok : α → Prop) (p : Orch α) : Prop :=
  ∀ s outcome t, Completes (retryStep window readText start) p s outcome t →
    R s t ∧ ∀ a, outcome = .ok a → ok a

theorem leaves_ofExcept {x : Except PyError α} {ok : α → Prop} (h : ∀ a, x = .ok a → ok a) :
    Leaves window readText start Quiet ok (Raising.ofExcept x) := by
  intro s outcome t hrun
  obtain ⟨rfl, rfl⟩ := completes_ofExcept.mp hrun
  exact ⟨.refl t, h⟩

theorem leaves_pure {a : α} {ok : α → Prop} (h : ok a) :
    Leaves window readText start Quiet ok (pure a : Orch α) := by
  intro s outcome t hrun
  obtain ⟨rfl, rfl⟩ := completes_pure.mp hrun
  refine ⟨.refl t, fun b hb => ?_⟩
  cases hb
  exact h

variable {okx : α → Prop} {ok : β → Prop} {x : Orch α} {f : α → Orch β} {externalRefs : Dict}
  {failure : Option Dict} {result : CliExecutionResult}

theorem leaves_bind {R R₁ R₂ : RetryState → RetryState → Prop}
    (hx : Leaves window readText start R₁ okx x)
    (hf : ∀ a, okx a → Leaves window readText start R₂ ok (f a)) (hraised : ∀ s t, R₁ s t → R s t)
    (hboth : ∀ s t u, R₁ s t → R₂ t u → R s u) : Leaves window readText start R ok (x >>= f) := by
  intro s outcome t hrun
  rcases completes_andThen.mp hrun with ⟨e, rfl, hleft⟩ | ⟨a, u, hleft, hright⟩
  · refine ⟨hraised s t (hx _ _ _ hleft).1, fun a ha => ?_⟩
    cases ha
  · obtain ⟨hsu, ha⟩ := hx _ _ _ hleft
    obtain ⟨hut, hok⟩ := hf a (ha a rfl) _ _ _ hright
    exact ⟨hboth s u t hsu hut, hok⟩

theorem leaves_after_quiet (hx : Leaves window readText start Quiet okx x)
    (hf : ∀ a, okx a → Leaves window readText start Quiet ok (f a)) :
    Leaves window readText start Quiet ok (x >>= f) :=
  leaves_bind hx hf (fun _ _ h => h) fun _ _ _ => Quiet.trans

/-- A section of the ledger, or a look at the calendar. -/
def isQuiet : AttemptOp → Bool
  | .executeDecision _ _ | .openExecutionIncident _ _ | .awaitRetry _ _ => false
  | _ => true

theorem leaves_perform {op : AttemptOp} (h : isQuiet op = true) :
    Leaves window readText start Quiet (fun _ => True) (perform op) := by
  intro s outcome t hrun
  obtain ⟨r, rfl, hstep⟩ := completes_perform.mp hrun
  refine ⟨?_, fun _ _ => trivial⟩
  cases op with
  | executeDecision | openExecutionIncident | awaitRetry => cases h
  | _ =>
    obtain ⟨-, ht⟩ := hstep
    rw [ht]
    exact ⟨rfl, rfl, rfl, rfl⟩

theorem executionRecord_leaves {status : String} :
    Leaves window readText start Quiet (fun record => record.failure = failure)
      (executionRecord config decision key startedAt status externalRefs failure) := by
  refine leaves_after_quiet (leaves_perform rfl) fun completedAt _ => ?_
  refine leaves_after_quiet (leaves_ofExcept fun _ _ => trivial) fun action _ => ?_
  refine leaves_ofExcept fun record h => ?_
  obtain ⟨-, -, hrecord⟩ := bind_ok h
  cases hrecord
  rfl

theorem closeAttempt_leaves :
    Leaves window readText start Quiet (fun _ => True)
      (closeAttempt decision key result externalRefs failure) := by
  have hquiet : isQuiet (.complete key result.status externalRefs failure) = true := rfl
  unfold closeAttempt
  split
  · exact leaves_perform hquiet
  · exact leaves_pure trivial

theorem settleFailure_leaves {attempts : Nat}
    (h : (result.status != "succeeded" && result.retryable) = false) :
    Leaves window readText start Quiet (fun _ => True)
      (settleFailure config decision result attempts) := by
  unfold settleFailure
  rw [h]
  simp only [Bool.false_eq_true, ↓reduceIte]
  split <;> exact leaves_pure trivial

end

def CliExecutionResult.transient (result : CliExecutionResult) : Bool :=
  result.status != "succeeded" && result.retryable

section

variable {window : Int} {readText : String → Option Seconds} {start : ℚ}
  {s t : RetryState} {config : OrchestratorConfig} {decision : ContractDecision}
  {key startedAt : String}

/-- One more answer of the adapter. -/
structure Called (answer : Except PyError CliExecutionResult) (s t : RetryState) : Prop where
  calls : t.calls = s.calls ++ [answer]
  checks : t.checks = s.checks
  sleeps : t.sleeps = s.sleeps
  incidents : t.incidents = s.incidents

variable {answer : Except PyError CliExecutionResult} {u : RetryState}
  {outcome : Except PyError (Option CliExecutionResult × Nat)} {rounds attempts : Nat}

theorem Called.after (h : Quiet s t) (h' : Called answer t u) : Called answer s u :=
  ⟨by rw [h'.calls, h.calls], h'.checks.trans h.checks, h'.sleeps.trans h.sleeps,
    h'.incidents.trans h.incidents⟩

theorem Called.before (h : Called answer s t) (h' : Quiet t u) : Called answer s u :=
  ⟨h'.calls.trans h.calls, h'.checks.trans h.checks, h'.sleeps.trans h.sleeps,
    h'.incidents.trans h.incidents⟩

theorem executeDecision_completes {outcome : Except PyError CliExecutionResult}
    (h : Completes (retryStep window readText start) (executeDecision decision key) s outcome t) :
    Called outcome s t := by
  obtain rfl : t = { s with calls := s.calls ++ [outcome] } := completes_issue.mp h
  exact ⟨rfl, rfl, rfl, rfl⟩

theorem dispatched_completes {guarded : Bool} {outcome : Except PyError CliExecutionResult}
    (h : Completes (retryStep window readText start) (do
      let candidate ← executeDecision decision key
      if guarded then
        perform (.complete key candidate.status candidate.externalRefs candidate.failure)
      return candidate : Orch CliExecutionResult) s outcome t) : Called outcome s t := by
  rcases completes_andThen.mp h with ⟨e, rfl, hcall⟩ | ⟨candidate, u, hcall, h⟩
  · exact executeDecision_completes hcall
  · have hcalled := executeDecision_completes hcall
    cases guarded with
    | false =>
      obtain ⟨rfl, rfl⟩ := completes_pure.mp h
      exact hcalled
    | true =>
      have hquiet : isQuiet (.complete key candidate.status candidate.externalRefs
        candidate.failure) = true := rfl
      rcases completes_andThen.mp h with ⟨e, rfl, hdone⟩ | ⟨_, v, hdone, h⟩
      · obtain ⟨r, hr, -⟩ := completes_perform.mp hdone
        cases hr
      · obtain ⟨rfl, rfl⟩ := completes_pure.mp h
        exact hcalled.before (leaves_perform hquiet _ _ _ hdone).1

theorem completes_after_quiet {β : Type} {op : AttemptOp} (hop : isQuiet op = true)
    {f : op.Answer → Orch β} {outcome : Except PyError β}
    (h : Completes (retryStep window readText start) (perform op >>= f : Orch β) s outcome t) :
    ∃ r u, Quiet s u ∧ retryStep window readText start op s r u ∧
      Completes (retryStep window readText start) (f r) u outcome t := by
  rcases completes_andThen.mp h with ⟨e, rfl, hfirst⟩ | ⟨r, u, hfirst, hrest⟩
  · obtain ⟨r, hr, -⟩ := completes_perform.mp hfirst
    cases hr
  · obtain ⟨r', hr, hstep⟩ := completes_perform.mp hfirst
    cases hr
    exact ⟨r, u, (leaves_perform hop _ _ _ hfirst).1, hstep, hrest⟩

/-- A dispatch is one call of the adapter, with its answer. -/
theorem dispatch_completes {outcome : Except PyError CliExecutionResult}
    (h : Completes (retryStep window readText start) (dispatch decision key) s outcome t) :
    Called outcome s t := by
  unfold dispatch at h
  cases hguard : requiresReplayGuard decision with
  | false =>
    simp only [hguard, Bool.false_eq_true, ↓reduceIte] at h
    exact @dispatched_completes window readText start s t decision key false outcome h
  | true =>
    have hbegin : isQuiet (.begin key) = true := rfl
    have hmark : isQuiet (.markDispatched key) = true := rfl
    simp only [hguard, ↓reduceIte] at h
    obtain ⟨-, u, hsu, -, h⟩ := completes_after_quiet hbegin h
    obtain ⟨-, v, huv, -, h⟩ := completes_after_quiet hmark h
    exact .after (hsu.trans huv) (@dispatched_completes _ _ _ v t _ _ true outcome h)

/-- How one round of the loop goes, after `attempts` rounds before it.  `rest` are
the runs of the rounds after it. -/
inductive Round (window : Int) (readText : String → Option Seconds) (start : ℚ)
    (config : OrchestratorConfig) (attempts : Nat) (s : RetryState)
    (outcome : Except PyError (Option CliExecutionResult × Nat)) (t : RetryState)
    (rest : CliExecutionResult → RetryState → Prop) : Prop
  /-- the ledger answers -/
  | replayed (prior : Option AttemptRecord) (result : CliExecutionResult)
      (hprior : priorResult prior = some result) (hquiet : Quiet s t)
      (houtcome : outcome = .ok (some result, attempts + 1))
  /-- the adapter raises -/
  | raised (e : PyError) (hcalled : Called (.error e) s t) (houtcome : outcome = .error e)
  /-- the answer of the adapter ends the loop, or there is no round left -/
  | ended (candidate : CliExecutionResult) (hcalled : Called (.ok candidate) s t)
      (hlast : candidate.transient = false ∨
        config.maxTransientRetries < ((attempts + 1 : Nat) : Int))
      (houtcome : outcome = .ok (some candidate, attempts + 1))
  /-- the delay is looked at -/
  | delayed (candidate : CliExecutionResult) (u v : RetryState)
      (hcalled : Called (.ok candidate) s u) (htransient : candidate.transient = true)
      (hmore : ((attempts + 1 : Nat) : Int) ≤ config.maxTransientRetries)
      (answer : Except PyError Bool)
      (hgoes : match answer with
        | .error e => t = v ∧ outcome = .error e
        | .ok true => t = v ∧ outcome = .ok (some candidate, attempts + 1)
        | .ok false => rest candidate v)
      (hawait : retryStep window readText start (.awaitRetry (attempts + 1) candidate.failure)
        u answer v)

theorem attempt_round {prior : Option AttemptRecord} (hsu : Quiet s u)
    (h : Completes (retryStep window readText start) (match priorResult prior with
      | some result => return (some result, attempts + 1)
      | none => do
        let candidate ← dispatch decision key
        if candidate.status == "succeeded" || !candidate.retryable ||
            decide (config.maxTransientRetries < ((attempts + 1 : Nat) : Int)) then
          return (some candidate, attempts + 1)
        if ← awaitRetry (attempts + 1) candidate.failure then
          return (some candidate, attempts + 1)
        attemptLoop config decision key rounds (attempts + 1) (some candidate) :
        Orch (Option CliExecutionResult × Nat)) u outcome t) :
    Round window readText start config attempts s outcome t fun candidate v =>
      Completes (retryStep window readText start)
        (attemptLoop config decision key rounds (attempts + 1) (some candidate)) v outcome t := by
  split at h
  · next result hprior =>
    obtain ⟨rfl, rfl⟩ := completes_pure.mp h
    exact .replayed prior result hprior hsu rfl
  · rcases completes_andThen.mp h with ⟨e, rfl, hcall⟩ | ⟨candidate, v, hcall, h⟩
    · exact .raised e (.after hsu (dispatch_completes hcall)) rfl
    · have hcalled := Called.after hsu (dispatch_completes hcall)
      split at h
      · next hstop =>
        obtain ⟨rfl, rfl⟩ := completes_pure.mp h
        refine .ended candidate hcalled ?_ rfl
        simp only [CliExecutionResult.transient]
        simp only [Bool.or_eq_true, beq_iff_eq, Bool.not_eq_true', decide_eq_true_eq] at hstop
        rcases hstop with (hdone | hfinal) | hlast
        · exact .inl (by simp [hdone])
        · exact .inl (by simp [hfinal])
        · exact .inr hlast
      · next hstop =>
        simp only [Bool.or_eq_true, beq_iff_eq, Bool.not_eq_true', decide_eq_true_eq, not_or,
          Bool.not_eq_false, not_lt] at hstop
        obtain ⟨⟨hdone, hretry⟩, hmore⟩ := hstop
        have htransient : candidate.transient = true := by
          simp [CliExecutionResult.transient, hdone, hretry]
        rcases completes_andThen.mp h with ⟨e, rfl, hwait⟩ | ⟨late, w, hwait, h⟩
        · exact .delayed candidate v t hcalled htransient hmore (.error e) ⟨rfl, rfl⟩
            (completes_issue.mp hwait)
        · refine .delayed candidate v w hcalled htransient hmore (.ok late) ?_
            (completes_issue.mp hwait)
          cases late with
          | true =>
            obtain ⟨rfl, rfl⟩ := completes_pure.mp h
            exact ⟨rfl, rfl⟩
          | false => exact h

theorem attemptLoop_round {result : Option CliExecutionResult}
    (h : Completes (retryStep window readText start)
      (attemptLoop config decision key (rounds + 1) attempts result) s outcome t) :
    Round window readText start config attempts s outcome t fun candidate v =>
      Completes (retryStep window readText start)
        (attemptLoop config decision key rounds (attempts + 1) (some candidate)) v outcome t := by
  unfold attemptLoop at h
  cases hguard : requiresReplayGuard decision with
  | false =>
    simp only [hguard, Bool.false_eq_true, ↓reduceIte] at h
    rcases completes_andThen.mp h with ⟨e, rfl, hnone⟩ | ⟨prior, u, hnone, hrest⟩
    · cases (completes_pure.mp hnone).1
    · obtain ⟨-, rfl⟩ := completes_pure.mp hnone
      exact attempt_round (.refl u) hrest
  | true =>
    have hget : isQuiet (.get key) = true := rfl
    simp only [hguard, ↓reduceIte] at h
    obtain ⟨prior, u, hsu, -, h⟩ := completes_after_quiet hget h
    exact attempt_round hsu h

end

def Expired (window : Int) (start : ℚ) (t : RetryState) : Prop :=
  ∃ check, t.checks.getLast? = some check ∧ check.2.exceeds (check.1 - start) window = true

variable (config : OrchestratorConfig)

def GaveUp (window : Int) (start : ℚ) (t : RetryState) : Prop :=
  (t.calls.length : Int) = config.maxTransientRetries + 1 ∨ Expired window start t

def LeftWith (t : RetryState) (result : CliExecutionResult) : Prop :=
  t.calls.getLast? = some (.ok result) ∧ result.transient = true

/-- What holds throughout: not too many calls, no sleep beyond the window, and no
call after an answer that ends the loop. -/
structure Bounded (window : Int) (start : ℚ) (t : RetryState) :
    Prop where
  calls : t.calls.length ≤ (config.maxTransientRetries + 1).toNat
  sleeps : ∀ sleep ∈ t.sleeps, sleep.1 + sleep.2 ≤ start + window
  stops : ∀ before answer after, t.calls = before ++ .ok answer :: after →
    answer.transient = false → after = []

/-- The state between two rounds. -/
structure Underway (window : Int) (start : ℚ)
    (rounds attempts : Nat) (s : RetryState) : Prop where
  calls : s.calls.length = attempts
  budget : attempts + rounds = (config.maxTransientRetries + 1).toNat
  more : attempts = 0 ∨ 0 < rounds
  transient : ∀ answer ∈ s.calls, ∃ result, answer = .ok result ∧ result.transient = true
  waiting : ¬ Expired window start s
  sleeps : ∀ sleep ∈ s.sleeps, sleep.1 + sleep.2 ≤ start + window
  incidents : s.incidents = []

/-- What the loop ends with: the last answer, given up if it is a transient
failure; or something else, and a transient failure was not given up. -/
def LoopEnd (window : Int) (start : ℚ) (t : RetryState) :
    Except PyError (Option CliExecutionResult × Nat) → Prop
  | .ok (some result, _) =>
    t.calls.getLast? = some (.ok result) ∧
        (result.transient = true → GaveUp config window start t) ∨
      result.retryable = false ∧ ∀ last, LeftWith t last → ¬ GaveUp config window start t
  | .ok (none, _) => t.calls = []
  | .error _ => ∀ last, LeftWith t last → ¬ GaveUp config window start t

section

variable {window : Int} {readText : String → Option Seconds} {start : ℚ}
  {s t u v : RetryState} {config : OrchestratorConfig} {decision : ContractDecision}
  {key startedAt : String} {rounds attempts : Nat}

theorem Expired.congr (h : t.checks = s.checks) :
    Expired window start t ↔ Expired window start s := by
  unfold Expired
  rw [h]

variable {answer : Except PyError CliExecutionResult}

theorem Called.mem_of_followed (hcalled : Called answer s t)
    {before after : List (Except PyError CliExecutionResult)} {other : CliExecutionResult}
    (heq : t.calls = before ++ .ok other :: after) (hmore : after ≠ []) : .ok other ∈ s.calls := by
  obtain ⟨middle, last, rfl⟩ := (List.eq_nil_or_concat' after).resolve_left hmore
  have hsplit : s.calls ++ [answer] = (before ++ .ok other :: middle) ++ [last] := by
    rw [← hcalled.calls, heq]
    simp
  rw [(List.append_inj' hsplit rfl).1]
  simp

theorem Called.leftWith (hcalled : Called answer s t) {last : CliExecutionResult}
    (h : LeftWith t last) : answer = .ok last ∧ last.transient = true := by
  obtain ⟨hlast, htransient⟩ := h
  rw [hcalled.calls, List.getLast?_concat] at hlast
  exact ⟨Option.some.inj hlast, htransient⟩

theorem Underway.bounded (h : Underway config window start (rounds + 1) attempts s)
    (hcalled : Called answer s t) : Bounded config window start t := by
  refine ⟨?_, ?_, ?_⟩
  · have := h.budget
    rw [hcalled.calls, List.length_append, h.calls, List.length_singleton]
    omega
  · rw [hcalled.sleeps]
    exact h.sleeps
  · rintro before other after heq hfinal
    by_contra hmore
    obtain ⟨result, hresult, htransient⟩ := h.transient _ (hcalled.mem_of_followed heq hmore)
    cases hresult
    rw [htransient] at hfinal
    cases hfinal

theorem Underway.bounded_self (h : Underway config window start rounds attempts s) :
    Bounded config window start s := by
  refine ⟨?_, h.sleeps, ?_⟩
  · have := h.budget
    rw [h.calls]
    omega
  · rintro before other after heq hfinal
    obtain ⟨result, hresult, htransient⟩ := h.transient (.ok other) (by simp [heq])
    cases hresult
    rw [htransient] at hfinal
    cases hfinal

/-- What the ledger answers is not retried. -/
theorem priorResult_retryable {prior : Option AttemptRecord} {result : CliExecutionResult}
    (h : priorResult prior = some result) : result.retryable = false := by
  cases prior with
  | none => cases h
  | some record =>
    simp only [priorResult] at h
    split at h
    · cases h
      rfl
    · split at h
      · cases h
        rfl
      · cases h

theorem Bounded.quiet (h : Bounded config window start s) (hcalls : t.calls = s.calls)
    (hsleeps : ∀ sleep ∈ t.sleeps, sleep.1 + sleep.2 ≤ start + window) :
    Bounded config window start t := by
  refine ⟨?_, hsleeps, ?_⟩
  · rw [hcalls]
    exact h.calls
  · rw [hcalls]
    exact h.stops

theorem slept_within {delay : Seconds} {now : ℚ} (h : delay.exceeds (now - start) window = false) :
    ∀ sleep ∈ delay.slept now, sleep.1 + sleep.2 ≤ start + window := by
  intro sleep hsleep
  cases delay with
  | finite value =>
    simp only [Seconds.slept] at hsleep
    split at hsleep
    · obtain rfl : sleep = (now, value) := by simpa using hsleep
      simp only [Seconds.exceeds, decide_eq_false_iff_not, not_lt] at h
      linarith
    · cases hsleep
  | infinite neg | nan => cases hsleep

theorem awaitRetry_cases {failure : Option Dict} {answer : Except PyError Bool}
    (h : retryStep window readText start (.awaitRetry attempts failure) u answer v) :
    (∃ e, answer = .error e ∧ v = u) ∨
      ∃ now delay, answer = .ok (Seconds.exceeds (now - start) window delay) ∧
        v = { u with
          checks := u.checks ++ [(now, delay)]
          sleeps := u.sleeps ++
            if delay.exceeds (now - start) window then [] else delay.slept now } := by
  simp only [retryStep] at h
  split at h
  · next e _ => exact .inl ⟨e, h⟩
  · next delay _ =>
    obtain ⟨now, hanswer, hv⟩ := h
    exact .inr ⟨now, delay, hanswer, hv⟩

/-- **The loop.**  It keeps within its bounds, opens no incident, and ends as
`LoopEnd` says. -/
theorem attemptLoop_completes {result : Option CliExecutionResult}
    {outcome : Except PyError (Option CliExecutionResult × Nat)}
    (hs : Underway config window start rounds attempts s) (hfirst : attempts = 0 → result = none)
    (h : Completes (retryStep window readText start)
      (attemptLoop config decision key rounds attempts result) s outcome t) :
    Bounded config window start t ∧ t.incidents = [] ∧ LoopEnd config window start t outcome := by
  induction rounds generalizing attempts result s with
  | zero =>
    obtain ⟨rfl, rfl⟩ := completes_pure.mp h
    have hzero : attempts = 0 := hs.more.resolve_right (by omega)
    have hcalls : t.calls = [] := List.eq_nil_of_length_eq_zero (hs.calls.trans hzero)
    rw [hfirst hzero]
    refine ⟨⟨by simp [hcalls], hs.sleeps, ?_⟩, hs.incidents, hcalls⟩
    intro before answer after heq
    rw [hcalls] at heq
    simp at heq
  | succ rounds ih =>
    have hbudget := hs.budget
    -- as long as a round is left, the number of calls is below the limit
    cases attemptLoop_round h with
    | replayed prior replayed hprior hquiet houtcome =>
      subst houtcome
      refine ⟨hs.bounded_self.quiet hquiet.calls ?_, hquiet.incidents.trans hs.incidents,
        .inr ⟨priorResult_retryable hprior, ?_⟩⟩
      · rw [hquiet.sleeps]
        exact hs.sleeps
      · rintro last - (hlimit | hexpired)
        · rw [hquiet.calls, hs.calls] at hlimit
          omega
        · exact hs.waiting ((Expired.congr hquiet.checks).mp hexpired)
    | raised e hcalled houtcome =>
      subst houtcome
      refine ⟨hs.bounded hcalled, hcalled.incidents.trans hs.incidents, ?_⟩
      intro last hlast
      cases (hcalled.leftWith hlast).1
    | ended candidate hcalled hlast houtcome =>
      subst houtcome
      refine ⟨hs.bounded hcalled, hcalled.incidents.trans hs.incidents, .inl ⟨?_, ?_⟩⟩
      · rw [hcalled.calls, List.getLast?_concat]
      · intro htransient
        have hlimit := hlast.resolve_left (by simp [htransient])
        refine .inl ?_
        rw [hcalled.calls, List.length_append, hs.calls, List.length_singleton]
        push_cast at hlimit ⊢
        omega
    | delayed candidate u v hcalled htransient hmore answer hgoes hawait =>
      have hlength : u.calls.length = attempts + 1 := by
        rw [hcalled.calls, List.length_append, hs.calls, List.length_singleton]
      rcases awaitRetry_cases hawait with ⟨e, rfl, rfl⟩ | ⟨now, delay, rfl, rfl⟩
      · obtain ⟨rfl, rfl⟩ := hgoes
        refine ⟨hs.bounded hcalled, hcalled.incidents.trans hs.incidents, ?_⟩
        rintro last - (hlimit | hexpired)
        · rw [hlength] at hlimit
          omega
        · exact hs.waiting ((Expired.congr hcalled.checks).mp hexpired)
      · have hsleeps : ∀ sleep ∈ u.sleeps, sleep.1 + sleep.2 ≤ start + window := by
          rw [hcalled.sleeps]
          exact hs.sleeps
        cases hexceeds : delay.exceeds (now - start) window with
        | true =>
          simp only [hexceeds, ↓reduceIte, List.append_nil] at hgoes
          obtain ⟨rfl, rfl⟩ := hgoes
          refine ⟨(hs.bounded hcalled).quiet rfl hsleeps,
            hcalled.incidents.trans hs.incidents, .inl ⟨?_, fun _ => .inr ?_⟩⟩
          · simp only [hcalled.calls, List.getLast?_concat]
          · exact ⟨(now, delay), List.getLast?_concat, hexceeds⟩
        | false =>
          simp only [hexceeds, Bool.false_eq_true, ↓reduceIte] at hgoes
          refine ih ?_ (by omega) hgoes
          refine ⟨hlength, by omega, .inr (by omega), ?_, ?_, ?_, ?_⟩
          · intro other hother
            simp only [hcalled.calls, List.mem_append, List.mem_singleton] at hother
            rcases hother with hother | rfl
            · exact hs.transient other hother
            · exact ⟨candidate, rfl, htransient⟩
          · rintro ⟨check, hlast, hlate⟩
            obtain rfl : (now, delay) = check :=
              Option.some.inj (List.getLast?_concat.symm.trans hlast)
            rw [hexceeds] at hlate
            cases hlate
          · intro sleep hsleep
            rcases List.mem_append.mp hsleep with hold | hnew
            · exact hsleeps sleep hold
            · exact slept_within hexceeds sleep hnew
          · exact hcalled.incidents.trans hs.incidents

end

/-- A transient failure that the adapter left off with was seen: an incident is
open, and a record that is returned carries the route to a human. -/
def Reviewed (t : RetryState) (outcome : Except PyError ExecutionRecord) : Prop :=
  ∀ result, LeftWith t result → t.incidents ≠ [] ∧
    ∀ record, outcome = .ok record → ∃ failure, record.failure = some failure ∧
      failure.get? "human_review_route" = some (.str "human_review")

/-- A transient failure that the adapter left off with has a reason, or no members
at all, and was given up. -/
def LeftInOrder (window : Int) (start : ℚ) (t : RetryState) : Prop :=
  ∀ result, LeftWith t result →
    (∃ reason, failureReason result.failure = .ok reason) ∧ GaveUp config window start t

section

variable {window : Int} {readText : String → Option Seconds} {start : ℚ}
  {s t u : RetryState} {config : OrchestratorConfig} {decision : ContractDecision}
  {key startedAt : String} {outcome : Except PyError ExecutionRecord}

/-- Without an incident the failure was seen only if there is none. -/
theorem reviewed_iff_of_stuck (hincidents : t.incidents = [])
    (hstuck : ∀ last, LeftWith t last → ¬ GaveUp config window start t) :
    Reviewed t outcome ↔ LeftInOrder config window start t := by
  constructor
  · intro h last hlast
    exact absurd hincidents (h last hlast).1
  · intro h last hlast
    exact absurd (h last hlast).2 (hstuck last hlast)

variable {result : CliExecutionResult} {attempts : Nat}

/-- What is said of the tries does not depend on the ledger. -/
theorem Quiet.leftWith_iff (h : Quiet s t) : LeftWith t result ↔ LeftWith s result := by
  unfold LeftWith
  rw [h.calls]

theorem Quiet.gaveUp_iff (h : Quiet s t) :
    GaveUp config window start t ↔ GaveUp config window start s := by
  unfold GaveUp
  rw [h.calls, Expired.congr h.checks]

theorem settleFailure_transient {settled : Except PyError (Dict × Option Dict)}
    (htransient : result.transient = true)
    (h : Completes (retryStep window readText start)
      (settleFailure config decision result attempts) s settled t) :
    (∃ e, failureReason result.failure = .error e ∧ settled = .error e ∧ t = s) ∨
      ∃ reason, failureReason result.failure = .ok reason ∧
        t = { s with incidents := s.incidents ++ [reason] } ∧
        ∀ refs failure, settled = .ok (refs, failure) →
          ∃ members, failure = some members ∧
            members.get? "human_review_route" = some (.str "human_review") := by
  have hcondition : (result.status != "succeeded" && result.retryable) = true := htransient
  unfold settleFailure at h
  rw [hcondition] at h
  rcases completes_andThen.mp h with ⟨e, rfl, hreason⟩ | ⟨reason, v, hreason, hrest⟩
  · obtain ⟨hfound, rfl⟩ := completes_ofExcept.mp hreason
    exact .inl ⟨e, hfound.symm, rfl, rfl⟩
  · obtain ⟨hfound, rfl⟩ := completes_ofExcept.mp hreason
    refine .inr ⟨reason, hfound.symm, ?_⟩
    rcases completes_andThen.mp hrest with ⟨e, rfl, hopened⟩ | ⟨refs, w, hopened, hdone⟩
    · obtain rfl := completes_issue.mp hopened
      exact ⟨rfl, fun _ _ hok => by cases hok⟩
    · obtain rfl := completes_issue.mp hopened
      obtain ⟨rfl, rfl⟩ := completes_pure.mp hdone
      refine ⟨rfl, ?_⟩
      intro refs failure hok
      cases hok
      refine ⟨_, rfl, ?_⟩
      simp only [Dict.update, List.foldl_cons, List.foldl_nil]
      rw [Dict.get?_set_of_ne _ _ (by decide), Dict.get?_set_of_ne _ _ (by decide),
        Dict.get?_set_self]

theorem recorded_leaves {refs : Dict} {failure : Option Dict} :
    Leaves window readText start Quiet (fun record => record.failure = failure) (do
      closeAttempt decision key result refs failure
      executionRecord config decision key startedAt result.status refs failure :
        Orch ExecutionRecord) :=
  leaves_after_quiet closeAttempt_leaves fun _ _ => executionRecord_leaves

theorem finish_reviewed_iff (hincidents : s.incidents = [])
    (hend : LoopEnd config window start s (.ok (some result, attempts)))
    (h : Completes (retryStep window readText start) (do
      let (refs, failure) ← settleFailure config decision result attempts
      closeAttempt decision key result refs failure
      executionRecord config decision key startedAt result.status refs failure :
        Orch ExecutionRecord) s outcome t) :
    t.calls = s.calls ∧ t.checks = s.checks ∧ t.sleeps = s.sleeps ∧
      (Reviewed t outcome ↔ LeftInOrder config window start t) := by
  cases htransient : result.transient with
  | false =>
    have hquiet : Quiet s t := by
      rcases completes_andThen.mp h with ⟨e, rfl, hsettle⟩ | ⟨_, u, hsettle, hrest⟩
      · exact (settleFailure_leaves htransient _ _ _ hsettle).1
      · exact (settleFailure_leaves htransient _ _ _ hsettle).1.trans
          (recorded_leaves _ _ _ hrest).1
    refine ⟨hquiet.calls, hquiet.checks, hquiet.sleeps, ?_⟩
    refine reviewed_iff_of_stuck (hquiet.incidents.trans hincidents) fun last hlast => ?_
    rw [hquiet.leftWith_iff] at hlast
    rw [hquiet.gaveUp_iff]
    rcases hend with ⟨hcalled, -⟩ | ⟨-, hstuck⟩
    · obtain ⟨hlast, hfinal⟩ := hlast
      rw [hcalled] at hlast
      cases hlast
      rw [htransient] at hfinal
      cases hfinal
    · exact hstuck last hlast
  | true =>
    have hretry : result.retryable ≠ false := by
      intro hfalse
      simp [CliExecutionResult.transient, hfalse] at htransient
    obtain ⟨hcalled, hgave⟩ := hend.resolve_right fun hright => hretry hright.1
    have hgave := hgave htransient
    have hleft {v : RetryState} (hcalls : v.calls = s.calls) (last : CliExecutionResult) :
        LeftWith v last → last = result := by
      rintro ⟨hlast, -⟩
      rw [hcalls, hcalled] at hlast
      cases hlast
      rfl
    rcases completes_andThen.mp h with
      ⟨e, rfl, hsettle⟩ | ⟨⟨refs, failure⟩, u, hsettle, hrest⟩
    · rcases settleFailure_transient htransient hsettle with
        ⟨e', hreason, -, rfl⟩ | ⟨reason, hreason, rfl, -⟩
      · refine ⟨rfl, rfl, rfl, ?_, ?_⟩
        · intro hreviewed last hlast
          exact absurd hincidents (hreviewed last hlast).1
        · intro horder last hlast
          obtain ⟨reason, hfound⟩ := (horder last hlast).1
          rw [hleft rfl last hlast, hreason] at hfound
          cases hfound
      · refine ⟨rfl, rfl, rfl, fun _ last hlast => ?_, fun _ last _ => ?_⟩
        · rw [hleft rfl last hlast]
          exact ⟨⟨reason, hreason⟩, hgave⟩
        · exact ⟨by simp, fun record hrecord => by cases hrecord⟩
    · obtain ⟨hquiet, hrecord⟩ := recorded_leaves _ _ _ hrest
      rcases settleFailure_transient htransient hsettle with
        ⟨e', -, hraised, -⟩ | ⟨reason, hreason, rfl, hroute⟩
      · cases hraised
      · refine ⟨hquiet.calls, hquiet.checks, hquiet.sleeps, fun _ last hlast => ?_,
          fun _ last _ => ⟨?_, fun record houtcome => ?_⟩⟩
        · rw [hleft hquiet.calls last hlast]
          exact ⟨⟨reason, hreason⟩, hquiet.gaveUp_iff.mpr hgave⟩
        · rw [hquiet.incidents]
          simp
        · rw [hrecord record houtcome]
          exact hroute refs failure rfl

/-- Where the adapter was not called there is nothing to see. -/
theorem untried (hcalls : t.calls = []) (hsleeps : t.sleeps = []) :
    Bounded config window start t ∧ (Reviewed t outcome ↔ LeftInOrder config window start t) := by
  have hnone : ∀ last, ¬ LeftWith t last := by
    rintro last ⟨hlast, -⟩
    rw [hcalls] at hlast
    cases hlast
  refine ⟨⟨by simp [hcalls], by simp [hsleeps], ?_⟩, ?_⟩
  · intro before answer after heq
    rw [hcalls] at heq
    simp at heq
  · exact ⟨fun _ last hlast => absurd hlast (hnone last),
      fun _ last hlast => absurd hlast (hnone last)⟩

theorem underway_first (hs : Quiet (.fresh s.attempts) s) :
    Underway config window start (config.maxTransientRetries + 1).toNat 0 s := by
  refine ⟨?_, by omega, .inl rfl, ?_, ?_, ?_, hs.incidents⟩
  · rw [hs.calls]
    rfl
  · rw [hs.calls]
    exact fun _ h => nomatch h
  · rintro ⟨check, hlast, -⟩
    rw [hs.checks] at hlast
    cases hlast
  · rw [hs.sleeps]
    exact fun _ h => nomatch h

/-- **A decision that is not a patch.**  The call keeps within its bounds, and the
failure it leaves off with is seen if and only if it was left in order. -/
theorem execute_reviewed_iff {evaluation : EvaluationResult} {ledger : Table AttemptRecord}
    (h : Completes (retryStep window readText start) (execute config decision evaluation)
      (.fresh ledger) outcome t) :
    Bounded config window start t ∧ (Reviewed t outcome ↔ LeftInOrder config window start t) := by
  have hnow : isQuiet .now = true := rfl
  obtain ⟨startedAt, u, hquiet, -, h⟩ := completes_after_quiet hnow h
  rcases completes_andThen.mp h with ⟨e, rfl, hkey⟩ | ⟨key, v, hkey, hrest⟩
  · obtain ⟨-, rfl⟩ := completes_ofExcept.mp hkey
    exact untried hquiet.calls hquiet.sleeps
  · obtain ⟨-, rfl⟩ := completes_ofExcept.mp hkey
    split at hrest
    · have hrecorded := hquiet.trans (executionRecord_leaves _ _ _ hrest).1
      exact untried hrecorded.calls hrecorded.sleeps
    · have hunderway := @underway_first window start v config
        ⟨hquiet.calls, hquiet.checks, hquiet.sleeps, hquiet.incidents⟩
      rcases completes_andThen.mp hrest with ⟨e, rfl, hloop⟩ | ⟨⟨result, n⟩, w, hloop, hend⟩
      · obtain ⟨hbounded, hincidents, hstuck⟩ :=
          attemptLoop_completes hunderway (fun _ => rfl) hloop
        exact ⟨hbounded, reviewed_iff_of_stuck hincidents hstuck⟩
      · obtain ⟨hbounded, hincidents, hloopEnd⟩ :=
          attemptLoop_completes hunderway (fun _ => rfl) hloop
        cases result with
        | none =>
          obtain ⟨rfl, rfl⟩ := completes_ofExcept.mp hend
          refine ⟨hbounded, reviewed_iff_of_stuck hincidents ?_⟩
          rintro last ⟨hlast, -⟩
          rw [show t.calls = [] from hloopEnd] at hlast
          cases hlast
        | some result =>
          obtain ⟨hcalls, -, hsleeps, hiff⟩ := finish_reviewed_iff hincidents hloopEnd hend
          refine ⟨hbounded.quiet hcalls ?_, hiff⟩
          rw [hsleeps]
          exact hbounded.sleeps

end

section

variable {window : Int} {readText : String → Option Seconds} {start : ℚ}
  {config : OrchestratorConfig} {decision : ContractDecision}
  {key startedAt : String} {surroundings : PatchSurroundings} {gate : Dict}

/-- The adapter was called at most once, and nothing was slept through or
reported. -/
def CalledOnce (s t : RetryState) : Prop := Quiet s t ∨ ∃ answer, Called answer s t

def PatchRound.Final : PatchRound → Prop
  | .returned _ => True
  | .result found _ => found.retryable = false

variable {α β : Type} {review : CliExecutionResult}

theorem leaves_once_of_quiet {ok : α → Prop} {p : Orch α}
    (h : Leaves window readText start Quiet ok p) : Leaves window readText start CalledOnce ok p :=
  fun _ _ _ hrun => ⟨.inl (h _ _ _ hrun).1, (h _ _ _ hrun).2⟩

theorem leaves_once_after {okx : α → Prop} {ok : β → Prop} {x : Orch α} {f : α → Orch β}
    (hx : Leaves window readText start Quiet okx x)
    (hf : ∀ a, okx a → Leaves window readText start CalledOnce ok (f a)) :
    Leaves window readText start CalledOnce ok (x >>= f) := by
  refine leaves_bind hx hf (fun _ _ h => .inl h) fun s t u hst htu => ?_
  rcases htu with htu | ⟨answer, htu⟩
  · exact .inl (hst.trans htu)
  · exact .inr ⟨answer, .after hst htu⟩

theorem leaves_once_before {okx : α → Prop} {ok : β → Prop} {x : Orch α} {f : α → Orch β}
    (hx : Leaves window readText start CalledOnce okx x)
    (hf : ∀ a, okx a → Leaves window readText start Quiet ok (f a)) :
    Leaves window readText start CalledOnce ok (x >>= f) := by
  refine leaves_bind hx hf (fun _ _ h => h) fun s t u hst htu => ?_
  rcases hst with hst | ⟨answer, hst⟩
  · exact .inl (hst.trans htu)
  · exact .inr ⟨answer, hst.before htu⟩

theorem executeDecision_leaves :
    Leaves window readText start CalledOnce (fun _ => True) (executeDecision decision key) :=
  fun _ _ _ hrun => ⟨.inr ⟨_, executeDecision_completes hrun⟩, fun _ _ => trivial⟩

theorem returned_leaves {ok : ExecutionRecord → Prop} {p : Orch ExecutionRecord}
    (h : Leaves window readText start Quiet ok p) :
    Leaves window readText start Quiet PatchRound.Final (do return .returned (← p)) :=
  leaves_after_quiet h fun _ _ => leaves_pure trivial

theorem repoPatchReviewRejected_leaves :
    Leaves window readText start Quiet (fun _ => True)
      (repoPatchReviewRejected config decision key startedAt review) :=
  fun _ _ _ hrun => ⟨(executionRecord_leaves _ _ _ hrun).1, fun _ _ => trivial⟩

theorem repoPatchAdmissionRejected_leaves {reason : String} :
    Leaves window readText start Quiet (fun _ => True)
      (repoPatchAdmissionRejected surroundings config decision key startedAt gate reason) := by
  refine leaves_after_quiet (leaves_ofExcept fun _ _ => trivial) fun _ _ => ?_
  exact fun _ _ _ hrun => ⟨(executionRecord_leaves _ _ _ hrun).1, fun _ _ => trivial⟩

theorem unknown_leaves :
    Leaves window readText start Quiet PatchRound.Final (do
      let current ← perform (.get key)
      return .result (unknownAfterDispatch current) (some gate)) := by
  have hget : isQuiet (.get key) = true := rfl
  exact leaves_after_quiet (leaves_perform hget) fun _ _ => leaves_pure rfl

theorem executeReviewedPatch_leaves :
    Leaves window readText start Quiet PatchRound.Final
      (executeReviewedPatch surroundings key gate review) := by
  have hbegin : isQuiet (.begin key) = true := rfl
  have hmark : isQuiet (.markDispatched key) = true := rfl
  refine leaves_after_quiet (leaves_perform hbegin) fun _ _ => ?_
  refine leaves_after_quiet (leaves_perform hmark) fun _ _ => ?_
  refine leaves_after_quiet (leaves_ofExcept fun _ _ => trivial) fun response _ => ?_
  cases response with
  | none => exact unknown_leaves
  | some response =>
    simp only
    split
    · next executionResult _ _ =>
      have hcomplete : isQuiet (.complete key
        (authorityCandidate review response executionResult).status
        (authorityCandidate review response executionResult).externalRefs
        (authorityCandidate review response executionResult).failure) = true := rfl
      exact leaves_after_quiet (leaves_perform hcomplete) fun _ _ => leaves_pure rfl
    · exact unknown_leaves

theorem reviewPatch_leaves :
    Leaves window readText start CalledOnce PatchRound.Final
      (reviewPatch surroundings config decision key startedAt gate) := by
  refine leaves_once_before executeDecision_leaves fun review _ => ?_
  split
  · exact returned_leaves repoPatchReviewRejected_leaves
  · split
    · exact returned_leaves repoPatchReviewRejected_leaves
    · exact executeReviewedPatch_leaves

theorem admitPatch_leaves :
    Leaves window readText start CalledOnce PatchRound.Final
      (admitPatch surroundings config decision key startedAt) := by
  unfold admitPatch
  split
  · split
    · refine leaves_once_of_quiet ?_
      refine leaves_after_quiet (leaves_ofExcept fun _ _ => trivial) fun _ _ => ?_
      exact returned_leaves repoPatchAdmissionRejected_leaves
    · exact leaves_once_of_quiet (leaves_ofExcept fun _ h => by cases h)
  · refine leaves_once_after (leaves_ofExcept fun _ _ => trivial) fun gate _ => ?_
    split
    · exact reviewPatch_leaves
    · exact leaves_once_of_quiet (returned_leaves repoPatchAdmissionRejected_leaves)

theorem patchRound_leaves :
    Leaves window readText start CalledOnce PatchRound.Final
      (patchRound surroundings config decision key startedAt) := by
  have hget : isQuiet (.get key) = true := rfl
  refine leaves_once_after (leaves_perform hget) fun prior _ => ?_
  split
  · next result hprior =>
    exact leaves_once_of_quiet (leaves_pure (priorResult_retryable hprior))
  · split
    · split
      · exact leaves_once_of_quiet (leaves_pure rfl)
      · exact leaves_once_of_quiet (leaves_ofExcept fun _ h => by cases h)
    · refine leaves_once_after (leaves_ofExcept fun _ _ => trivial) fun receipt _ => ?_
      cases receipt with
      | error detail => exact leaves_once_of_quiet (leaves_pure rfl)
      | ok receipt => exact admitPatch_leaves

theorem withProof_leaves {gate : Option Dict} {result : CliExecutionResult} {refs : Dict}
    {failure : Option Dict} :
    Leaves window readText start Quiet (fun _ => True)
      (withProof surroundings gate result refs failure) := by
  unfold withProof
  split
  · exact leaves_pure trivial
  · split
    · exact leaves_pure trivial
    · exact leaves_after_quiet (leaves_ofExcept fun _ _ => trivial) fun _ _ => leaves_pure trivial

theorem executeAdmittedPatch_leaves :
    Leaves window readText start
      (fun s t => CalledOnce s t ∧ (config.maxTransientRetries < 0 → Quiet s t)) (fun _ => True)
      (executeAdmittedPatch surroundings config decision key startedAt) := by
  unfold executeAdmittedPatch
  split
  · intro s outcome t hrun
    have hquiet := (@leaves_ofExcept window readText start _ _ (fun _ => True) (fun _ _ => trivial)
      _ _ _ hrun).1
    exact ⟨⟨.inl hquiet, fun _ => hquiet⟩, fun _ _ => trivial⟩
  · next hsome =>
    have honce : Leaves window readText start CalledOnce (fun _ => True) (do
        match ← patchRound surroundings config decision key startedAt with
        | .returned record => return record
        | .result result gate =>
          let (externalRefs, failure) ← settleFailure config decision result 1
          let externalRefs ← withProof surroundings gate result externalRefs failure
          closeAttempt decision key result externalRefs failure
          executionRecord config decision key startedAt result.status externalRefs
            failure : Orch ExecutionRecord) := by
      refine leaves_once_before patchRound_leaves fun round hfinal => ?_
      cases round with
      | returned record => exact leaves_pure trivial
      | result found gate =>
        have hsettled : (found.status != "succeeded" && found.retryable) = false := by
          rw [show found.retryable = false from hfinal, Bool.and_false]
        refine leaves_after_quiet (settleFailure_leaves hsettled) fun settled _ => ?_
        refine leaves_after_quiet withProof_leaves fun refs _ => ?_
        exact fun _ _ _ hrun => ⟨(recorded_leaves _ _ _ hrun).1, fun _ _ => trivial⟩
    intro s outcome t hrun
    exact ⟨⟨(honce _ _ _ hrun).1, fun hneg => absurd hneg hsome⟩, fun _ _ => trivial⟩

theorem executePatch_leaves {evaluation : EvaluationResult} :
    Leaves window readText start
      (fun s t => CalledOnce s t ∧ (config.maxTransientRetries < 0 → Quiet s t)) (fun _ => True)
      (executePatch surroundings config decision evaluation) := by
  have hnow : isQuiet .now = true := rfl
  have hquietly {p : Orch ExecutionRecord} {ok : ExecutionRecord → Prop}
      (h : Leaves window readText start Quiet ok p) :
      Leaves window readText start
        (fun s t => CalledOnce s t ∧ (config.maxTransientRetries < 0 → Quiet s t)) (fun _ => True)
        p := fun _ _ _ hrun =>
    ⟨⟨.inl (h _ _ _ hrun).1, fun _ => (h _ _ _ hrun).1⟩, fun _ _ => trivial⟩
  have hafter {α : Type} {okx : α → Prop} {x : Orch α} {f : α → Orch ExecutionRecord}
      (hx : Leaves window readText start Quiet okx x)
      (hf : ∀ a, okx a → Leaves window readText start
        (fun s t => CalledOnce s t ∧ (config.maxTransientRetries < 0 → Quiet s t))
        (fun _ => True) (f a)) :
      Leaves window readText start
        (fun s t => CalledOnce s t ∧ (config.maxTransientRetries < 0 → Quiet s t)) (fun _ => True)
        (x >>= f) := by
    refine leaves_bind hx hf (fun _ _ h => ⟨.inl h, fun _ => h⟩) ?_
    rintro s t u hst ⟨htu | ⟨answer, htu⟩, hneg⟩
    · exact ⟨.inl (hst.trans htu), fun hmax => hst.trans (hneg hmax)⟩
    · exact ⟨.inr ⟨answer, .after hst htu⟩, fun hmax => hst.trans (hneg hmax)⟩
  refine hafter (leaves_perform hnow) fun startedAt _ => ?_
  refine hafter (leaves_ofExcept fun _ _ => trivial) fun key _ => ?_
  split
  · exact hquietly repoPatchReviewRejected_leaves
  · simp only
    split
    · refine hafter (leaves_ofExcept fun _ _ => trivial) fun gate _ => ?_
      exact hquietly repoPatchAdmissionRejected_leaves
    · split
      · exact hquietly executionRecord_leaves
      · exact executeAdmittedPatch_leaves

end

/-- The call keeps within its bounds, and a transient failure that the adapter left off with was
seen. -/
structure Routed (window : Int) (start : ℚ) (t : RetryState)
    (outcome : Except PyError ExecutionRecord) : Prop where
  bounded : Bounded config window start t
  reviewed : Reviewed t outcome

/-- **Retries and the last failure.**  A call is bounded, and the transient failure it leaves off
with is seen if and only if the decision is not a patch and it was left in order. -/
theorem retries_routed_iff {window : Int} {readText : String → Option Seconds} {start : ℚ}
    {surroundings : PatchSurroundings} {config : OrchestratorConfig} {decision : ContractDecision}
    {evaluation : EvaluationResult} {ledger : Table AttemptRecord} {t : RetryState}
    {outcome : Except PyError ExecutionRecord}
    (hrun : Completes (retryStep window readText start)
      (executeDecisionPlan surroundings config decision evaluation) (.fresh ledger) outcome t) :
    Bounded config window start t ∧
      (Routed config window start t outcome ↔
        ∀ result, LeftWith t result → repoPatchRequiresHsai decision = false ∧
          (∃ reason, failureReason result.failure = .ok reason) ∧
          GaveUp config window start t) := by
  unfold executeDecisionPlan at hrun
  split at hrun
  · next hpatch =>
    obtain ⟨⟨honce, hnone⟩, -⟩ := executePatch_leaves _ _ _ hrun
    have hbounded : Bounded config window start t ∧ t.incidents = [] := by
      rcases honce with hquiet | ⟨answer, hcalled⟩
      · exact ⟨(@untried window start t config outcome hquiet.calls hquiet.sleeps).1,
          hquiet.incidents⟩
      · have hsome : 0 ≤ config.maxTransientRetries := by
          by_contra hneg
          have hcalls := (hnone (by omega)).calls
          rw [hcalled.calls] at hcalls
          simp [RetryState.fresh] at hcalls
        have hcalls : t.calls = [answer] := hcalled.calls
        refine ⟨⟨?_, ?_, ?_⟩, hcalled.incidents⟩
        · rw [hcalls, List.length_singleton]
          omega
        · rw [show t.sleeps = [] from hcalled.sleeps]
          exact fun _ h => nomatch h
        · intro before other after heq _
          rw [hcalls, List.singleton_eq_append_iff] at heq
          rcases heq with ⟨rfl, heq⟩ | ⟨-, heq⟩
          · exact (List.cons.inj heq).2
          · cases heq
    refine ⟨hbounded.1, fun h last hlast => ?_, fun h => ⟨hbounded.1, fun last hlast => ?_⟩⟩
    · exact absurd hbounded.2 (h.reviewed last hlast).1
    · rw [(h last hlast).1] at hpatch
      cases hpatch
  · next hplain =>
    have hplain : repoPatchRequiresHsai decision = false := by simpa using hplain
    obtain ⟨hbounded, hiff⟩ := execute_reviewed_iff hrun
    refine ⟨hbounded, fun h last hlast => ?_, fun h => ⟨hbounded, hiff.mpr ?_⟩⟩
    · exact ⟨hplain, hiff.mp h.reviewed last hlast⟩
    · exact fun last hlast => (h last hlast).2

deriving instance DecidableEq for CliExecutionResult

def sampleTimeout : CliExecutionResult :=
  { status := "failed", externalRefs := [], failure := some [("reason", .str "timeout")],
    retryable := true }

def timeoutAnswer : (op : AttemptOp) → RetryState → Option (op.Answer × RetryState)
  | .get key, s => some (s.attempts[key]?, s)
  | .begin key, s => some ((), { s with attempts := beginAttempt s.attempts key })
  | .markDispatched key, s => some ((), { s with attempts := markDispatched s.attempts key })
  | .complete key status externalRefs failure, s =>
    some ((), { s with attempts := completeAttempt s.attempts key status externalRefs failure })
  | .executeDecision _ _, s =>
    some (.ok sampleTimeout, { s with calls := s.calls ++ [.ok sampleTimeout] })
  | .openExecutionIncident _ reason, s =>
    some (.ok [], { s with incidents := s.incidents ++ [reason] })
  | .now, s => some ("2026-07-12T16:00:00Z", s)
  | .awaitRetry attempts failure, s =>
    match retryDelaySeconds (fun _ => none) attempts failure with
    | .error e => some (.error e, s)
    | .ok delay => some (.ok (delay.exceeds (0 - 0) 60), { s with
        checks := s.checks ++ [(0, delay)]
        sleeps := s.sleeps ++ if delay.exceeds (0 - 0) 60 then [] else delay.slept 0 })

theorem timeoutAnswer_step (op : AttemptOp) (s : RetryState) (r : op.Answer) (t : RetryState)
    (h : timeoutAnswer op s = some (r, t)) : retryStep 60 (fun _ => none) 0 op s r t := by
  cases op with
  | awaitRetry attempts failure =>
    simp only [timeoutAnswer, retryStep] at h ⊢
    split at h
    · cases h
      exact ⟨rfl, rfl⟩
    · cases h
      exact ⟨0, rfl, rfl⟩
  | executeDecision decision key | openExecutionIncident decision reason =>
    cases h
    rfl
  | get key =>
    cases h
    exact ⟨⟨rfl, rfl⟩, rfl⟩
  | begin key | markDispatched key | complete key status externalRefs failure | now =>
    cases h
    exact ⟨rfl, rfl⟩

def noPatch : PatchSurroundings where
  parameterFailure := none
  authorityEligible := false
  initialGate := .ok []
  authorityClient := .ok ()
  preflight := .ok (.error "")
  finalRequest := .ok []
  fallbackGate := .ok []
  finalGate _ := .ok []
  admissionRejection _ _ := .ok ([], [])
  reviewFailure _ := none
  authorityExecute := .ok none
  responseFailure _ := none
  proofRefs _ _ _ _ := .ok []

def restartCall (retries : Int) : Orch ExecutionRecord :=
  executeDecisionPlan noPatch
    { orchestrationMode := "native_hermes", maxTransientRetries := retries } sampleRestart
    sampleEvaluation

def endsAfterOneCall (retries : Int) (incidents : Nat) : Bool :=
  ((Prog.exec timeoutAnswer 40 (restartCall retries) (.fresh ∅)).any fun run =>
    (Prog.value? run.1).isSome && decide (run.2.calls = [.ok sampleTimeout]) &&
      run.2.incidents.length == incidents)

theorem restartCall_completes {retries : Int} {incidents : Nat}
    (h : endsAfterOneCall retries incidents = true) :
    ∃ outcome t, Completes (retryStep 60 (fun _ => none) 0) (restartCall retries) (.fresh ∅)
        outcome t ∧
      t.calls = [.ok sampleTimeout] ∧ t.incidents.length = incidents := by
  obtain ⟨⟨program, t⟩, hexec, hchecks⟩ := (Option.any_eq_true _ _).mp h
  simp only [Bool.and_eq_true, decide_eq_true_eq, beq_iff_eq] at hchecks
  obtain ⟨⟨hreturned, hcalls⟩, hincidents⟩ := hchecks
  obtain ⟨trace, hruns⟩ := Prog.exec_runs timeoutAnswer_step hexec
  cases program with
  | call op k => cases hreturned
  | ret outcome => exact ⟨outcome, t, ⟨trace, hruns⟩, hcalls, hincidents⟩

/-- Without retries the first timeout is given up, and an incident is opened. -/
theorem retries_routed_at_once :
    ∃ outcome t, Completes (retryStep 60 (fun _ => none) 0) (restartCall 0) (.fresh ∅)
        outcome t ∧
      LeftWith t sampleTimeout ∧
      Routed { orchestrationMode := "native_hermes", maxTransientRetries := 0 } 60 0 t
        outcome := by
  obtain ⟨outcome, t, hrun, hcalls, -⟩ :=
    restartCall_completes (show endsAfterOneCall 0 1 = true by decide +kernel)
  refine ⟨outcome, t, hrun, ⟨by rw [hcalls]; rfl, rfl⟩, ?_⟩
  refine (retries_routed_iff hrun).2.mpr fun last hlast => ?_
  have hlast : sampleTimeout = last := by
    have hfound := hlast.1
    rw [hcalls] at hfound
    simpa using hfound
  subst hlast
  exact ⟨by decide, ⟨_, rfl⟩, .inl (by rw [hcalls]; rfl)⟩

/-- The second round takes the first timeout in the ledger for the result: nothing is retried and
no incident is opened. -/
theorem timeout_replayed_unseen :
    ∃ outcome t, Completes (retryStep 60 (fun _ => none) 0) (restartCall 2) (.fresh ∅)
        outcome t ∧
      LeftWith t sampleTimeout ∧ t.calls.length = 1 ∧
      ¬ Routed { orchestrationMode := "native_hermes", maxTransientRetries := 2 } 60 0 t
        outcome := by
  obtain ⟨outcome, t, hrun, hcalls, hincidents⟩ :=
    restartCall_completes (show endsAfterOneCall 2 0 = true by decide +kernel)
  have hleft : LeftWith t sampleTimeout := ⟨by rw [hcalls]; rfl, rfl⟩
  refine ⟨outcome, t, hrun, hleft, by rw [hcalls]; rfl, fun h => ?_⟩
  exact (h.reviewed _ hleft).1 (List.eq_nil_of_length_eq_zero hincidents)

end OrbitalMesh.Orchestrator
